import KernelLaunch.Proofs.Lowering.Parameters

/-!
# What a call site hands over unread

The operands of a call are handed over as they are: on other operands a site has
the same dialogue and the same call but for them. Of the arrays at the call nothing
but the number of their dimensions is read; the shapes that a compiler is asked for
and the types of the results are those of the kernel.
-/

namespace KernelLaunch

variable {σ P V W : Type}

/-- The same call on other operands. -/
def CallDescriptor.map (f : V → W) (call : CallDescriptor V) : CallDescriptor W :=
  { call with operands := call.operands.map f }

/-- The same result with other operands. -/
def Lowered.map (f : V → W) : Lowered V → Lowered W
  | .custom call => .custom (call.map f)
  | .interpreted operands => .interpreted (operands.map f)

/-- The same report with other operands in its outcome. -/
def Report.map (f : V → W) (report : Report V) : Report W :=
  ⟨Lowered.map f <$> report.outcome, report.log⟩

/-- The same assembly on other operands. -/
def Assembly.map (f : V → W) (assembly : Assembly V) : Assembly W :=
  { assembly with operands := assembly.operands.map f }

/-- The same call site on other operands. -/
def CallSite.map (f : V → W) (site : CallSite P V) : CallSite P W :=
  { site with operands := site.operands.map f }

/-- The same dialogue with other operands in the reports. -/
def Dialogue.map (f : V → W) : Dialogue P V → Dialogue P W
  | .finished report => .finished (report.map f)
  | .asking request conclude => .asking request fun answer => (conclude answer).map f

/-- A call on other operands is assembled alike. -/
theorem Assembly.assemble_map (f : V → W) (assembly : Assembly V) :
    (assembly.map f).assemble = CallDescriptor.map f <$> assembly.assemble := by
  simp only [assemble, map_bind, map_pure]
  rfl

/-- The layouts of arrays depend on their ranks. -/
theorem Layout.ofShapes_congr {shapes others : List Shape}
    (hranks : shapes.map Shape.rank = others.map Shape.rank) :
    ofShapes shapes = ofShapes others := by
  have hrows : ∀ shapes : List Shape, ofShapes shapes = (shapes.map Shape.rank).map rowMajor := by
    simp [ofShapes, Function.comp_def]
  rw [hrows, hrows, hranks]

/-- Holding a dialogue with other operands changes nothing but the operands of the
report. -/
theorem Dialogue.hold_map (f : V → W) (compiler : Compiler σ P) (memory : σ)
    (dialogue : Dialogue P V) :
    (dialogue.map f).hold compiler memory =
      ((dialogue.hold compiler memory).1.map f, (dialogue.hold compiler memory).2) := by
  cases dialogue <;> rfl

namespace CallSite

variable [ToString P]

/-- The report on a planned site changes with the operands alone. -/
theorem conclude_map (f : V → W) (site : CallSite P V) (plan : Plan)
    (answer : Except LoweringError Compiled) :
    (site.map f).conclude plan answer = (site.conclude plan answer).map f := by
  cases answer with
  | error error => rfl
  | ok compiled =>
    have hassemble : ((site.map f).assembly plan compiled).assemble =
        CallDescriptor.map f <$> (site.assembly plan compiled).assemble :=
      Assembly.assemble_map f (site.assembly plan compiled)
    simp only [conclude, hassemble, Report.map]
    cases (site.assembly plan compiled).assemble <;> rfl

/-- The dialogue of a site changes with the operands alone. -/
theorem dialogue_map (f : V → W) (site : CallSite P V) :
    (site.map f).dialogue = site.dialogue.map f := by
  unfold dialogue
  by_cases hinterpret : site.interpret = true
  · rw [if_pos hinterpret, if_pos (show (site.map f).interpret = true from hinterpret)]
    rfl
  · rw [if_neg hinterpret, if_neg (show ¬(site.map f).interpret = true from hinterpret)]
    have hplan : (site.map f).plan = site.plan := rfl
    rw [hplan]
    cases site.plan with
    | error error => rfl
    | ok plan => exact congrArg _ (funext fun answer => conclude_map f site plan answer)

/-- The dialogue of a site depends on the ranks of the arrays at the call. -/
theorem dialogue_of_ranks (site : CallSite P V) {operandShapes resultShapes : List Shape}
    (hoperands : operandShapes.map Shape.rank = site.operandShapes.map Shape.rank)
    (hresults : resultShapes.map Shape.rank = site.resultShapes.map Shape.rank) :
    { site with operandShapes, resultShapes }.dialogue = site.dialogue := by
  have hconclude : ∀ plan, { site with operandShapes, resultShapes }.conclude plan =
      site.conclude plan := by
    intro plan
    funext answer
    cases answer with
    | error error => rfl
    | ok compiled =>
      have hassemble :
          (assembly { site with operandShapes, resultShapes } plan compiled).assemble =
            (site.assembly plan compiled).assemble := by
        simp only [assembly, Assembly.assemble, Layout.ofShapes_congr hoperands,
          Layout.ofShapes_congr hresults]
        rfl
      simp only [conclude, hassemble]
      rfl
  simp only [dialogue, hconclude]
  rfl

/-- On other operands every site has the same report but for the operands of its
result, and with other arrays of the same ranks at the call it is the same to every
compiler. -/
theorem lower_map_and_ranks (site : CallSite P V) :
    (∀ (σ W : Type) (f : V → W) (compiler : Compiler σ P) (memory : σ),
      (site.map f).lower compiler memory =
        ((site.lower compiler memory).1.map f, (site.lower compiler memory).2)) ∧
    ∀ operandShapes resultShapes : List Shape,
      operandShapes.map Shape.rank = site.operandShapes.map Shape.rank →
      resultShapes.map Shape.rank = site.resultShapes.map Shape.rank →
      Indistinguishable { site with operandShapes, resultShapes } site := by
  refine ⟨fun σ W f compiler memory => ?_, fun operandShapes resultShapes hoperands hresults => ?_⟩
  · rw [lower_eq_hold, lower_eq_hold, dialogue_map, Dialogue.hold_map]
  · exact indistinguishable_of_dialogue (site.dialogue_of_ranks hoperands hresults)

/-- Operands that are turned into texts, and arrays at the call that are replaced by
empty ones of an element type that stands in no tensor. -/
theorem lower_texts_and_empty_arrays :
    let site :=
      { bare (.scalar 16) .empty with
        operands := [7, 8]
        operandShapes := [⟨.real 8 23, [128]⟩, ⟨.real 8 23, []⟩]
        resultShapes := [⟨.real 8 23, [2, 3]⟩] }
    let compiler := Compiler.constant ⟨⟨⟨[[1]], none⟩, ""⟩, .scalar 16⟩
    let untyped : ElementType := .unsigned 24
    let operandShapes : List Shape := [⟨untyped, [0]⟩, ⟨untyped, []⟩]
    let resultShapes : List Shape := [⟨untyped, [0, 0]⟩]
    operandShapes.map Shape.rank = site.operandShapes.map Shape.rank ∧
      resultShapes.map Shape.rank = site.resultShapes.map Shape.rank ∧
      TensorElement.ofType? untyped = none ∧
      ((site.map toString).lower compiler ()).1 = (site.lower compiler ()).1.map toString ∧
      Indistinguishable { site with operandShapes, resultShapes } site := by
  intro site compiler untyped operandShapes resultShapes
  refine ⟨rfl, rfl, by decide, ?_, (lower_map_and_ranks site).2 _ _ rfl rfl⟩
  rw [(lower_map_and_ranks site).1]

end CallSite

end KernelLaunch
