import KernelLaunch.Proofs.Lowering.Content
import Mathlib.Data.List.Forall2

/-!
# When an emitted call is consistent

The types of the results come from the outputs of the kernel and their layouts from the
arrays at the call, and the two are never compared. So whether the layouts of a call fit
its types is up to the call site: they do exactly if its arrays agree with the kernel,
and a site whose arrays disagree gets the same call as any other but for the layouts.
-/

namespace KernelLaunch

variable {σ P V : Type}

namespace CallDescriptor

/-- There is one result layout for each result type, and it lists each dimension of the
type once. -/
def ResultsFit (call : CallDescriptor V) : Prop :=
  List.Forall₂ (fun layout type => layout.Perm (List.range type.lengths.length))
    call.resultLayouts call.resultTypes

/-- There is one operand layout for each operand. -/
def OperandsFit (call : CallDescriptor V) : Prop :=
  call.operandLayouts.length = call.operands.length

/-- The layouts fit what they are the layouts of. -/
def Consistent (call : CallDescriptor V) : Prop :=
  call.ResultsFit ∧ call.OperandsFit

/-- The same call with the layouts of other arrays. -/
def withArrays (operandShapes resultShapes : List Shape) (call : CallDescriptor V) :
    CallDescriptor V :=
  { call with
    operandLayouts := Layout.ofShapes operandShapes
    resultLayouts := Layout.ofShapes resultShapes }

end CallDescriptor

/-- The same result with the layouts of other arrays. Interpreted operands have none. -/
def Lowered.withArrays (operandShapes resultShapes : List Shape) : Lowered V → Lowered V
  | .custom call => .custom (call.withArrays operandShapes resultShapes)
  | .interpreted operands => .interpreted operands

namespace CallSite

/-- There is one result array for each output of the kernel, and it is of the same rank. -/
def ResultsAgree (site : CallSite P V) : Prop :=
  List.Forall₂ (fun array output => array.rank = output.rank) site.resultShapes site.outShapes

/-- There is one operand array for each operand. -/
def OperandsAgree (site : CallSite P V) : Prop :=
  site.operandShapes.length = site.operands.length

/-- The arrays at the call agree with the kernel and with the operands. -/
def ArraysAgree (site : CallSite P V) : Prop :=
  site.ResultsAgree ∧ site.OperandsAgree

end CallSite

/-- The layout of an array lists the dimensions of a type exactly if there are as many. -/
theorem Layout.rowMajor_perm_range_iff {rank count : Nat} :
    (rowMajor rank).Perm (List.range count) ↔ rank = count := by
  constructor
  · intro hperm
    simpa using hperm.length_eq
  · rintro rfl
    exact List.reverse_perm _

namespace Assembly

variable {assembly : Assembly V} {call : CallDescriptor V}

/-- The result layouts of an assembled call fit its result types exactly if the result
arrays are of the ranks of the outputs. -/
theorem resultsFit_iff (hcall : assembly.assemble = .ok call) :
    call.ResultsFit ↔ List.Forall₂ (fun array output => array.rank = output.rank)
      assembly.resultShapes assembly.outShapes := by
  obtain ⟨_, types, _, _, _, htypes, _, _, rfl⟩ := assemble_eq_ok_iff.mp hcall
  -- The types and the layouts are both mapped from shapes, the ones from the outputs and the
  -- others from the arrays, so the two are compared where they come from.
  rw [← TensorType.map_shape_of_mapM_ofShape htypes, List.forall₂_map_right_iff]
  simp only [CallDescriptor.ResultsFit, Layout.ofShapes, List.forall₂_map_left_iff,
    Layout.rowMajor_perm_range_iff]
  rfl

/-- An assembled call has one layout for each operand exactly if there is an array for
each operand. -/
theorem operandsFit_iff (hcall : assembly.assemble = .ok call) :
    call.OperandsFit ↔ assembly.operandShapes.length = assembly.operands.length := by
  obtain ⟨_, _, _, _, _, _, _, _, rfl⟩ := assemble_eq_ok_iff.mp hcall
  simp [CallDescriptor.OperandsFit]

/-- With other arrays a call is assembled alike but for the layouts. -/
theorem assemble_withArrays (assembly : Assembly V) (operandShapes resultShapes : List Shape) :
    { assembly with operandShapes, resultShapes }.assemble =
      CallDescriptor.withArrays operandShapes resultShapes <$> assembly.assemble := by
  simp only [assemble, map_bind, map_pure]
  rfl

end Assembly

namespace CallSite

variable [ToString P]

/-- With other arrays a site has the same outcome but for the layouts. -/
theorem outcome_withArrays (compiler : Compiler σ P) (site : CallSite P V) (memory : σ)
    (operandShapes resultShapes : List Shape) :
    ({ site with operandShapes, resultShapes }.lower compiler memory).1.outcome =
      Lowered.withArrays operandShapes resultShapes <$>
        (site.lower compiler memory).1.outcome := by
  by_cases hinterpret : site.interpret = true
  · have hother : { site with operandShapes, resultShapes }.interpret = true := hinterpret
    rw [lower_of_interpret compiler hother, lower_of_interpret compiler hinterpret]
    rfl
  · have hcompiled : site.interpret = false := by simpa using hinterpret
    have hother : { site with operandShapes, resultShapes }.interpret = false := hcompiled
    have hassemble : ∀ plan compiled,
        (assembly { site with operandShapes, resultShapes } plan compiled).assemble =
          CallDescriptor.withArrays operandShapes resultShapes <$>
            (site.assembly plan compiled).assemble := fun plan compiled =>
      (site.assembly plan compiled).assemble_withArrays operandShapes resultShapes
    rw [outcome_lower compiler hother, outcome_lower compiler hcompiled]
    simp only [map_bind, hassemble, Functor.map_map]
    rfl

/-- In an emitted call the result layouts fit the result types exactly if the result
arrays agree with the kernel, and there is one operand layout for each operand exactly
if there is one operand array for each, so that it is consistent exactly if the arrays
of its site agree. Nothing is refused for its arrays: with any others a site has the
same outcome but for the layouts. -/
theorem consistent_iff_arraysAgree (compiler : Compiler σ P) (site : CallSite P V) (memory : σ) :
    (∀ call, (site.lower compiler memory).1.outcome = .ok (.custom call) →
      (call.ResultsFit ↔ site.ResultsAgree) ∧ (call.OperandsFit ↔ site.OperandsAgree) ∧
        (call.Consistent ↔ site.ArraysAgree)) ∧
    ∀ operandShapes resultShapes : List Shape,
      ({ site with operandShapes, resultShapes }.lower compiler memory).1.outcome =
        Lowered.withArrays operandShapes resultShapes <$>
          (site.lower compiler memory).1.outcome := by
  refine ⟨fun call hcall => ?_, outcome_withArrays compiler site memory⟩
  obtain ⟨_, _, _, _, hassemble⟩ := exists_assembly_of_custom compiler hcall
  have hresults : call.ResultsFit ↔ site.ResultsAgree := Assembly.resultsFit_iff hassemble
  have hoperands : call.OperandsFit ↔ site.OperandsAgree := Assembly.operandsFit_iff hassemble
  exact ⟨hresults, hoperands, and_congr hresults hoperands⟩

/-- A site whose result array has a dimension less than the output of its kernel gets a
call whose layouts do not fit its types. With an array of the same rank it gets the same
call with layouts that fit. -/
theorem inconsistent_of_lower_rank :
    let site :=
      { bare (.scalar 16) .empty with
        operands := [7]
        operandShapes := [⟨.real 8 23, [8]⟩]
        resultShapes := [⟨.real 8 23, [32]⟩]
        outShapes := [⟨.real 8 23, [8, 4]⟩] }
    let compiler := Compiler.constant ⟨⟨⟨[[1]], none⟩, ""⟩, .scalar 16⟩
    let fitting : List Shape := [⟨.bool, [1, 2]⟩]
    ∃ call : CallDescriptor Nat, (site.lower compiler ()).1.outcome = .ok (.custom call) ∧
      call.OperandsFit ∧ ¬call.ResultsFit ∧ ¬call.Consistent ∧
      ({ site with resultShapes := fitting }.lower compiler ()).1.outcome =
        .ok (.custom (call.withArrays site.operandShapes fitting)) := by
  intro site compiler fitting
  let call : CallDescriptor Nat :=
    { resultTypes := [⟨.f32, [8, 4]⟩]
      operands := [7]
      config := ⟨[("name", .text "bare"), ("ir", .bytes [1]), ("num_stages", .word 3),
        ("num_warps", .word 4), ("grid_x", .word 16), ("grid_y", .word 1), ("grid_z", .word 1),
        ("debug", .bool false)]⟩
      operandLayouts := [[0]]
      resultLayouts := [[0]]
      aliases := [] }
  have hcall : (site.lower compiler ()).1.outcome = .ok (.custom call) := by decide +kernel
  obtain ⟨hfit, hother⟩ := consistent_iff_arraysAgree compiler site ()
  obtain ⟨hresults, hoperands, hconsistent⟩ := hfit call hcall
  have hdisagree : ¬site.ResultsAgree := by
    rintro (_ | ⟨hrank, _⟩)
    exact absurd hrank (by decide)
  refine ⟨call, hcall, hoperands.mpr rfl, fun hcallFits => hdisagree (hresults.mp hcallFits),
    fun hcallFits => hdisagree (hconsistent.mp hcallFits).1, ?_⟩
  have houtcome := hother site.operandShapes fitting
  rw [hcall] at houtcome
  exact houtcome

end CallSite

end KernelLaunch
