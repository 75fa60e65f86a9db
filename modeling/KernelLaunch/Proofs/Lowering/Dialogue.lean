import KernelLaunch.Proofs.Lowering.Acceptance

/-!
# The dialogue of a call site with its compiler

All that a compiler has to do with a call site is to answer one request. What a
site does by itself is a dialogue, in which the answer is left open: holding the
dialogue with a compiler is lowering the site. So whatever two sites say to every
compiler is read off their dialogues, where no compiler and no memory occurs.
-/

namespace KernelLaunch

/-- What is said to a compiler: nothing, and the report is there, or one request,
and the report depends on the answer. -/
inductive Dialogue (P V : Type) where
  /-- The report is there. -/
  | finished (report : Report V)
  /-- The request, and the report for every answer to it. -/
  | asking (request : Request P) (conclude : Except LoweringError Compiled → Report V)

variable {σ P V : Type}

/-- The memory of a compiler after it has answered some requests. -/
def Compiler.memoryAfter (compiler : Compiler σ P) (memory : σ) (requests : List (Request P)) :
    σ :=
  requests.foldl (fun memory request => (compiler request memory).2) memory

/-- A compiler remembers two lists of requests as it does the second one after
the first one. -/
theorem Compiler.memoryAfter_append (compiler : Compiler σ P) (memory : σ)
    (first second : List (Request P)) :
    compiler.memoryAfter memory (first ++ second) =
      compiler.memoryAfter (compiler.memoryAfter memory first) second :=
  List.foldl_append

namespace Dialogue

/-- Holds a dialogue with a compiler in a given memory, and tells its memory
afterwards. -/
def hold (compiler : Compiler σ P) (memory : σ) : Dialogue P V → Report V × σ
  | .finished report => (report, memory)
  | .asking request conclude =>
    (conclude (compiler request memory).1, (compiler request memory).2)

/-- The request of a dialogue, if there is one. -/
def request? : Dialogue P V → Option (Request P)
  | .finished _ => none
  | .asking request _ => some request

/-- A compiler remembers nothing of a dialogue but the request. -/
theorem hold_snd (compiler : Compiler σ P) (memory : σ) (dialogue : Dialogue P V) :
    (dialogue.hold compiler memory).2 = compiler.memoryAfter memory dialogue.request?.toList := by
  cases dialogue with
  | finished report => rfl
  | asking request conclude => rfl

/-- A recording compiler says the same as the compiler itself and takes down the
request. -/
theorem hold_recording (compiler : Compiler σ P) (memory : σ) (requests : List (Request P))
    (dialogue : Dialogue P V) :
    dialogue.hold compiler.recording (memory, requests) =
      ((dialogue.hold compiler memory).1, (dialogue.hold compiler memory).2,
        requests ++ dialogue.request?.toList) := by
  cases dialogue with
  | finished report => simp [hold, request?]
  | asking request conclude => rfl

end Dialogue

namespace CallSite

/-- The dialogue of a site. Without a plan, or where the site is interpreted, no
compiler is asked. -/
def dialogue [ToString P] (site : CallSite P V) : Dialogue P V :=
  if site.interpret then .finished ⟨.ok (.interpreted site.operands), [site.interpretRecord]⟩
  else
    match site.plan with
    | .error error => .finished ⟨.error error, []⟩
    | .ok plan => .asking (site.request plan) (site.conclude plan)

/-- Lowering a site is holding its dialogue. -/
theorem lower_eq_hold [ToString P] (compiler : Compiler σ P) (site : CallSite P V) (memory : σ) :
    site.lower compiler memory = site.dialogue.hold compiler memory := by
  unfold lower dialogue
  by_cases hinterpret : site.interpret
  · rw [if_pos hinterpret, if_pos hinterpret]
    rfl
  · rw [if_neg hinterpret, if_neg hinterpret]
    cases site.plan with
    | error error => rfl
    | ok plan => rfl

/-- The request that a site makes, if it makes one. -/
def request? [ToString P] (site : CallSite P V) : Option (Request P) :=
  site.dialogue.request?

/-- A site asks for something: it is not interpreted, its mapping passes the
check, its platform is resolved and its tuning is extracted. It asks for its
program, the shapes of its inputs and then of its outputs, its mapping, its name
and its platform. -/
def Asks (site : CallSite P V) (request : Request P) : Prop :=
  site.interpret = false ∧ site.mapping.check = .ok () ∧
    ∃ platform tuning rest,
      Platform.resolve site.platforms site.modulePlatforms = .ok platform ∧
      site.params.extractTuning platform = (.ok tuning, rest) ∧
      request =
        { program := site.program
          shapes := site.inShapes ++ site.outShapes
          mapping := site.mapping
          name := site.name
          platform }

/-- A site that is not interpreted asks for what its plan requests, if it has a
plan. -/
theorem asks_iff {site : CallSite P V} (hinterpret : site.interpret = false)
    {request : Request P} :
    site.Asks request ↔ ∃ plan, site.plan = .ok plan ∧ request = site.request plan := by
  constructor
  · rintro ⟨_, hcheck, platform, tuning, rest, hplatform, hextract, rfl⟩
    obtain ⟨back, hback, htuning⟩ := Params.exists_extractTuning_iff.mp ⟨rest, hextract⟩
    exact ⟨⟨platform, tuning, back.leftover⟩,
      plan_eq_ok_iff.mpr ⟨hcheck, hplatform, back, hback, htuning, rfl⟩, rfl⟩
  · rintro ⟨plan, hplan, rfl⟩
    obtain ⟨hcheck, hplatform, back, hback, htuning, _⟩ := plan_eq_ok_iff.mp hplan
    obtain ⟨rest, hextract⟩ := Params.exists_extractTuning_iff.mpr ⟨back, hback, htuning⟩
    exact ⟨hinterpret, hcheck, plan.platform, plan.tuning, rest, hplatform, hextract, rfl⟩

/-- A site makes exactly the request that it asks for. -/
theorem request?_eq_some_iff [ToString P] {site : CallSite P V} {request : Request P} :
    site.request? = some request ↔ site.Asks request := by
  unfold CallSite.request? dialogue
  by_cases hinterpret : site.interpret = true
  · simp [hinterpret, Dialogue.request?, Asks]
  · rw [asks_iff (by simpa using hinterpret), if_neg hinterpret]
    cases hplan : site.plan with
    | error error => simp [Dialogue.request?]
    | ok plan => simp [Dialogue.request?, eq_comm]

end CallSite

end KernelLaunch
