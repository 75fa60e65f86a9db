import KernelLaunch.Lowering.Run
import KernelLaunch.Proofs.Descriptor.Acceptance
import KernelLaunch.Proofs.Platform.Resolution

/-!
# When a call site is accepted

A site that is not interpreted yields a call exactly if twelve requirements hold,
and where some do not, the first of them is the one that is told. The
requirements speak of the site as it was given and of the answer of the compiler;
none of them mentions a stage of the lowering.
-/

namespace KernelLaunch

namespace Requirement

/-- No grid bound is known only at run time. -/
def noDynamicBounds (mapping : GridMapping) : Requirement where
  holds := mapping.dynamicBounds = 0
  tells error := error = .dynamicBounds mapping.dynamicBounds ∧
    error.Shows .unsupportedFeature ("dynamic grid bounds not supported (" ++
      toString mapping.dynamicBounds ++ " requested)")

/-- No operand is an index for prefetching. -/
def noIndexOperands (mapping : GridMapping) : Requirement where
  holds := mapping.indexOperands = 0
  tells error := error = .indexOperands mapping.indexOperands ∧
    error.Shows .unsupportedFeature ("scalar prefetch not supported (" ++
      toString mapping.indexOperands ++ " index operands)")

/-- What is shown of active names that leave no platform: that there is none, the single
one, or how many there are and which. -/
inductive TellsNames (error : LoweringError) : List String → Prop
  | none : error.Shows .configurationAmbiguity "no active lowering platform" →
      TellsNames error []
  | unknown {name : String} :
      error.Shows .platformNotSupported ("unknown platform \"" ++ name ++ "\"") →
      TellsNames error [name]
  | several {names : List String} : 2 ≤ names.length →
      error.Shows .configurationAmbiguity (toString names.length ++
        " active lowering platforms: " ++
          ("[" ++ ", ".intercalate (names.map Text.quote) ++ "]")) →
      TellsNames error names

/-- Two lists of active names leave one platform. -/
def onePlatform (site module : List String) : Requirement where
  holds := ∃ platform, Platform.resolve site module = .ok platform
  tells error := Platform.resolve site module = .error error ∧
    TellsNames error (Platform.active site module)

/-- A compiler that gave an answer has compiled the kernel. What it reports
instead is told unchanged, with the kind and the message that it gave. -/
def compiled (answered : Except LoweringError Compiled → Prop) : Requirement where
  holds := ∃ compiled, answered (.ok compiled)
  tells error := answered (.error error) ∧
    ∀ kind message, answered (.error (.reported kind message)) → error.Shows kind message

end Requirement

/-- Equality of results is decided by comparing the causes or the values. -/
instance LoweringError.decEqResult {α : Type} [DecidableEq α] :
    DecidableEq (Except LoweringError α)
  | .ok a, .ok b => decidable_of_iff (a = b) (by simp)
  | .error a, .error b => decidable_of_iff (a = b) (by simp)
  | .ok _, .error _ | .error _, .ok _ => isFalse (by simp)

/-- The compiler that makes the same of every kernel. -/
def Compiler.constant {P : Type} (compiled : Compiled) : Compiler Unit P :=
  fun _ memory => (.ok compiled, memory)

open Requirement

/-- Checking a mapping is decided by the features it asks for and then by its
declared grid. -/
theorem GridMapping.decide_check (mapping : GridMapping) :
    Decide [noDynamicBounds mapping, noIndexOperands mapping, normalGrid mapping.grid]
      mapping.check := by
  by_cases hdynamic : mapping.dynamicBounds = 0
  · refine .met hdynamic ?_
    by_cases hindex : mapping.indexOperands = 0
    · refine .met hindex ?_
      have hcheck : mapping.check = (mapping.grid.normalize >>= fun _ => pure ()) := by
        simp [check, hdynamic, hindex]
      rw [hcheck]
      exact (mapping.grid.decide_normalize).bind fun _ _ => .accept ()
    · have hcheck : mapping.check = .error (.indexOperands mapping.indexOperands) := by
        simp [check, hdynamic, hindex, bind, Except.bind, throw, throwThe, MonadExceptOf.throw]
      rw [hcheck]
      exact .violated hindex ⟨rfl, rfl, rfl⟩
  · have hcheck : mapping.check = .error (.dynamicBounds mapping.dynamicBounds) := by
      simp [check, hdynamic, bind, Except.bind, throw, throwThe, MonadExceptOf.throw]
    rw [hcheck]
    exact .violated hdynamic ⟨rfl, rfl, rfl⟩

/-- Where no platform is resolved, the active names are told. -/
theorem Platform.tellsNames_of_resolve {site module : List String} {error : LoweringError}
    (hresolve : resolve site module = .error error) :
    TellsNames error (active site module) := by
  rw [resolve_eq_active] at hresolve
  generalize active site module = names at hresolve ⊢
  cases names with
  | nil =>
    obtain rfl := Except.error.inj hresolve
    exact .none ⟨rfl, rfl⟩
  | cons first rest =>
    cases rest with
    | nil =>
      obtain ⟨platform, _, hok⟩ | ⟨_, htold⟩ := ofName_cases first
      · exact absurd (hresolve.symm.trans hok) (by simp)
      · obtain rfl := Except.error.inj (hresolve.symm.trans htold)
        exact .unknown ⟨rfl, rfl⟩
    | cons second rest =>
      obtain rfl := Except.error.inj hresolve
      refine .several (by simp) ?_
      rw [← Text.bracketed_eq_intercalate]
      exact ⟨rfl, rfl⟩

/-- Resolving a platform is decided by whether it is resolved. -/
theorem Platform.decide_resolve (site module : List String) :
    Decide [onePlatform site module] (resolve site module) := by
  cases hresolve : resolve site module with
  | error error =>
    exact .violated (by simp [onePlatform, hresolve]) ⟨hresolve, tellsNames_of_resolve hresolve⟩
  | ok platform => exact .met ⟨platform, hresolve⟩ (.accept platform)

namespace CallSite

variable {σ P V : Type}

/-- The compiler gives an answer to a site, asked for the platform that the site
resolves to. -/
def Answered (compiler : Compiler σ P) (site : CallSite P V) (memory : σ)
    (answer : Except LoweringError Compiled) : Prop :=
  ∃ platform, Platform.resolve site.platforms site.modulePlatforms = .ok platform ∧
    (compiler
      { program := site.program
        shapes := site.inShapes ++ site.outShapes
        mapping := site.mapping
        name := site.name
        platform } memory).1 = answer

/-- All that is required of a site that is not interpreted, in the order in which
violations are told. -/
def requirements (compiler : Compiler σ P) (site : CallSite P V) (memory : σ) :
    List Requirement :=
  [noDynamicBounds site.mapping,
    noIndexOperands site.mapping,
    normalGrid site.mapping.grid,
    onePlatform site.platforms site.modulePlatforms,
    backendTable site.params,
    tuningWord site.params.detachBackend Params.numWarpsKey,
    tuningWord site.params.detachBackend Params.numStagesKey,
    compiled (site.Answered compiler memory),
    ofEach (fun compiled => site.Answered compiler memory (.ok compiled)) fun compiled =>
      wordGrid compiled.grid,
    tensorTypes site.outShapes,
    ofEach (fun compiled => site.Answered compiler memory (.ok compiled)) fun compiled =>
      writable compiled.module.emission,
    metadataText site.params.detachBackend]

/-- A plan is made of a checked mapping, a resolved platform, and the tuning and
the leftover of the back-end parameters. -/
theorem plan_eq_ok_iff {site : CallSite P V} {plan : Plan} :
    site.plan = .ok plan ↔
      site.mapping.check = .ok () ∧
      Platform.resolve site.platforms site.modulePlatforms = .ok plan.platform ∧
      ∃ back, site.params.backend = .ok back ∧
        back.tuning plan.platform.defaults = .ok plan.tuning ∧ plan.params = back.leftover := by
  simp only [CallSite.plan, Params.splitTuning_eq, bind_eq_ok_iff, pure, Except.pure,
    Except.ok.injEq]
  constructor
  · rintro ⟨⟨⟩, hcheck, platform, hplatform, ⟨tuning, rest⟩, ⟨back, hback, _, htuning, hrest⟩, rfl⟩
    obtain ⟨rfl, rfl⟩ := Prod.mk.inj hrest
    exact ⟨hcheck, hplatform, back, hback, htuning, rfl⟩
  · rintro ⟨hcheck, hplatform, back, hback, htuning, hparams⟩
    exact ⟨(), hcheck, plan.platform, hplatform, (plan.tuning, back.leftover),
      ⟨back, hback, plan.tuning, htuning, rfl⟩, by rw [← hparams]⟩

/-- Planning a site is decided by the seven requirements that need no compiler. -/
theorem decide_plan (site : CallSite P V) :
    Decide [noDynamicBounds site.mapping, noIndexOperands site.mapping,
      normalGrid site.mapping.grid, onePlatform site.platforms site.modulePlatforms,
      backendTable site.params, tuningWord site.params.detachBackend Params.numWarpsKey,
      tuningWord site.params.detachBackend Params.numStagesKey] site.plan := by
  refine (site.mapping.decide_check).bind fun _ _ => ?_
  refine (Platform.decide_resolve site.platforms site.modulePlatforms).bind fun platform _ => ?_
  exact (site.params.decide_splitTuning platform).bind fun _ _ => .accept _

/-- The outcome of a site that is not interpreted, as one computation. -/
theorem outcome_lower [ToString P] (compiler : Compiler σ P) {site : CallSite P V}
    (hinterpret : site.interpret = false) (memory : σ) :
    (site.lower compiler memory).1.outcome = (do
      let plan ← site.plan
      let compiled ← (compiler (site.request plan) memory).1
      .custom <$> (site.assembly plan compiled).assemble) := by
  cases hplan : site.plan with
  | error error =>
    rw [lower_of_plan_error compiler hinterpret hplan]
    rfl
  | ok plan =>
    rw [lower_of_plan compiler hinterpret hplan]
    cases hanswer : (compiler (site.request plan) memory).1 with
    | error error => simp [conclude, hanswer, bind, Except.bind]
    | ok compiled => simp [conclude, hanswer, bind, Except.bind]

/-- A planned site is answered by what the compiler says to the request of its
plan. -/
theorem answered_iff (compiler : Compiler σ P) {site : CallSite P V} {plan : Plan}
    (hplan : site.plan = .ok plan) (memory : σ) (answer : Except LoweringError Compiled) :
    site.Answered compiler memory answer ↔ (compiler (site.request plan) memory).1 = answer := by
  obtain ⟨_, hplatform, _⟩ := plan_eq_ok_iff.mp hplan
  simp [Answered, hplatform, request]

/-- The requirements of a site that is not interpreted decide its outcome. -/
theorem decide_lower [ToString P] (compiler : Compiler σ P) {site : CallSite P V}
    (hinterpret : site.interpret = false) (memory : σ) :
    Decide (site.requirements compiler memory) (site.lower compiler memory).1.outcome := by
  rw [outcome_lower compiler hinterpret]
  refine (site.decide_plan).bind fun plan hplan => ?_
  have hanswered := answered_iff compiler hplan memory
  obtain ⟨_, _, back, hback, _, hparams⟩ := plan_eq_ok_iff.mp hplan
  have hmetadata : metadataText site.params.detachBackend = metadataText plan.params := by
    rw [Params.detachBackend_of_backend hback, hparams]
    exact binding_congr (by rw [Params.get?_leftover, if_neg (by decide)]) _ _ _
  rw [hmetadata]
  cases hanswer : (compiler (site.request plan) memory).1 with
  | error error =>
    refine .violated ?_ ⟨(hanswered _).mpr hanswer, fun kind message hreported => ?_⟩
    · rintro ⟨compiled, hcompiled⟩
      exact absurd (hanswer.symm.trans ((hanswered _).mp hcompiled)) (by simp)
    · obtain rfl := Except.error.inj (hanswer.symm.trans ((hanswered _).mp hreported))
      exact ⟨rfl, rfl⟩
  | ok compiled =>
    refine .met ⟨compiled, (hanswered _).mpr hanswer⟩ ?_
    have honly : ∀ other, site.Answered compiler memory (.ok other) ↔ other = compiled := by
      intro other
      rw [hanswered, hanswer, Except.ok.injEq, eq_comm]
    rw [ofEach_eq honly, ofEach_eq honly]
    exact ((site.assembly plan compiled).decide_assemble).map _

/-- A site that is not interpreted yields nothing but a call, assembled from its
plan and from what the compiler made of it. -/
theorem outcome_eq_ok_iff [ToString P] (compiler : Compiler σ P) {site : CallSite P V}
    (hinterpret : site.interpret = false) (memory : σ) {lowered : Lowered V} :
    (site.lower compiler memory).1.outcome = .ok lowered ↔
      ∃ plan compiled call, site.plan = .ok plan ∧
        (compiler (site.request plan) memory).1 = .ok compiled ∧
        (site.assembly plan compiled).assemble = .ok call ∧ lowered = .custom call := by
  rw [outcome_lower compiler hinterpret]
  simp only [bind_eq_ok_iff, map_eq_ok_iff]
  constructor
  · rintro ⟨plan, hplan, compiled, hcompiled, call, hcall, rfl⟩
    exact ⟨plan, compiled, call, hplan, hcompiled, hcall, rfl⟩
  · rintro ⟨plan, compiled, call, hplan, hcompiled, hcall, rfl⟩
    exact ⟨plan, hplan, compiled, hcompiled, call, hcall, rfl⟩

/-- A site that is not interpreted yields a call exactly if all twelve
requirements hold. Otherwise it fails, and its cause tells the violation of the
first requirement that does not hold, with the kind and the message of this one,
whatever else is violated behind it. -/
theorem custom_iff_or_first_violation [ToString P] (compiler : Compiler σ P)
    {site : CallSite P V} (hinterpret : site.interpret = false) (memory : σ) :
    ((∃ call, (site.lower compiler memory).1.outcome = .ok (.custom call)) ↔
      ∀ requirement ∈ site.requirements compiler memory, requirement.holds) ∧
    ((¬∀ requirement ∈ site.requirements compiler memory, requirement.holds) →
      ∃ index requirement error,
        IsFirst (fun requirement => ¬requirement.holds) (site.requirements compiler memory)
          index requirement ∧
        requirement.tells error ∧ (site.lower compiler memory).1.outcome = .error error) := by
  have hdecide := decide_lower compiler hinterpret memory
  refine ⟨?_, hdecide.exists_error⟩
  rw [← hdecide.exists_ok_iff]
  constructor
  · rintro ⟨call, hcall⟩
    exact ⟨.custom call, hcall⟩
  · rintro ⟨lowered, hlowered⟩
    obtain ⟨_, _, call, _, _, _, rfl⟩ := (outcome_eq_ok_iff compiler hinterpret memory).mp hlowered
    exact ⟨call, hlowered⟩

/-- A call of a kernel without arrays, for one platform. -/
def bare (grid : Grid) (params : Params) : CallSite String Nat where
  program := "kernel"
  operands := []
  operandShapes := []
  resultShapes := []
  inShapes := []
  outShapes := []
  interpret := false
  debug := false
  aliases := []
  mapping := { grid }
  name := "bare"
  params
  platforms := ["cuda"]
  modulePlatforms := []

/-- Of an empty axis and a number of warps that is no integer, the axis is told by its
index, since the declared grid is required first. -/
theorem first_violation_of_two :
    let site := bare (.list [2, 0]) ⟨[(Params.numWarpsKey, .bool true)]⟩
    let compiler := Compiler.constant ⟨⟨⟨[], none⟩, ""⟩, .scalar 1⟩
    site.interpret = false ∧
      (site.lower compiler ()).1.outcome = .error (.emptyAxis 1) ∧
      (LoweringError.emptyAxis 1).Shows .invalidGrid "grid[1] = 0, must be positive" ∧
      ∃ index requirement error,
        IsFirst (fun requirement => ¬requirement.holds) (site.requirements compiler ())
          index requirement ∧
        requirement.tells error ∧ (site.lower compiler ()).1.outcome = .error error := by
  intro site compiler
  refine ⟨rfl, by decide +kernel, ⟨rfl, by decide⟩,
    (custom_iff_or_first_violation _ rfl ()).2 fun hall => ?_⟩
  have hgrid := hall (normalGrid site.mapping.grid) (by simp [requirements])
  exact hgrid.2 0 (by decide) rfl

end CallSite

end KernelLaunch
