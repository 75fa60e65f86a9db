import KernelLaunch.Proofs.Lowering.Dialogue

/-!
# What a call site takes from its parameters

Of all its parameters, a call site takes three bindings, and it takes them from
its back-end parameters wherever these are. So two tables of parameters that give
the same for these bindings lead to the same dialogue, and no compiler can tell
one from the other.
-/

namespace KernelLaunch

namespace Params

/-- Two tables give the same to a launch. -/
inductive Agree (p q : Params) : Prop
  /-- Both have back-end parameters, with the same tuning and metadata in them. -/
  | selected {a b : Params} : p.Selects a → q.Selects b →
      (∀ key ∈ [numWarpsKey, numStagesKey, metadataKey], a.get? key = b.get? key) → Agree p q
  /-- Both have the name of the back-end parameters bound, to the same value. -/
  | bound {value : Param} : p.get? backendKey = some value → q.get? backendKey = some value →
      Agree p q

/-- What a launch on a platform takes from its parameters. -/
def taken (platform : Platform) (params : Params) :
    Except LoweringError (Tuning × Except LoweringError (Option String)) := do
  let back ← params.backend
  let tuning ← back.tuning platform.defaults
  return (tuning, back.metadata)

/-- What is taken is the tuning that is split off and the metadata that are left
over. -/
theorem map_splitTuning (platform : Platform) (params : Params) :
    (fun split => (split.1, split.2.metadata)) <$> params.splitTuning platform =
      params.taken platform := by
  rw [splitTuning_eq, taken]
  cases hback : params.backend with
  | error error => rfl
  | ok back =>
    cases htuning : back.tuning platform.defaults with
    | error error => simp [htuning, bind, Except.bind, Functor.map, Except.map]
    | ok tuning =>
      simp [htuning, metadata_leftover, bind, Except.bind, Functor.map, Except.map, pure,
        Except.pure]

/-- From tables that give the same to a launch, the same is taken. -/
theorem Agree.taken_eq {p q : Params} (hagree : p.Agree q) (platform : Platform) :
    p.taken platform = q.taken platform := by
  cases hagree with
  | @selected a b hp hq hkeys =>
    have hwarps : a.get? numWarpsKey = b.get? numWarpsKey := hkeys _ (by simp)
    have hstages : a.get? numStagesKey = b.get? numStagesKey := hkeys _ (by simp)
    have hmetadata : a.get? metadataKey = b.get? metadataKey := hkeys _ (by simp)
    have htuning : a.tuning platform.defaults = b.tuning platform.defaults := by
      rw [tuning, tuning, positiveWord_congr hwarps, positiveWord_congr hstages]
    rw [taken, taken, backend_eq_ok_iff.mpr hp, backend_eq_ok_iff.mpr hq]
    simp only [bind, Except.bind, htuning, metadata_congr hmetadata]
  | @bound value hp hq =>
    have hback : p.backend = q.backend := by cases value <;> simp [backend, hp, hq]
    rw [taken, taken, hback]

/-- Where the same is taken, the splits fail with the same cause, or they have the
same tuning and leave the same metadata. -/
theorem splitTuning_cases {p q : Params} {platform : Platform}
    (htaken : p.taken platform = q.taken platform) :
    (∃ error, p.splitTuning platform = .error error ∧ q.splitTuning platform = .error error) ∨
      ∃ tuning rest rest', p.splitTuning platform = .ok (tuning, rest) ∧
        q.splitTuning platform = .ok (tuning, rest') ∧ rest.metadata = rest'.metadata := by
  rw [← map_splitTuning, ← map_splitTuning] at htaken
  cases hp : p.splitTuning platform with
  | error error =>
    cases hq : q.splitTuning platform with
    | error error' =>
      obtain rfl : error = error' := by simpa [hp, hq, Functor.map, Except.map] using htaken
      exact .inl ⟨error, rfl, rfl⟩
    | ok split => simp [hp, hq, Functor.map, Except.map] at htaken
  | ok split =>
    cases hq : q.splitTuning platform with
    | error error => simp [hp, hq, Functor.map, Except.map] at htaken
    | ok split' =>
      obtain ⟨tuning, rest⟩ := split
      obtain ⟨tuning', rest'⟩ := split'
      obtain ⟨rfl, hmetadata⟩ : tuning = tuning' ∧ rest.metadata = rest'.metadata := by
        simpa [hp, hq, Functor.map, Except.map] using htaken
      exact .inr ⟨tuning, rest, rest', rfl, rfl, hmetadata⟩

/-- Other back-end parameters give the same to a launch if they have the same tuning
and metadata in them. -/
theorem Selects.agree_withBackend {params back replacement : Params}
    (hselects : params.Selects back)
    (hkeys : ∀ key ∈ [numWarpsKey, numStagesKey, metadataKey],
      replacement.get? key = back.get? key)
    (hflat : params.get? backendKey = none → replacement.get? backendKey = none) :
    (params.withBackend replacement).Agree params :=
  .selected (hselects.withBackend hflat) hselects hkeys

end Params

namespace CallSite

variable {P V : Type} [ToString P]

/-- No compiler can tell two sites apart: they have the same report, they leave the
same memory and they make the same requests. -/
def Indistinguishable (a b : CallSite P V) : Prop :=
  ∀ (σ : Type) (compiler : Compiler σ P) (memory : σ) (requests : List (Request P)),
    a.lower compiler memory = b.lower compiler memory ∧
      a.lower compiler.recording (memory, requests) = b.lower compiler.recording (memory, requests)

/-- Two sites with the same dialogue are indistinguishable. -/
theorem indistinguishable_of_dialogue {a b : CallSite P V} (hdialogue : a.dialogue = b.dialogue) :
    Indistinguishable a b := by
  intro σ compiler memory requests
  constructor
  · rw [lower_eq_hold, lower_eq_hold, hdialogue]
  · rw [lower_eq_hold, lower_eq_hold, hdialogue]

/-- Of its parameters, the report of a planned site depends on the tuning and on
the metadata that are left over. -/
theorem conclude_congr (site : CallSite P V) (p q : Params) {rest rest' : Params}
    (platform : Platform) (tuning : Tuning) (hmetadata : rest.metadata = rest'.metadata) :
    { site with params := p }.conclude ⟨platform, tuning, rest⟩ =
      { site with params := q }.conclude ⟨platform, tuning, rest'⟩ := by
  funext answer
  cases answer with
  | error error => rfl
  | ok compiled =>
    have hassemble : (assembly { site with params := p } ⟨platform, tuning, rest⟩
        compiled).assemble =
          (assembly { site with params := q } ⟨platform, tuning, rest'⟩ compiled).assemble := by
      simp only [assembly, Assembly.assemble, hmetadata]
      rfl
    simp only [conclude, hassemble]
    rfl

/-- Of its parameters, the dialogue of a site depends on what is taken from them. -/
theorem dialogue_congr (site : CallSite P V) {p q : Params}
    (htaken : ∀ platform, p.taken platform = q.taken platform) :
    { site with params := p }.dialogue = { site with params := q }.dialogue := by
  unfold dialogue
  by_cases hinterpret : site.interpret
  · simp only [if_pos hinterpret]
    rfl
  · simp only [if_neg hinterpret, plan]
    cases hcheck : site.mapping.check with
    | error error => rfl
    | ok =>
      cases hplatform : Platform.resolve site.platforms site.modulePlatforms with
      | error error => rfl
      | ok platform =>
        -- The splits may leave different parameters, but the report reads only the metadata.
        rcases Params.splitTuning_cases (htaken platform) with
          ⟨error, hp, hq⟩ | ⟨tuning, rest, rest', hp, hq, hmetadata⟩
        · simp only [hp, hq, bind, Except.bind]
        · simp only [hp, hq, bind, Except.bind, pure, Except.pure,
            conclude_congr site p q platform tuning hmetadata]
          rfl

/-- Sites that differ in their parameters alone are indistinguishable if the
parameters agree. So nothing counts that stands beside a table of back-end
parameters, and within the back-end parameters nothing counts but the tuning and
the metadata. -/
theorem indistinguishable_of_agree (site : CallSite P V) :
    (∀ p q : Params, p.Agree q →
      Indistinguishable { site with params := p } { site with params := q }) ∧
    (∀ (params : Params) (bindings : List (String × Param)) (key : String) (value : Param),
      params.get? Params.backendKey = some (.table bindings) → key ≠ Params.backendKey →
      Indistinguishable { site with params := params.insert key value } { site with params } ∧
        Indistinguishable { site with params := params.erase key } { site with params }) ∧
    (∀ (params back : Params) (key : String) (value : Param), params.Selects back →
      key ∉ [Params.numWarpsKey, Params.numStagesKey, Params.metadataKey] →
      (params.get? Params.backendKey = none → key ≠ Params.backendKey) →
      Indistinguishable { site with params := params.withBackend (back.insert key value) }
          { site with params } ∧
        Indistinguishable { site with params := params.withBackend (back.erase key) }
          { site with params }) := by
  have hagree : ∀ {p q : Params}, p.Agree q →
      Indistinguishable { site with params := p } { site with params := q } :=
    fun hagree => indistinguishable_of_dialogue (dialogue_congr site hagree.taken_eq)
  refine ⟨fun p q => hagree, ?_, ?_⟩
  · intro params bindings key value htable hkey
    constructor
    · refine hagree (.bound ?_ htable)
      rw [Params.get?_insert, if_neg hkey.symm, htable]
    · refine hagree (.bound ?_ htable)
      rw [Params.get?_erase, if_neg hkey.symm, htable]
  · intro params back key value hselects hkey hflat
    have hother : ∀ read ∈ [Params.numWarpsKey, Params.numStagesKey, Params.metadataKey],
        read ≠ key := by
      rintro read hread rfl
      exact hkey hread
    constructor
    · refine hagree (hselects.agree_withBackend (fun read hread => ?_) fun hnone => ?_)
      · rw [Params.get?_insert, if_neg (hother read hread)]
      · rw [Params.get?_insert, if_neg (hflat hnone).symm, hselects.get?_backendKey hnone]
    · refine hagree (hselects.agree_withBackend (fun read hread => ?_) fun hnone => ?_)
      · rw [Params.get?_erase, if_neg (hother read hread)]
      · rw [Params.get?_erase, if_neg (hflat hnone).symm, hselects.get?_backendKey hnone]

/-- Back-end parameters in a table of their own, with values of the wrong sort beside
them and the name of such a table among them, are as good as flat ones. -/
theorem indistinguishable_nested_flat :
    let nested : Params :=
      ⟨[("num_warps", .bool true), ("serialized_metadata", .int 3),
        ("triton", .table [("num_warps", .int 8), ("triton", .text "inner")])]⟩
    let flat : Params := ⟨[("num_ctas", .int 0), ("num_warps", .int 8)]⟩
    nested.Agree flat ∧
      Indistinguishable (bare (.scalar 16) nested) (bare (.scalar 16) flat) := by
  intro nested flat
  have hagree : nested.Agree flat := by
    refine .selected (.nested rfl) (.whole rfl) ?_
    intro key hkey
    simp only [List.mem_cons, List.not_mem_nil, or_false] at hkey
    rcases hkey with rfl | rfl | rfl <;> rfl
  exact ⟨hagree, (indistinguishable_of_agree (bare (.scalar 16) .empty)).1 nested flat hagree⟩

end CallSite

end KernelLaunch
