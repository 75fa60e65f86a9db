import KernelLaunch.Proofs.Param.Effect
import KernelLaunch.Proofs.Param.Reading

/-!
# Repeated extractions from one table

A failed extraction has used up the names that it read, so trying again can succeed
with a default. This file follows extractions from one table to the end: each of the
two names can fail once at most and can be heard once at most, and after the first
success there is nothing left to read.
-/

namespace KernelLaunch

/-- The name of the parameter that is at fault, if one is. -/
def LoweringError.faultyParam? : LoweringError → Option String
  | .paramSort key _ _ | .paramRange key _ => some key
  | _ => none

/-- One of a sequence of extractions. -/
structure Extraction where
  /-- The platform that the defaults come from. -/
  platform : Platform
  /-- The table before it. -/
  before : Params
  /-- The tuning or the cause of failure. -/
  result : Except LoweringError Tuning
  /-- The table after it. -/
  after : Params

namespace Extraction

/-- The cause of failure, if there is one. -/
def failure? (call : Extraction) : Option LoweringError :=
  match call.result with
  | .ok _ => none
  | .error error => some error

/-- There is a tuning. -/
def Succeeds (call : Extraction) : Prop :=
  ∃ tuning, call.result = .ok tuning

/-- There is a tuning, and one of its words is the integer that a name is bound to. -/
def Yields (call : Extraction) (key : String) (word : Tuning → Int32) (value : Int64) : Prop :=
  ∃ tuning back, call.result = .ok tuning ∧ call.before.Selects back ∧
    back.get? key = some (.int value) ∧ (word tuning).toInt = value.toInt

/-- There is the tuning of the platform, and nothing is changed. -/
def Defaults (call : Extraction) : Prop :=
  call.result = .ok call.platform.defaults ∧ call.after = call.before

/-- An extraction that yields an integer succeeds. -/
theorem Yields.succeeds {call : Extraction} {key : String} {word : Tuning → Int32} {value : Int64}
    (hyields : call.Yields key word value) : call.Succeeds := by
  obtain ⟨tuning, _, htuning, _⟩ := hyields
  exact ⟨tuning, htuning⟩

end Extraction

/-- A fault of a tuning name tells this name. -/
theorem Param.faultyParam?_wordFault (key : String) (found : Param) :
    (found.wordFault key).faultyParam? = some key := by
  cases found <;> rfl

namespace Params

/-- Extractions for a list of platforms, each from the table that the one before has
left, whether or not that one failed. -/
def extractions (params : Params) : List Platform → List Extraction
  | [] => []
  | platform :: rest =>
    let (result, after) := params.extractTuning platform
    ⟨platform, params, result, after⟩ :: after.extractions rest

/-- Both names of the tuning are unbound in the back-end parameters. -/
def Spent (params : Params) : Prop :=
  ∃ back, params.Selects back ∧ back.get? numWarpsKey = none ∧ back.get? numStagesKey = none

/-- A sequence of extractions that start from the same back-end parameters and use
them up. -/
structure UsesUp (back : Params) (calls : List Extraction) : Prop where
  /-- At most two extractions fail. -/
  failures : (calls.filterMap Extraction.failure?).length ≤ 2
  /-- Each failure is about one of the names of the tuning. -/
  faulty : ∀ error ∈ calls.filterMap Extraction.failure?,
    error.faultyParam? = some numWarpsKey ∨ error.faultyParam? = some numStagesKey
  /-- No two failures are about the same name. -/
  distinct : ((calls.filterMap Extraction.failure?).map LoweringError.faultyParam?).Nodup
  /-- A success yields the words that the names ask for by then, and they ask for
  nothing else than at the start. -/
  asked : ∀ call ∈ calls, ∃ now, call.before.Selects now ∧
    (∀ key found, now.get? key = some found → back.get? key = some found) ∧
    ∀ tuning, call.result = .ok tuning →
      now.Chosen numWarpsKey call.platform.defaults.numWarps tuning.numWarps ∧
      now.Chosen numStagesKey call.platform.defaults.numStages tuning.numStages
  /-- No two extractions yield an explicit number of warps. -/
  warpsOnce : calls.Pairwise fun earlier later => ∀ value value',
    earlier.Yields numWarpsKey Tuning.numWarps value →
      ¬later.Yields numWarpsKey Tuning.numWarps value'
  /-- No two extractions yield an explicit number of stages. -/
  stagesOnce : calls.Pairwise fun earlier later => ∀ value value',
    earlier.Yields numStagesKey Tuning.numStages value →
      ¬later.Yields numStagesKey Tuning.numStages value'
  /-- Behind a success no extraction fails. -/
  settled : calls.Pairwise fun earlier later => earlier.Succeeds → later.Succeeds
  /-- Behind a success all extractions yield the defaults and change nothing. -/
  defaults : calls.Pairwise fun earlier later => earlier.Succeeds → later.Defaults

variable {params back : Params}

/-- A table selects one table of back-end parameters. -/
theorem Selects.unique {other : Params} (hselects : params.Selects back)
    (hother : params.Selects other) : back = other := by
  rw [← backend_eq_ok_iff] at hselects hother
  exact Except.ok.inj (hselects.symm.trans hother)

/-- Putting the back-end parameters of an ordered table back changes nothing. -/
theorem Ordered.withBackend_self (hordered : params.Ordered) (hselects : params.Selects back) :
    params.withBackend back = params := by
  have hback := hordered.backend (backend_eq_ok_iff.mpr hselects)
  refine (hordered.withBackend hback).eq_of_branches hordered (funext fun key => ?_)
  rw [branches_apply, branches_apply]
  cases hselects with
  | whole hnone => simp [Params.withBackend, hnone]
  | nested htable =>
    by_cases hkey : key = backendKey
    · simp [Params.withBackend, htable, get?_update, hkey]
    · simp [Params.withBackend, htable, get?_update, hkey]

/-- Removing names keeps a table ordered. -/
theorem Ordered.without (hordered : params.Ordered) (names : List String) :
    (params.without names).Ordered :=
  .table (List.Pairwise.filter _ hordered.ascending) fun _ hmem =>
    hordered.of_mem (List.mem_of_mem_filter hmem)

/-- An extraction keeps a table ordered. -/
theorem Ordered.of_extractTuning (hordered : params.Ordered) {platform : Platform}
    {result : Except LoweringError Tuning} {after : Params}
    (hextract : params.extractTuning platform = (result, after)) : after.Ordered := by
  rcases params.selects_or_not_table with ⟨back, hselects⟩ | ⟨found, hfound, hnot⟩
  · obtain ⟨names, _, _, rfl⟩ := hselects.takes hextract
    exact hordered.withBackend ((hordered.backend (backend_eq_ok_iff.mpr hselects)).without names)
  · rw [extractTuning_of_not_table hfound hnot] at hextract
    exact (Prod.mk.inj hextract).2 ▸ hordered

/-- From a spent table an extraction takes the defaults, and it changes nothing. -/
theorem Ordered.extractTuning_of_spent (hordered : params.Ordered) (hspent : params.Spent)
    (platform : Platform) : params.extractTuning platform = (.ok platform.defaults, params) := by
  obtain ⟨back, hselects, hwarps, hstages⟩ := hspent
  rcases hextract : params.extractTuning platform with ⟨result, after⟩
  obtain ⟨names, htakes, _, rfl⟩ := hselects.takes hextract
  cases htakes with
  | warpsRefused hfound _ => exact absurd (hwarps.symm.trans hfound) (by simp)
  | stagesRefused _ hfound _ => exact absurd (hstages.symm.trans hfound) (by simp)
  | @tuned tuning hchosenWarps hchosenStages =>
    have htuning : tuning = platform.defaults :=
      calc tuning = ⟨tuning.numWarps, tuning.numStages⟩ := rfl
        _ = platform.defaults := by
          rw [hchosenWarps.eq_default hwarps, hchosenStages.eq_default hstages]
    have hunbound : ∀ key ∈ [numWarpsKey, numStagesKey], back.get? key = none := by
      simp [hwarps, hstages]
    rw [htuning, without_eq_self hunbound, hordered.withBackend_self hselects]

/-- After a success a table is spent. -/
theorem Selects.spent_of_ok (hselects : params.Selects back) {platform : Platform}
    {tuning : Tuning} {after : Params}
    (hextract : params.extractTuning platform = (.ok tuning, after)) : after.Spent := by
  obtain ⟨names, htakes, hloses, _⟩ := hselects.takes hextract
  cases htakes with
  | tuned _ _ => exact ⟨_, hloses.rest, by simp [get?_without], by simp [get?_without]⟩

/-- If extractions leave a table as it is, then all extractions of a sequence are from
this table. -/
theorem extractions_of_unchanged {results : Platform → Except LoweringError Tuning}
    (hextract : ∀ platform, params.extractTuning platform = (results platform, params))
    (platforms : List Platform) :
    ∀ call ∈ params.extractions platforms,
      call.before = params ∧ call.result = results call.platform ∧ call.after = params := by
  induction platforms with
  | nil => simp [extractions]
  | cons platform rest ih =>
    intro call hcall
    simp only [extractions, hextract, List.mem_cons] at hcall
    rcases hcall with rfl | hlater
    · exact ⟨rfl, rfl, rfl⟩
    · exact ih call hlater

/-- Behind a success, all extractions are from a spent table, and they yield the
defaults and change nothing. -/
theorem Ordered.pairwise_extractions (hordered : params.Ordered) (platforms : List Platform) :
    (params.extractions platforms).Pairwise fun earlier later =>
      earlier.Succeeds → later.before.Spent ∧ later.Defaults := by
  induction platforms generalizing params with
  | nil => exact .nil
  | cons platform rest ih =>
    rcases hextract : params.extractTuning platform with ⟨result, after⟩
    simp only [extractions, hextract]
    have hafter : after.Ordered := hordered.of_extractTuning hextract
    refine List.pairwise_cons.mpr ⟨?_, ih hafter⟩
    rintro later hlater ⟨tuning, rfl⟩
    rcases params.selects_or_not_table with ⟨back, hselects⟩ | ⟨found, hfound, hnot⟩
    · have hspent : after.Spent := hselects.spent_of_ok hextract
      obtain ⟨hbefore, hresult, hunchanged⟩ :=
        extractions_of_unchanged (hafter.extractTuning_of_spent hspent) rest later hlater
      exact ⟨hbefore ▸ hspent, hresult, hunchanged.trans hbefore.symm⟩
    · rw [extractTuning_of_not_table hfound hnot] at hextract
      exact absurd (Prod.mk.inj hextract).1 (by simp)

/-- From a spent table no explicit word is taken. -/
theorem Spent.not_yields {call : Extraction} (hspent : call.before.Spent) {key : String}
    (hkey : key = numWarpsKey ∨ key = numStagesKey) (word : Tuning → Int32) (value : Int64) :
    ¬call.Yields key word value := by
  rintro ⟨_, back, _, hselects, hvalue, _⟩
  obtain ⟨other, hother, hwarps, hstages⟩ := hspent
  obtain rfl := hselects.unique hother
  rcases hkey with rfl | rfl
  · exact absurd (hwarps.symm.trans hvalue) (by simp)
  · exact absurd (hstages.symm.trans hvalue) (by simp)

/-- The failures of a sequence of extractions are about names of the tuning that are
bound at its start, and no two are about the same one. -/
theorem Selects.failures_extractions (hselects : params.Selects back)
    (platforms : List Platform) :
    let errors := (params.extractions platforms).filterMap Extraction.failure?
    (errors.map LoweringError.faultyParam?).Nodup ∧
      ∀ error ∈ errors, ∃ key found, (key = numWarpsKey ∨ key = numStagesKey) ∧
        error.faultyParam? = some key ∧ back.get? key = some found := by
  induction platforms generalizing params back with
  | nil => simp [extractions]
  | cons platform rest ih =>
    rcases hextract : params.extractTuning platform with ⟨result, after⟩
    obtain ⟨names, htakes, hloses, _⟩ := hselects.takes hextract
    obtain ⟨hnodup, hfaulty⟩ := ih hloses.rest
    have hlater : ∀ error ∈ (after.extractions rest).filterMap Extraction.failure?,
        ∃ key found, (key = numWarpsKey ∨ key = numStagesKey) ∧
          error.faultyParam? = some key ∧ back.get? key = some found := by
      intro error herror
      obtain ⟨key, found, hkey, hfault, hfound⟩ := hfaulty error herror
      exact ⟨key, found, hkey, hfault, (get?_without_eq_some_iff.mp hfound).2⟩
    rcases htakes.ok_or_refused with ⟨tuning, rfl⟩ | ⟨key, found, hkey, hname, hfound, rfl⟩
    · simp only [extractions, hextract, Extraction.failure?, List.filterMap_cons]
      exact ⟨hnodup, hlater⟩
    · simp only [extractions, hextract, Extraction.failure?, List.filterMap_cons, List.map_cons,
        List.forall_mem_cons, Param.faultyParam?_wordFault]
      refine ⟨List.nodup_cons.mpr ⟨?_, hnodup⟩, ⟨key, found, hkey, rfl, hfound⟩, hlater⟩
      -- A later failure is about a name that is bound by then, so about none that is lost.
      intro hmem
      obtain ⟨error, herror, hsame⟩ := List.mem_map.mp hmem
      obtain ⟨key', found', _, hfault, hfound'⟩ := hfaulty error herror
      obtain rfl : key' = key := Option.some.inj (hfault.symm.trans hsame)
      exact (get?_without_eq_some_iff.mp hfound').1 hname

/-- Before each extraction of a sequence, the back-end parameters ask for nothing else
than at the start, and a success yields what they ask for. -/
theorem Selects.asked_extractions (hselects : params.Selects back) (platforms : List Platform) :
    ∀ call ∈ params.extractions platforms, ∃ now, call.before.Selects now ∧
      (∀ key found, now.get? key = some found → back.get? key = some found) ∧
      ∀ tuning, call.result = .ok tuning →
        now.Chosen numWarpsKey call.platform.defaults.numWarps tuning.numWarps ∧
        now.Chosen numStagesKey call.platform.defaults.numStages tuning.numStages := by
  induction platforms generalizing params back with
  | nil => simp [extractions]
  | cons platform rest ih =>
    rcases hextract : params.extractTuning platform with ⟨result, after⟩
    obtain ⟨names, htakes, hloses, _⟩ := hselects.takes hextract
    intro call hcall
    simp only [extractions, hextract, List.mem_cons] at hcall
    rcases hcall with rfl | hlater
    · refine ⟨back, hselects, fun _ _ hfound => hfound, ?_⟩
      rintro tuning rfl
      cases htakes with
      | tuned hwarps hstages => exact ⟨hwarps, hstages⟩
    · obtain ⟨now, hnow, hasked, htuned⟩ := ih hloses.rest call hlater
      refine ⟨now, hnow, fun key found hfound => ?_, htuned⟩
      exact (get?_without_eq_some_iff.mp (hasked key found hfound)).2

/-- Different causes of failure that each blame one of two names are two at most. -/
theorem length_le_two_of_nodup {errors : List LoweringError}
    (hnodup : (errors.map LoweringError.faultyParam?).Nodup)
    (hfaulty : ∀ error ∈ errors,
      error.faultyParam? = some numWarpsKey ∨ error.faultyParam? = some numStagesKey) :
    errors.length ≤ 2 := by
  have hsubset : errors.map LoweringError.faultyParam? ⊆ [some numWarpsKey, some numStagesKey] := by
    intro key hkey
    obtain ⟨error, herror, rfl⟩ := List.mem_map.mp hkey
    simpa using hfaulty error herror
  simpa using (hnodup.subperm hsubset).length_le

/-- Extractions from one ordered table use up its back-end parameters. If something
else than a table has their name, then all extractions fail with the same cause and
change nothing. -/
theorem usesUp_extractions (hordered : params.Ordered) (platforms : List Platform) :
    (∀ found, params.get? backendKey = some found → ¬found.IsTable →
      ∀ call ∈ params.extractions platforms,
        call.before = params ∧ call.result = .error (.paramSort backendKey .table found) ∧
          call.after = params) ∧
    ∀ back, params.Selects back → back.UsesUp (params.extractions platforms) := by
  refine ⟨fun found hfound hnot =>
    extractions_of_unchanged (extractTuning_of_not_table hfound hnot) platforms,
    fun back hselects => ?_⟩
  obtain ⟨hnodup, hkeys⟩ := hselects.failures_extractions platforms
  have hfaulty : ∀ error ∈ (params.extractions platforms).filterMap Extraction.failure?,
      error.faultyParam? = some numWarpsKey ∨ error.faultyParam? = some numStagesKey := by
    intro error herror
    obtain ⟨key, _, hkey, hfault, _⟩ := hkeys error herror
    rcases hkey with rfl | rfl
    · exact .inl hfault
    · exact .inr hfault
  have hpairwise := hordered.pairwise_extractions platforms
  exact {
    failures := length_le_two_of_nodup hnodup hfaulty
    faulty := hfaulty
    distinct := hnodup
    asked := hselects.asked_extractions platforms
    warpsOnce := hpairwise.imp fun hsettled _ value' hyields =>
      (hsettled hyields.succeeds).1.not_yields (.inl rfl) Tuning.numWarps value'
    stagesOnce := hpairwise.imp fun hsettled _ value' hyields =>
      (hsettled hyields.succeeds).1.not_yields (.inr rfl) Tuning.numStages value'
    settled := hpairwise.imp fun hsettled hsucceeds => ⟨_, (hsettled hsucceeds).2.1⟩
    defaults := hpairwise.imp fun hsettled hsucceeds => (hsettled hsucceeds).2 }

/-- Where both names are refused, it takes two failures to get to the defaults. -/
theorem usesUp_after_two_failures :
    let params : Params := ⟨[("num_stages", .int 0), ("num_warps", .bool true)]⟩
    let calls := params.extractions [.cuda, .rocm, .cuda, .rocm]
    params.Ordered ∧ params.UsesUp calls ∧
      calls.map Extraction.result =
        [.error (.paramSort "num_warps" .integer (.bool true)), .error (.paramRange "num_stages" 0),
          .ok ⟨4, 3⟩, .ok ⟨4, 1⟩] := by
  intro params calls
  have hordered : params.Ordered := by
    refine .table (List.pairwise_pair.mpr (by decide)) fun entry hentry => ?_
    rcases List.mem_pair.mp hentry with rfl | rfl
    · exact .int 0
    · exact .bool true
  refine ⟨hordered, ?_, rfl⟩
  exact (usesUp_extractions hordered [.cuda, .rocm, .cuda, .rocm]).2 params (.whole rfl)

end Params

end KernelLaunch
