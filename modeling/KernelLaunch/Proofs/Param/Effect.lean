import KernelLaunch.Proofs.Param.Acceptance

/-!
# What an extraction does to a table

An extraction removes a name before it judges the value, so each way to fail leaves
a table of its own behind. This file lists the ways an extraction can go, first for
the back-end parameters and then for the whole table around them: what is lost are
the names that were read, and everything else stays where it was.
-/

namespace KernelLaunch

/-- A value that is no positive word is told as a fault of the parameters. -/
theorem Param.kind_wordFault (key : String) (found : Param) :
    (found.wordFault key).kind = .invalidParams := by
  cases found <;> rfl

namespace Params

/-- The bindings of all names but some. -/
def without (params : Params) (names : List String) : Params :=
  ⟨params.bindings.filter fun entry => entry.1 ∉ names⟩

/-- A name is unbound, or bound to a positive word. -/
def Allows (back : Params) (key : String) : Prop :=
  ∀ found, back.get? key = some found → found.IsPositiveWord

/-- The ways to take the tuning out of back-end parameters, with the names that are
lost. -/
inductive Takes (defaults : Tuning) (back : Params) :
    Except LoweringError Tuning → List String → Prop
  /-- The number of warps is refused, before the number of stages is read. -/
  | warpsRefused {found : Param} : back.get? numWarpsKey = some found →
      ¬found.IsPositiveWord →
      Takes defaults back (.error (found.wordFault numWarpsKey)) [numWarpsKey]
  /-- The number of stages is refused, after the number of warps was taken. -/
  | stagesRefused {found : Param} : back.Allows numWarpsKey →
      back.get? numStagesKey = some found → ¬found.IsPositiveWord →
      Takes defaults back (.error (found.wordFault numStagesKey)) [numWarpsKey, numStagesKey]
  /-- Both numbers are taken. -/
  | tuned {tuning : Tuning} : back.Chosen numWarpsKey defaults.numWarps tuning.numWarps →
      back.Chosen numStagesKey defaults.numStages tuning.numStages →
      Takes defaults back (.ok tuning) [numWarpsKey, numStagesKey]

/-- The back-end parameters of a table have lost some names, and nothing else of
the table is changed. -/
structure Loses (params back after : Params) (names : List String) : Prop where
  /-- The back-end parameters are now those without the names. -/
  rest : after.Selects (back.without names)
  /-- They have a table of their own if they had one. -/
  place : after.contains backendKey = params.contains backendKey
  /-- Beside a table of their own, every name is bound as before. -/
  beside : params.contains backendKey = true → ∀ key, key ≠ backendKey →
    after.get? key = params.get? key

variable {params back : Params}

/-- Removed names are unbound, and all others are as before. -/
theorem get?_without (params : Params) (names : List String) (key : String) :
    (params.without names).get? key = if key ∈ names then none else params.get? key := by
  obtain ⟨bindings⟩ := params
  simp only [without, get?]
  induction bindings with
  | nil => simp
  | cons entry rest ih =>
    obtain ⟨name, value⟩ := entry
    by_cases hname : name ∈ names
    · rw [List.filter_cons_of_neg (by simpa using hname), ih, List.lookup_cons]
      by_cases hkey : key = name
      · simp [hkey, hname]
      · rw [beq_eq_false_iff_ne.mpr hkey]
    · rw [List.filter_cons_of_pos (by simpa using hname), List.lookup_cons, List.lookup_cons, ih]
      by_cases hkey : key = name
      · simp [hkey, hname]
      · simp [beq_eq_false_iff_ne.mpr hkey]

/-- What is left without some names is what the other names are bound to. -/
theorem get?_without_eq_some_iff {names : List String} {key : String} {found : Param} :
    (params.without names).get? key = some found ↔
      key ∉ names ∧ params.get? key = some found := by
  rw [get?_without]
  by_cases hname : key ∈ names <;> simp [hname]

/-- Nothing is removed with names that are unbound. -/
theorem without_eq_self {names : List String} (hunbound : ∀ key ∈ names, params.get? key = none) :
    params.without names = params := by
  refine congrArg mk (List.filter_eq_self.mpr fun entry hentry => decide_eq_true fun hname => ?_)
  have hne := List.lookup_eq_none_iff.mp (hunbound entry.1 hname) entry hentry
  exact absurd rfl (bne_iff_ne.mp hne)

/-- Unbinding one name leaves all but this name. -/
theorem erase_eq_without (params : Params) (key : String) :
    params.erase key = params.without [key] := by
  simp [erase, Keyed.erase, without]

/-- What is left over are all names but those of the tuning. -/
theorem leftover_eq_without (back : Params) :
    back.leftover = back.without [numWarpsKey, numStagesKey] := by
  simp only [leftover, erase, Keyed.erase, without, List.filter_filter, Params.mk.injEq]
  refine List.filter_congr fun entry _ => ?_
  simp [and_comm]

/-- A value that is no positive word is refused. -/
theorem positiveWord_of_refused {key : String} {found : Param}
    (hfound : back.get? key = some found) (hrefused : ¬found.IsPositiveWord) (default : Int32) :
    back.positiveWord key default = .error (found.wordFault key) := by
  have hviolated : ¬(Requirement.tuningWord back key).holds :=
    fun hholds => hrefused (hholds found hfound)
  obtain ⟨error, ⟨found', hfound', _, rfl, _⟩, herror⟩ :=
    (back.decide_positiveWord key default).error_of_not_holds hviolated
  obtain rfl : found' = found := Option.some.inj (hfound'.symm.trans hfound)
  exact herror

/-- A name that allows it yields the word that it asks for. -/
theorem Allows.exists_positiveWord {key : String} (hallows : back.Allows key) (default : Int32) :
    ∃ word, back.positiveWord key default = .ok word ∧ back.Chosen key default word := by
  obtain ⟨word, hword⟩ := (back.decide_positiveWord key default).exists_ok_iff.mpr
    (List.forall_mem_singleton.mpr hallows)
  exact ⟨word, hword, positiveWord_eq_ok_iff.mp hword⟩

/-- A name allows a word to be taken, or it is bound to a value that is refused. -/
theorem allows_or_refused (back : Params) (key : String) :
    back.Allows key ∨ ∃ found, back.get? key = some found ∧ ¬found.IsPositiveWord := by
  by_cases hallows : back.Allows key
  · exact .inl hallows
  · simp only [Allows, Classical.not_forall] at hallows
    obtain ⟨found, hfound, hrefused⟩ := hallows
    exact .inr ⟨found, hfound, hrefused⟩

/-- A name that a word was chosen from allows it. -/
theorem Chosen.allows {key : String} {default word : Int32}
    (hchosen : back.Chosen key default word) : back.Allows key := by
  have hword := positiveWord_eq_ok_iff.mpr hchosen
  refine (allows_or_refused back key).resolve_right ?_
  rintro ⟨found, hfound, hrefused⟩
  rw [positiveWord_of_refused hfound hrefused] at hword
  exact absurd hword (by simp)

/-- A name that is unbound is left to its default. -/
theorem Chosen.eq_default {key : String} {default word : Int32}
    (hchosen : back.Chosen key default word) (hunbound : back.get? key = none) :
    word = default := by
  rcases hchosen with ⟨_, hword⟩ | ⟨value, hvalue, _⟩
  · exact hword
  · exact absurd (hunbound.symm.trans hvalue) (by simp)

/-- If taking the tuning fails, it is about a name that is bound, and the name is lost. -/
theorem Takes.ok_or_refused {defaults : Tuning} {result : Except LoweringError Tuning}
    {names : List String} (htakes : Takes defaults back result names) :
    (∃ tuning, result = .ok tuning) ∨
      ∃ key found, (key = numWarpsKey ∨ key = numStagesKey) ∧ key ∈ names ∧
        back.get? key = some found ∧ result = .error (found.wordFault key) := by
  cases htakes with
  | warpsRefused hfound _ => exact .inr ⟨_, _, .inl rfl, by simp, hfound, rfl⟩
  | stagesRefused _ hfound _ => exact .inr ⟨_, _, .inr rfl, by simp, hfound, rfl⟩
  | tuned _ _ => exact .inl ⟨_, rfl⟩

/-- Taking the tuning out of back-end parameters goes one of the three ways, and it
leaves the parameters without the names that are lost. -/
theorem exists_takes (defaults : Tuning) (back : Params) :
    ∃ names, Takes defaults back (takeTuning defaults back).1 names ∧
      (takeTuning defaults back).2 = back.without names := by
  rcases back.allows_or_refused numWarpsKey with hwarps | ⟨found, hfound, hrefused⟩
  · obtain ⟨numWarps, hnumWarps, hchosenWarps⟩ := hwarps.exists_positiveWord defaults.numWarps
    have hrest : (back.erase numWarpsKey).erase numStagesKey =
        back.without [numWarpsKey, numStagesKey] := back.leftover_eq_without
    refine ⟨[numWarpsKey, numStagesKey], ?_⟩
    rcases back.allows_or_refused numStagesKey with hstages | ⟨found, hfound, hrefused⟩
    · obtain ⟨numStages, hnumStages, hchosenStages⟩ :=
        hstages.exists_positiveWord defaults.numStages
      simp only [takeTuning, hnumWarps, positiveWord_erase_numWarps, hnumStages]
      exact ⟨.tuned hchosenWarps hchosenStages, hrest⟩
    · simp only [takeTuning, hnumWarps, positiveWord_erase_numWarps,
        positiveWord_of_refused hfound hrefused]
      exact ⟨.stagesRefused hwarps hfound hrefused, hrest⟩
  · refine ⟨[numWarpsKey], ?_⟩
    simp only [takeTuning, positiveWord_of_refused hfound hrefused]
    exact ⟨.warpsRefused hfound hrefused, back.erase_eq_without numWarpsKey⟩

/-- If back-end parameters lose some names in their place, then this is all that the
table around them loses. -/
theorem Selects.loses_withBackend (hselects : params.Selects back) (names : List String) :
    params.Loses back (params.withBackend (back.without names)) names where
  rest := by
    refine hselects.withBackend fun hnone => ?_
    rw [get?_without, hselects.get?_backendKey hnone]
    split <;> rfl
  place := by
    cases hselects with
    | whole hnone => simp [contains, Params.withBackend, hnone, get?_without]
    | nested htable => simp [contains, Params.withBackend, htable, get?_update]
  beside := by
    intro hcontains key hkey
    cases hselects with
    | whole hnone => simp [contains, hnone] at hcontains
    | nested htable => simp [Params.withBackend, htable, get?_update, hkey]

/-- A table selects its back-end parameters, unless something else than a table has
their name. -/
theorem selects_or_not_table (params : Params) :
    (∃ back, params.Selects back) ∨
      ∃ found, params.get? backendKey = some found ∧ ¬found.IsTable := by
  cases hfound : params.get? backendKey with
  | none => exact .inl ⟨params, .whole hfound⟩
  | some found =>
    cases found with
    | table bindings => exact .inl ⟨⟨bindings⟩, .nested hfound⟩
    | int | bool | text => exact .inr ⟨_, rfl, id⟩

/-- Where something else than a table has the name of the back-end parameters, an
extraction reads nothing. -/
theorem extractTuning_of_not_table {found : Param} (hfound : params.get? backendKey = some found)
    (hnot : ¬found.IsTable) (platform : Platform) :
    params.extractTuning platform = (.error (.paramSort backendKey .table found), params) := by
  refine extractTuning_of_error ?_ platform
  cases found with
  | table bindings => exact absurd trivial hnot
  | int | bool | text => simp [backend, hfound]

/-- An extraction from selected back-end parameters takes the tuning from them and
loses the names that are lost by it. -/
theorem Selects.takes (hselects : params.Selects back) {platform : Platform}
    {result : Except LoweringError Tuning} {after : Params}
    (hextract : params.extractTuning platform = (result, after)) :
    ∃ names, Takes platform.defaults back result names ∧ params.Loses back after names ∧
      after = params.withBackend (back.without names) := by
  rw [extractTuning_of_backend (backend_eq_ok_iff.mpr hselects)] at hextract
  obtain ⟨rfl, rfl⟩ := Prod.mk.inj hextract
  obtain ⟨names, htakes, hrest⟩ := exists_takes platform.defaults back
  rw [hrest]
  exact ⟨names, htakes, hselects.loses_withBackend names, rfl⟩

/-- An extraction fails with a fault of the parameters. -/
theorem kind_of_extractTuning_error {after : Params} {platform : Platform}
    {error : LoweringError} (hextract : params.extractTuning platform = (.error error, after)) :
    error.kind = .invalidParams := by
  rcases params.selects_or_not_table with ⟨back, hselects⟩ | ⟨found, hfound, hnot⟩
  · obtain ⟨names, htakes, _⟩ := hselects.takes hextract
    rcases htakes.ok_or_refused with ⟨_, hok⟩ | ⟨key, found, _, _, _, herror⟩
    · exact absurd hok (by simp)
    · exact Except.error.inj herror ▸ Param.kind_wordFault key found
  · rw [extractTuning_of_not_table hfound hnot] at hextract
    obtain rfl := Except.error.inj (Prod.mk.inj hextract).1
    rfl

/-- Every extraction loses the names that it has read and nothing else. Where there
are no back-end parameters, it reads none; a refused number of warps keeps it from
reading the number of stages; and a refused number of stages is lost together with
the number of warps, as both are if none is refused. -/
theorem loses_of_extractTuning {params after : Params} {platform : Platform}
    {result : Except LoweringError Tuning}
    (hextract : params.extractTuning platform = (result, after)) :
    (∀ found, params.get? backendKey = some found → ¬found.IsTable →
      result = .error (.paramSort backendKey .table found) ∧ after = params) ∧
    (∀ back, params.Selects back →
      (∀ found, back.get? numWarpsKey = some found → ¬found.IsPositiveWord →
        result = .error (found.wordFault numWarpsKey) ∧
          params.Loses back after [numWarpsKey]) ∧
      (back.Allows numWarpsKey → ∀ found, back.get? numStagesKey = some found →
        ¬found.IsPositiveWord →
        result = .error (found.wordFault numStagesKey) ∧
          params.Loses back after [numWarpsKey, numStagesKey]) ∧
      (back.Allows numWarpsKey → back.Allows numStagesKey →
        ∃ tuning, result = .ok tuning ∧
          back.Chosen numWarpsKey platform.defaults.numWarps tuning.numWarps ∧
          back.Chosen numStagesKey platform.defaults.numStages tuning.numStages ∧
          params.Loses back after [numWarpsKey, numStagesKey])) ∧
    ∀ error, result = .error error → error.kind = .invalidParams := by
  refine ⟨fun found hfound hnot => ?_, fun back hselects => ?_, ?_⟩
  · rw [extractTuning_of_not_table hfound hnot] at hextract
    obtain ⟨rfl, rfl⟩ := Prod.mk.inj hextract
    exact ⟨rfl, rfl⟩
  · obtain ⟨names, htakes, hloses, _⟩ := hselects.takes hextract
    refine ⟨fun found hfound hrefused => ?_, fun hwarps found hfound hrefused => ?_,
      fun hwarps hstages => ?_⟩
    · cases htakes with
      | warpsRefused hfound' _ =>
        obtain rfl := Option.some.inj (hfound'.symm.trans hfound)
        exact ⟨rfl, hloses⟩
      | stagesRefused hwarps _ _ => exact absurd (hwarps found hfound) hrefused
      | tuned hwarps _ => exact absurd (hwarps.allows found hfound) hrefused
    · cases htakes with
      | warpsRefused hfound' hrefused' => exact absurd (hwarps _ hfound') hrefused'
      | stagesRefused _ hfound' _ =>
        obtain rfl := Option.some.inj (hfound'.symm.trans hfound)
        exact ⟨rfl, hloses⟩
      | tuned _ hstages => exact absurd (hstages.allows found hfound) hrefused
    · cases htakes with
      | warpsRefused hfound hrefused => exact absurd (hwarps _ hfound) hrefused
      | stagesRefused _ hfound hrefused => exact absurd (hstages _ hfound) hrefused
      | tuned hchosenWarps hchosenStages => exact ⟨_, rfl, hchosenWarps, hchosenStages, hloses⟩
  · rintro error rfl
    exact kind_of_extractTuning_error hextract

/-- A number of stages that would be right modulo the length of a word is refused. It
is lost together with the number of warps, while the same name beside the back-end
parameters stays. -/
theorem loses_wide_stages :
    let back : Params :=
      ⟨[("num_ctas", .int 1), ("num_stages", .int 4294967300), ("num_warps", .int 8)]⟩
    let params : Params := ⟨[("num_stages", .int 2), ("triton", .table back.bindings)]⟩
    let after : Params := ⟨[("num_stages", .int 2), ("triton", .table [("num_ctas", .int 1)])]⟩
    params.extractTuning .cuda = (.error (.paramRange "num_stages" 4294967300), after) ∧
      params.Loses back after [numWarpsKey, numStagesKey] := by
  intro back params after
  have hextract : params.extractTuning .cuda =
      (.error (.paramRange "num_stages" 4294967300), after) := by rfl
  have hwarps : back.Allows numWarpsKey := by
    rintro found hfound
    obtain rfl : Param.int 8 = found := Option.some.inj hfound
    exact ⟨by decide, by decide⟩
  have hrefused : ¬(Param.int 4294967300).IsPositiveWord := fun hword => absurd hword.2 (by decide)
  have hselected := (loses_of_extractTuning hextract).2.1 back (.nested rfl)
  exact ⟨hextract, (hselected.2.1 hwarps _ rfl hrefused).2⟩

end Params

end KernelLaunch
