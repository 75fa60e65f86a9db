import KernelLaunch.Param.Tuning
import KernelLaunch.Proofs.Requirement

/-!
# What the extraction of the tuning reads and leaves

The extraction works inside the whole table of parameters and finds its place
again after it has changed the table. This file shows that it comes down to the
back-end parameters alone: the tuning is read off their two names, and what is
left over are the same parameters without these names.
-/

namespace KernelLaunch.Params

/-- The back-end parameters that a table selects. -/
inductive Selects (params : Params) : Params → Prop
  /-- Without a table of their own, they are the whole. -/
  | whole : params.get? backendKey = none → Selects params params
  /-- They have a table of their own. -/
  | nested {bindings : List (String × Param)} :
      params.get? backendKey = some (.table bindings) → Selects params ⟨bindings⟩

/-- The back-end parameters that are found are the selected ones. -/
theorem backend_eq_ok_iff {params back : Params} :
    params.backend = .ok back ↔ params.Selects back := by
  constructor
  · intro hback
    unfold backend at hback
    split at hback
    · next hnone =>
      obtain rfl : params = back := Except.ok.inj hback
      exact .whole hnone
    · next bindings htable =>
      obtain rfl : ⟨bindings⟩ = back := Except.ok.inj hback
      exact .nested htable
    · exact absurd hback (by simp)
  · intro hselects
    cases hselects with
    | whole hnone => simp [backend, hnone]
    | nested htable => simp [backend, htable]

/-- A table without a table of back-end parameters in it selects none that has one
in it. -/
theorem Selects.get?_backendKey {params back : Params} (hselects : params.Selects back)
    (hnone : params.get? backendKey = none) : back.get? backendKey = none := by
  cases hselects with
  | whole _ => exact hnone
  | nested htable => simp [hnone] at htable

/-- Back-end parameters that were put into their place are selected, provided
that parameters without a table of their own are not given one. -/
theorem Selects.withBackend {params back replacement : Params} (hselects : params.Selects back)
    (hflat : params.get? backendKey = none → replacement.get? backendKey = none) :
    (params.withBackend replacement).Selects replacement := by
  cases hselects with
  | whole hnone =>
    have hwhole : params.withBackend replacement = replacement := by
      simp [Params.withBackend, hnone]
    rw [hwhole]
    exact .whole (hflat hnone)
  | nested htable => exact backend_eq_ok_iff.mp (backend_withBackend_of_table htable)

/-- The back-end parameters without the names of the tuning. -/
def leftover (back : Params) : Params :=
  (back.erase numWarpsKey).erase numStagesKey

/-- The tuning that back-end parameters ask for, or the default for a name that
is not bound. -/
def tuning (defaults : Tuning) (back : Params) : Except LoweringError Tuning := do
  let numWarps ← back.positiveWord numWarpsKey defaults.numWarps
  let numStages ← back.positiveWord numStagesKey defaults.numStages
  return ⟨numWarps, numStages⟩

/-- The names of the tuning are not left over, and all others are as before. -/
theorem get?_leftover (back : Params) (key : String) :
    back.leftover.get? key =
      if key = numStagesKey ∨ key = numWarpsKey then none else back.get? key := by
  rw [leftover, get?_erase, get?_erase]
  by_cases hstages : key = numStagesKey <;> simp [hstages]

/-- A word that a name asks for: the default of an unbound name, or the integer
that the name is bound to, which keeps its value and is at least 1. -/
def Chosen (back : Params) (key : String) (default word : Int32) : Prop :=
  (back.get? key = none ∧ word = default) ∨
    ∃ value : Int64, back.get? key = some (.int value) ∧ word.toInt = value.toInt ∧
      1 ≤ word.toInt

/-- A word that is read off a name is the one that the name asks for. -/
theorem positiveWord_eq_ok_iff {back : Params} {key : String} {default word : Int32} :
    back.positiveWord key default = .ok word ↔ back.Chosen key default word := by
  unfold positiveWord Chosen
  cases hkey : back.get? key with
  | none => simp [eq_comm]
  | some found =>
    cases found with
    | table | bool | text => simp
    | int value =>
      by_cases hrange : 1 ≤ value.toInt ∧ value.toInt ≤ 2147483647
      · have hkeeps : (Int32.ofInt value.toInt).toInt = value.toInt :=
          Int32.toInt_ofInt_of_le (by omega) (by omega)
        simp only [if_pos hrange, Except.ok.injEq, reduceCtorEq, false_and, false_or,
          Option.some.injEq, Param.int.injEq]
        constructor
        · rintro rfl
          exact ⟨value, rfl, hkeeps, by omega⟩
        · rintro ⟨_, rfl, hvalue, _⟩
          exact Int32.toInt_inj.mp (hkeeps.trans hvalue.symm)
      · -- A word that kept the value would put it in range.
        simp only [if_neg hrange, reduceCtorEq, false_and, false_or, false_iff,
          Option.some.injEq, Param.int.injEq]
        rintro ⟨_, rfl, hvalue, hpositive⟩
        have hlt := word.toInt_lt
        exact hrange ⟨by omega, by omega⟩

/-- The metadata are what their name is bound to, if it is bound. -/
theorem metadata_eq_ok_iff {back : Params} {metadata : Option String} :
    back.metadata = .ok metadata ↔ back.get? metadataKey = metadata.map .text := by
  unfold Params.metadata
  split
  · next hnone => cases metadata <;> simp [hnone]
  · next text htext => cases metadata <;> simp [htext]
  · next found hnot hfound =>
    simp only [reduceCtorEq, hfound, false_iff]
    intro hmetadata
    cases metadata with
    | none => exact absurd hmetadata (by simp)
    | some text => exact hnot text (by simpa using hmetadata)

/-- A word that is asked for is positive if the default is. -/
theorem Chosen.positive {back : Params} {key : String} {default word : Int32}
    (hchosen : back.Chosen key default word) (hdefault : 1 ≤ default.toInt) : 1 ≤ word.toInt := by
  rcases hchosen with ⟨_, rfl⟩ | ⟨_, _, _, hpositive⟩
  · exact hdefault
  · exact hpositive

/-- A word is read off the binding of its name alone. -/
theorem positiveWord_congr {a b : Params} {key : String} (hkey : a.get? key = b.get? key)
    (default : Int32) : a.positiveWord key default = b.positiveWord key default := by
  simp only [positiveWord, hkey]

/-- The metadata are read off the binding of their name alone. -/
theorem metadata_congr {a b : Params} (hkey : a.get? metadataKey = b.get? metadataKey) :
    a.metadata = b.metadata := by
  simp only [metadata, hkey]

/-- The metadata are left over. -/
theorem metadata_leftover (back : Params) : back.leftover.metadata = back.metadata := by
  apply metadata_congr
  rw [get?_leftover, if_neg (by decide)]

/-- The tuning of back-end parameters consists of the words that its names ask
for. -/
theorem tuning_eq_ok_iff {back : Params} {defaults tuning : Tuning} :
    back.tuning defaults = .ok tuning ↔
      back.Chosen numWarpsKey defaults.numWarps tuning.numWarps ∧
        back.Chosen numStagesKey defaults.numStages tuning.numStages := by
  simp only [Params.tuning, bind_eq_ok_iff, positiveWord_eq_ok_iff]
  constructor
  · rintro ⟨numWarps, hwarps, numStages, hstages, htuning⟩
    obtain rfl : ⟨numWarps, numStages⟩ = tuning := Except.ok.inj htuning
    exact ⟨hwarps, hstages⟩
  · rintro ⟨hwarps, hstages⟩
    exact ⟨tuning.numWarps, hwarps, tuning.numStages, hstages, rfl⟩

/-- The number of stages does not depend on whether the number of warps was taken
before. -/
theorem positiveWord_erase_numWarps (back : Params) (default : Int32) :
    (back.erase numWarpsKey).positiveWord numStagesKey default =
      back.positiveWord numStagesKey default := by
  apply positiveWord_congr
  rw [get?_erase, if_neg (by decide)]

/-- What is taken is the tuning. -/
theorem takeTuning_fst (defaults : Tuning) (back : Params) :
    (takeTuning defaults back).1 = back.tuning defaults := by
  cases hwarps : back.positiveWord numWarpsKey defaults.numWarps with
  | error error => simp [takeTuning, tuning, hwarps, bind, Except.bind]
  | ok numWarps =>
    cases hstages : back.positiveWord numStagesKey defaults.numStages with
    | error error =>
      simp [takeTuning, tuning, hwarps, hstages, positiveWord_erase_numWarps, bind, Except.bind]
    | ok numStages =>
      simp [takeTuning, tuning, hwarps, hstages, positiveWord_erase_numWarps, bind, Except.bind,
        pure, Except.pure]

/-- A tuning is extracted exactly if it is the one of back-end parameters. -/
theorem exists_extractTuning_iff {params : Params} {platform : Platform} {tuning : Tuning} :
    (∃ rest, params.extractTuning platform = (.ok tuning, rest)) ↔
      ∃ back, params.backend = .ok back ∧ back.tuning platform.defaults = .ok tuning := by
  cases hback : params.backend with
  | error error => simp [extractTuning_of_error hback]
  | ok back => simp [extractTuning_of_backend hback, takeTuning_fst]

/-- Where a tuning is taken, both of its names are removed. -/
theorem takeTuning_snd {defaults tuning : Tuning} {back : Params}
    (htuning : back.tuning defaults = .ok tuning) :
    (takeTuning defaults back).2 = back.leftover := by
  simp only [Params.tuning, bind_eq_ok_iff] at htuning
  obtain ⟨numWarps, hwarps, numStages, hstages, _⟩ := htuning
  simp [takeTuning, leftover, hwarps, hstages, positiveWord_erase_numWarps]

/-- Splitting off the tuning comes down to the back-end parameters: the tuning is
theirs, and so is what is left over. -/
theorem splitTuning_eq (platform : Platform) (params : Params) :
    params.splitTuning platform = (do
      let back ← params.backend
      let tuning ← back.tuning platform.defaults
      return (tuning, back.leftover)) := by
  cases hback : params.backend with
  | error error =>
    simp only [splitTuning, extractTuning_of_error hback]
    rfl
  | ok back =>
    simp only [splitTuning, extractTuning_of_backend hback, takeTuning_fst]
    cases htuning : back.tuning platform.defaults with
    | error error => simp only [htuning, bind, Except.bind]
    | ok tuning =>
      have hselects : params.Selects back := backend_eq_ok_iff.mp hback
      have hreplaced : (params.withBackend back.leftover).Selects back.leftover := by
        refine hselects.withBackend fun hnone => ?_
        rw [get?_leftover, if_neg (by decide), hselects.get?_backendKey hnone]
      have hdetach := detachBackend_of_backend (backend_eq_ok_iff.mpr hreplaced)
      simp only [takeTuning_snd htuning, hdetach, htuning, bind, Except.bind, pure, Except.pure]

end KernelLaunch.Params
