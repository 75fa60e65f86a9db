import KernelLaunch.Proofs.Param.Effect

/-!
# Splitting the tuning off a table

A launch does not keep its whole table: it splits the tuning off and keeps the
back-end parameters that are left. The split looks for these a second time, after
the extraction has changed the table. This file shows that it finds them in the same
place, so that it comes to the same as an extraction from the table and a look for
the back-end parameters afterwards.
-/

namespace KernelLaunch.Params

/-- What is left of a table after its tuning was split off. -/
structure Remains (params rest : Params) : Prop where
  /-- The names of the tuning are unbound. -/
  untuned : ∀ key ∈ [numWarpsKey, numStagesKey], rest.get? key = none
  /-- All other bindings of the back-end parameters are left, and none from outside. -/
  others : ∃ back, params.Selects back ∧ rest = back.without [numWarpsKey, numStagesKey]
  /-- Unless the name of the back-end parameters is bound once more in it, splitting again
  yields the defaults and leaves the same. -/
  again : rest.get? backendKey = none → ∀ platform : Platform,
    rest.splitTuning platform = .ok (platform.defaults, rest)

variable {params back : Params}

/-- Where both names are unbound, the tuning is the default. -/
theorem tuning_of_unbound (hwarps : back.get? numWarpsKey = none)
    (hstages : back.get? numStagesKey = none) (defaults : Tuning) :
    back.tuning defaults = .ok defaults :=
  tuning_eq_ok_iff.mpr ⟨.inl ⟨hwarps, rfl⟩, .inl ⟨hstages, rfl⟩⟩

/-- A failed extraction is a failed split. -/
theorem splitTuning_of_extractTuning_error {platform : Platform} {error : LoweringError}
    {after : Params} (hextract : params.extractTuning platform = (.error error, after)) :
    params.splitTuning platform = .error error := by
  simp only [splitTuning, hextract]

/-- After a successful extraction the back-end parameters are found again, and they are
what the split leaves. -/
theorem splitTuning_of_extractTuning_ok {platform : Platform} {tuning : Tuning}
    {after : Params} (hextract : params.extractTuning platform = (.ok tuning, after)) :
    ∃ back, params.Selects back ∧ after.Selects (back.without [numWarpsKey, numStagesKey]) ∧
      params.splitTuning platform = .ok (tuning, back.without [numWarpsKey, numStagesKey]) := by
  rcases params.selects_or_not_table with ⟨back, hselects⟩ | ⟨found, hfound, hnot⟩
  · obtain ⟨names, htakes, hloses, _⟩ := hselects.takes hextract
    cases htakes with
    | tuned _ _ =>
      have hdetach := detachBackend_of_backend (backend_eq_ok_iff.mpr hloses.rest)
      refine ⟨back, hselects, hloses.rest, ?_⟩
      simp only [splitTuning, hextract, hdetach]
  · rw [extractTuning_of_not_table hfound hnot] at hextract
    exact absurd (Prod.mk.inj hextract).1 (by simp)

/-- The back-end parameters without the names of the tuning are what remains. -/
theorem Selects.remains (hselects : params.Selects back) :
    params.Remains (back.without [numWarpsKey, numStagesKey]) := by
  have huntuned : ∀ key ∈ [numWarpsKey, numStagesKey],
      (back.without [numWarpsKey, numStagesKey]).get? key = none := by
    intro key hkey
    rw [get?_without, if_pos hkey]
  refine ⟨huntuned, ⟨back, hselects, rfl⟩, fun hnone platform => ?_⟩
  have htuning := tuning_of_unbound (huntuned numWarpsKey (by simp))
    (huntuned numStagesKey (by simp)) platform.defaults
  rw [splitTuning_eq, backend_eq_ok_iff.mpr (.whole hnone)]
  simp only [bind, Except.bind, htuning, pure, Except.pure, leftover_eq_without]
  rw [without_eq_self huntuned]

/-- A selected table is no other value. -/
theorem Selects.isTable (hselects : params.Selects back) {found : Param}
    (hfound : params.get? backendKey = some found) : found.IsTable := by
  cases hselects with
  | whole hnone => exact absurd (hnone.symm.trans hfound) (by simp)
  | nested htable =>
    obtain rfl := Option.some.inj (htable.symm.trans hfound)
    exact trivial

/-- Splitting the tuning off a table agrees with extracting it from the table: it fails
if that fails, with the same cause, and else it yields the same tuning and leaves the
back-end parameters that are found afterwards. There they are always found, since a
success leaves nothing but a table under their name. -/
theorem splitTuning_agrees (params : Params) (platform : Platform) :
    (∀ error, params.splitTuning platform = .error error ↔
      (params.extractTuning platform).1 = .error error) ∧
    (∀ tuning rest, params.splitTuning platform = .ok (tuning, rest) ↔
      ∃ after, params.extractTuning platform = (.ok tuning, after) ∧ after.backend = .ok rest) ∧
    (∀ tuning after, params.extractTuning platform = (.ok tuning, after) →
      ∀ found, after.get? backendKey = some found → found.IsTable) ∧
    ∀ tuning rest, params.splitTuning platform = .ok (tuning, rest) → params.Remains rest := by
  rcases hextract : params.extractTuning platform with ⟨error | tuning, after⟩
  · have hsplit := splitTuning_of_extractTuning_error hextract
    simp [hsplit]
  · obtain ⟨back, hselects, hafter, hsplit⟩ := splitTuning_of_extractTuning_ok hextract
    have hback := backend_eq_ok_iff.mpr hafter
    refine ⟨by simp [hsplit], fun tuning' rest => ?_, ?_, ?_⟩
    · rw [hsplit]
      constructor
      · rintro hrest
        obtain ⟨rfl, rfl⟩ := Prod.mk.inj (Except.ok.inj hrest)
        exact ⟨after, rfl, hback⟩
      · rintro ⟨after', hafter', hrest⟩
        obtain ⟨htuning, rfl⟩ := Prod.mk.inj hafter'
        rw [Except.ok.inj htuning, Except.ok.inj (hback.symm.trans hrest)]
    · rintro _ after' hafter' found hfound
      obtain ⟨_, rfl⟩ := Prod.mk.inj hafter'
      exact hafter.isTable hfound
    · intro tuning' rest hrest
      obtain ⟨_, rfl⟩ := Prod.mk.inj (Except.ok.inj (hsplit.symm.trans hrest))
      exact hselects.remains

/-- The name of the back-end parameters is nothing special inside their own table: what
it is bound to there remains, and it keeps nothing from being split off. -/
theorem splitTuning_inner_backendKey :
    let params : Params := ⟨[("num_warps", .int 2),
      ("triton", .table [("num_stages", .int 2), ("triton", .int 0)])]⟩
    params.splitTuning .rocm = .ok (⟨4, 2⟩, ⟨[("triton", .int 0)]⟩) ∧
      params.Remains ⟨[("triton", .int 0)]⟩ := by
  intro params
  have hsplit : params.splitTuning .rocm = .ok (⟨4, 2⟩, ⟨[("triton", .int 0)]⟩) := rfl
  exact ⟨hsplit, (splitTuning_agrees params .rocm).2.2.2 _ _ hsplit⟩

end KernelLaunch.Params
