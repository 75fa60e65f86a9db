import KernelLaunch.Proofs.Grid.Acceptance
import Mathlib.Data.List.DropRight

/-!
# When two grids are the same

A grid may be declared with fewer axes than a launch has, and then it is padded with
ones. So ones at the end of a grid make no difference to its normal form, and this file
shows that nothing else is lost: two grids have the same normal form exactly if they
are the same without the ones at their ends. A normal form is its own normal form.
-/

namespace KernelLaunch

/-- The declared sizes but for the ones at the end. -/
def Grid.trimmed (grid : Grid) : List UInt32 :=
  grid.sizes.rdropWhile (· = 1)

/-- Ones put behind a list are dropped again. -/
theorem rdropWhile_append_ones (sizes : List UInt32) (count : Nat) :
    (sizes ++ List.replicate count 1).rdropWhile (· = 1) = sizes.rdropWhile (· = 1) := by
  induction count with
  | zero => simp
  | succ count ih =>
    rw [List.replicate_succ', ← List.append_assoc, List.rdropWhile_concat_pos _ _ _ (by simp), ih]

/-- What is dropped from a list is a number of ones. -/
theorem exists_append_ones (sizes : List UInt32) :
    ∃ count, sizes = sizes.rdropWhile (· = 1) ++ List.replicate count 1 := by
  -- Ones are dropped from the end, so the induction takes the last size off.
  induction sizes using List.reverseRecOn with
  | nil => exact ⟨0, rfl⟩
  | append_singleton sizes size ih =>
    by_cases hone : size = 1
    · obtain ⟨count, hsizes⟩ := ih
      refine ⟨count + 1, ?_⟩
      rw [List.rdropWhile_concat_pos _ _ _ (by simpa using hone), List.replicate_succ',
        ← List.append_assoc, ← hsizes, hone]
    · refine ⟨0, ?_⟩
      rw [List.rdropWhile_concat_neg _ _ _ (by simpa using hone)]
      simp

/-- The values along all axes determine each of them. -/
theorem Extent.toList_inj {α : Type} {a b : Extent α} (hlist : a.toList = b.toList) : a = b := by
  obtain ⟨x, y, z⟩ := a
  obtain ⟨x', y', z'⟩ := b
  simpa [toList] using hlist

/-- The padding fills up what is left without the ones at the end. -/
theorem Extent.toList_padded_trimmed {sizes : List UInt32} (hrank : sizes.length ≤ 3) :
    (padded sizes).toList = sizes.rdropWhile (· = 1) ++
      List.replicate (3 - (sizes.rdropWhile (· = 1)).length) 1 := by
  obtain ⟨count, hsizes⟩ := exists_append_ones sizes
  have hlength := congrArg List.length hsizes
  rw [List.length_append, List.length_replicate] at hlength
  rw [toList_padded hrank]
  calc sizes ++ List.replicate (3 - sizes.length) 1
      = sizes.rdropWhile (· = 1) ++ List.replicate count 1 ++
          List.replicate (3 - sizes.length) 1 := by rw [← hsizes]
    _ = sizes.rdropWhile (· = 1) ++ List.replicate (count + (3 - sizes.length)) 1 := by
        rw [List.append_assoc, ← List.replicate_add]
    _ = _ := by
        rw [show count + (3 - sizes.length) = 3 - (sizes.rdropWhile (· = 1)).length by omega]

/-- Two lists of sizes are padded alike exactly if they are the same without the ones at
their ends. -/
theorem Extent.padded_eq_iff {a b : List UInt32} (ha : a.length ≤ 3) (hb : b.length ≤ 3) :
    padded a = padded b ↔ a.rdropWhile (· = 1) = b.rdropWhile (· = 1) := by
  constructor
  · intro hpadded
    have hlist := congrArg toList hpadded
    rw [toList_padded ha, toList_padded hb] at hlist
    rw [← rdropWhile_append_ones a (3 - a.length), hlist, rdropWhile_append_ones]
  · intro htrimmed
    apply toList_inj
    rw [toList_padded_trimmed ha, toList_padded_trimmed hb, htrimmed]

namespace Grid

variable {a b : Grid} {x y : Extent UInt32}

/-- A grid has no normal form exactly if it violates the requirement, and the violation
is what is told. -/
theorem normalize_eq_error_iff {grid : Grid} {error : LoweringError} :
    grid.normalize = .error error ↔ (Requirement.normalGrid grid).tells error := by
  constructor
  · intro herror
    have hdecide := grid.decide_normalize
    rw [herror] at hdecide
    simpa using hdecide.exists_tells
  · rintro (⟨hrank, rfl, _⟩ | ⟨hrank, index, hfirst, rfl, _⟩)
    · rw [normalize, if_pos hrank]
    · have hviolated : ¬(Requirement.normalGrid grid).holds := fun hholds =>
        hholds.2 0 (List.mem_of_getElem? hfirst.1) rfl
      obtain ⟨error, ⟨hlong, _⟩ | ⟨_, other, hother, rfl, _⟩, herror⟩ :=
        (grid.decide_normalize).error_of_not_holds hviolated
      · omega
      · rw [herror, (hfirst.unique hother).1]

/-- Two grids have the same normal form exactly if they are the same without the ones at
their ends. -/
theorem normal_eq_iff (ha : a.normalize = .ok x) (hb : b.normalize = .ok y) :
    x = y ↔ a.trimmed = b.trimmed := by
  obtain ⟨hranka, _, rfl⟩ := normalize_eq_ok_iff.mp ha
  obtain ⟨hrankb, _, rfl⟩ := normalize_eq_ok_iff.mp hb
  exact Extent.padded_eq_iff hranka hrankb

/-- A normal form is its own normal form. -/
theorem normalize_toList (ha : a.normalize = .ok x) : (list x.toList).normalize = .ok x := by
  obtain ⟨hrank, hpositive, rfl⟩ := normalize_eq_ok_iff.mp ha
  have hnonempty : ∀ size ∈ (Extent.padded a.sizes).toList, size ≠ 0 :=
    (forall_mem_padded_iff hrank (by decide)).mpr hpositive
  exact normalize_eq_ok_iff.mpr ⟨le_rfl, hnonempty, rfl⟩

end Grid

end KernelLaunch
