import KernelLaunch.LoweringError

/-!
# Grids in normal form

A declared grid is normal once it has one positive size for each axis. The
launch takes the sizes as signed 32-bit words, so a normal grid may still be
too long along an axis.
-/

namespace KernelLaunch

/-- The size of a declared grid along each axis, 1 where none is declared.
A grid of too many axes is refused before an empty axis is looked for. -/
def Grid.normalize (grid : Grid) : Except LoweringError (Extent UInt32) :=
  if 3 < grid.sizes.length then .error (.tooManyAxes grid.sizes)
  else
    match grid.sizes.findIdx? (· = 0) with
    | some index => .error (.emptyAxis index)
    | none => .ok (.padded grid.sizes)

/-- A grid has a normal form exactly if it has at most three axes and is empty
along none of them, and the normal form is the padded one. -/
theorem Grid.normalize_eq_ok_iff {grid : Grid} {extent : Extent UInt32} :
    grid.normalize = .ok extent ↔
      grid.sizes.length ≤ 3 ∧ (∀ size ∈ grid.sizes, size ≠ 0) ∧ extent = .padded grid.sizes := by
  by_cases hrank : 3 < grid.sizes.length
  · have hnot : ¬grid.sizes.length ≤ 3 := by omega
    simp [normalize, hrank, hnot]
  · have hle : grid.sizes.length ≤ 3 := by omega
    cases hempty : grid.sizes.findIdx? (· = 0) with
    | none =>
      have hpositive : ∀ size ∈ grid.sizes, size ≠ 0 := by
        simpa using List.findIdx?_eq_none_iff.mp hempty
      simp only [normalize, if_neg hrank, hempty, Except.ok.injEq]
      constructor
      · intro hextent
        exact ⟨hle, hpositive, hextent.symm⟩
      · rintro ⟨_, _, hextent⟩
        exact hextent.symm
    | some index =>
      simp only [normalize, if_neg hrank, hempty, reduceCtorEq, false_iff]
      rintro ⟨_, hpositive, _⟩
      have hnone : grid.sizes.findIdx? (· = 0) = none := by
        rw [List.findIdx?_eq_none_iff]
        intro size hmem
        exact decide_eq_false (hpositive size hmem)
      rw [hnone] at hempty
      exact absurd hempty (by simp)

/-- The size along an axis as a signed word. -/
def Axis.word (axis : Axis) (size : UInt32) : Except LoweringError Int32 :=
  if size.toNat ≤ 2147483647 then .ok (Int32.ofNat size.toNat)
  else .error (.axisOverflow axis size)

/-- The sizes along all axes as signed words. The first axis that is too long
is told. -/
def Extent.words (extent : Extent UInt32) : Except LoweringError (Extent Int32) := do
  let x ← Axis.x.word extent.x
  let y ← Axis.y.word extent.y
  let z ← Axis.z.word extent.z
  return ⟨x, y, z⟩

end KernelLaunch
