import KernelLaunch.Tensor.Shape

/-!
# Memory layouts

A layout lists the dimensions of an array from the one whose neighbours lie
closest in memory to the one whose neighbours lie farthest apart. Arrays are
stored in row-major order, so their layouts count down.
-/

namespace KernelLaunch

/-- The dimensions of an array, closest neighbours first. -/
abbrev Layout := List Nat

/-- The row-major layout of a number of dimensions. -/
def Layout.rowMajor (rank : Nat) : Layout :=
  (List.range rank).reverse

/-- The row-major layouts of a list of arrays, in order. -/
def Layout.ofShapes (shapes : List Shape) : List Layout :=
  shapes.map fun shape => rowMajor shape.rank

/-- A layout has as many entries as the array has dimensions. -/
@[simp] theorem Layout.length_rowMajor (rank : Nat) : (rowMajor rank).length = rank := by
  simp [rowMajor]

/-- There is one layout for each array. -/
@[simp] theorem Layout.length_ofShapes (shapes : List Shape) :
    (ofShapes shapes).length = shapes.length := by
  simp [ofShapes]

end KernelLaunch
