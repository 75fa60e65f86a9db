/-!
# Launch grids

A kernel is launched over a grid of at most three axes. A call site declares
the grid as one number or as a list of numbers; the launch itself needs one
number for each axis.
-/

namespace KernelLaunch

/-- An axis of the launch grid. -/
inductive Axis where
  | x
  | y
  | z
  deriving DecidableEq

/-- The letter of an axis. -/
def Axis.letter : Axis → String
  | .x => "x"
  | .y => "y"
  | .z => "z"

/-- One value for each axis. -/
structure Extent (α : Type) where
  x : α
  y : α
  z : α
  deriving DecidableEq

/-- The values in the order of the axes. -/
def Extent.toList {α : Type} (extent : Extent α) : List α :=
  [extent.x, extent.y, extent.z]

/-- A grid as it is declared. -/
inductive Grid where
  /-- A single number. -/
  | scalar (size : UInt32)
  /-- A list of numbers, one for each axis from `x` on. -/
  | list (sizes : List UInt32)
  deriving DecidableEq

/-- The declared numbers. A single number counts as a list of one. -/
def Grid.sizes : Grid → List UInt32
  | .scalar size => [size]
  | .list sizes => sizes

/-- The first three sizes, with 1 for each axis that has none. -/
def Extent.padded (sizes : List UInt32) : Extent UInt32 :=
  ⟨sizes.getD 0 1, sizes.getD 1 1, sizes.getD 2 1⟩

/-- Padding changes no size that is there. -/
theorem Extent.toList_padded {sizes : List UInt32} (hrank : sizes.length ≤ 3) :
    (Extent.padded sizes).toList = sizes ++ List.replicate (3 - sizes.length) 1 := by
  match sizes, hrank with
  | [], _ => rfl
  | [_], _ => rfl
  | [_, _], _ => rfl
  | [_, _, _], _ => rfl

end KernelLaunch
