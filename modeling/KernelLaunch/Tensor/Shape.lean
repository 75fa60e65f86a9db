import KernelLaunch.Tensor.ElementType

/-!
# Shapes

The shape of an array is its element type together with its lengths along each
dimension, the outermost first. Nothing restricts the lengths.
-/

namespace KernelLaunch

/-- The element type and the lengths of an array. -/
structure Shape where
  /-- The type of the entries. -/
  element : ElementType
  /-- The length along each dimension, outermost first. -/
  lengths : List Nat
  deriving DecidableEq

/-- The number of dimensions. -/
def Shape.rank (shape : Shape) : Nat :=
  shape.lengths.length

end KernelLaunch
