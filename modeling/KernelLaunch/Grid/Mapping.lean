import KernelLaunch.Grid.Normal

/-!
# Grid mappings

A kernel declares its grid together with two counts of features that a launch
from here cannot offer: bounds known only at run time, and index operands.
-/

namespace KernelLaunch

/-- The declared grid of a kernel and the features it asks for. -/
structure GridMapping where
  /-- The grid the caller declares. -/
  grid : Grid
  /-- The number of bounds known only at run time. -/
  dynamicBounds : Nat := 0
  /-- The number of operands that are indices for prefetching. -/
  indexOperands : Nat := 0
  deriving DecidableEq

namespace GridMapping

/-- Refuses a mapping that asks for a missing feature or declares a grid
without a normal form. -/
def check (mapping : GridMapping) : Except LoweringError Unit := do
  if mapping.dynamicBounds ≠ 0 then throw (.dynamicBounds mapping.dynamicBounds)
  if mapping.indexOperands ≠ 0 then throw (.indexOperands mapping.indexOperands)
  let _ ← mapping.grid.normalize

/-- The mapping as the log shows it. -/
def toText (mapping : GridMapping) : String :=
  "GridMapping \x7b grid: " ++ gridText mapping.grid ++
    ", num_dynamic_grid_bounds: " ++ toString mapping.dynamicBounds ++
    ", num_index_operands: " ++ toString mapping.indexOperands ++ " \x7d"
where
  /-- The grid with its form and its numbers. -/
  gridText : Grid → String
    | .scalar size => "Scalar(" ++ toString size.toNat ++ ")"
    | .list sizes => "Dims(" ++ Text.bracketed (sizes.map fun size => toString size.toNat) ++ ")"

end GridMapping

end KernelLaunch
