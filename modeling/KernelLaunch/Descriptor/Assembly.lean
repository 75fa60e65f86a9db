import KernelLaunch.Compiler
import KernelLaunch.Descriptor.Call
import KernelLaunch.Param.Tuning

/-!
# Assembling a call

A call descriptor is assembled from a compiled kernel, its tuning and the arrays
of the call site. The grid is judged first, then the result types, then the
bytecode and last the metadata; the first of them that fails is the cause.
-/

namespace KernelLaunch

/-- All that a call is assembled from. -/
structure Assembly (V : Type) where
  /-- The name of the kernel. -/
  name : String
  /-- The compiled kernel. -/
  module : KernelModule
  /-- The grid the compiler asks for. -/
  grid : Grid
  /-- The tuning the kernel is launched with. -/
  tuning : Tuning
  /-- The back-end parameters that the tuning was taken out of. -/
  params : Params
  /-- The launch is being debugged. -/
  debug : Bool
  /-- The operands. -/
  operands : List V
  /-- The shapes of the kernel's outputs. -/
  outShapes : List Shape
  /-- The shapes of the operands at the call site. -/
  operandShapes : List Shape
  /-- The shapes of the results at the call site. -/
  resultShapes : List Shape
  /-- The inputs and the outputs they share their memory with. -/
  aliases : List (Nat × Nat)
  deriving DecidableEq

namespace Assembly

variable {V : Type}

/-- The attributes of the launch in order. Metadata make an entry of their own
if there are any. -/
def attributes (assembly : Assembly V) (extent : Extent Int32) (bytecode : List UInt8)
    (metadata : Option String) : List (String × Attribute) :=
  [("name", .text assembly.name),
    ("ir", .bytes bytecode),
    (Params.numStagesKey, .word assembly.tuning.numStages),
    (Params.numWarpsKey, .word assembly.tuning.numWarps),
    ("grid_x", .word extent.x),
    ("grid_y", .word extent.y),
    ("grid_z", .word extent.z),
    ("debug", .bool assembly.debug)] ++
  metadata.toList.map fun text => (Params.metadataKey, .text text)

/-- The call, or the first cause why there is none. -/
def assemble (assembly : Assembly V) : Except LoweringError (CallDescriptor V) := do
  let sizes ← assembly.grid.normalize
  let extent ← sizes.words
  let resultTypes ← assembly.outShapes.mapM TensorType.ofShape
  let bytecode ← assembly.module.emission.bytes
  let metadata ← assembly.params.metadata
  return {
    resultTypes
    operands := assembly.operands
    config := .ofList (assembly.attributes extent bytecode metadata)
    operandLayouts := Layout.ofShapes assembly.operandShapes
    resultLayouts := Layout.ofShapes assembly.resultShapes
    aliases := Keyed.ofList assembly.aliases }

end Assembly

end KernelLaunch
