import KernelLaunch.Descriptor.Config
import KernelLaunch.Tensor.Layout
import KernelLaunch.Tensor.Type

/-!
# Call descriptors

A call descriptor tells the runtime how to launch a compiled kernel: what it is
given, what it yields, how both lie in memory and how the launch is configured.
-/

namespace KernelLaunch

/-- A call of the runtime that launches a kernel on operands of type `V`. -/
structure CallDescriptor (V : Type) where
  /-- The types of the results. -/
  resultTypes : List TensorType
  /-- The operands, which are handed over as they are. -/
  operands : List V
  /-- The attributes of the launch. -/
  config : LaunchConfig
  /-- The layouts of the operands. -/
  operandLayouts : List Layout
  /-- The layouts of the results. -/
  resultLayouts : List Layout
  /-- The inputs that share their memory with an output, ascending. -/
  aliases : List (Nat × Nat)
  deriving DecidableEq

namespace CallDescriptor

/-- The entry point of the runtime that every call goes to. -/
def target : String := "__gpu$xla.gpu.triton"

/-- The version of the calling convention, which the runtime shares. -/
def apiVersion : Int32 := 4

end CallDescriptor

end KernelLaunch
