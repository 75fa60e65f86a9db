import KernelLaunch.Descriptor.Call
import KernelLaunch.LoweringError

/-!
# Reports of a lowering

Lowering a call site yields an outcome and writes records to a log. The records
that describe the kernel are written only where the launch is being debugged.
-/

namespace KernelLaunch

/-- How much a reader of the log has to care. -/
inductive LogLevel where
  /-- What the lowering decides. -/
  | debug
  /-- What the kernel is. -/
  | info
  deriving DecidableEq

/-- The name of a level. -/
def LogLevel.name : LogLevel → String
  | .debug => "DEBUG"
  | .info => "INFO"

/-- A record of the log. -/
structure LogRecord where
  /-- The level of the record. -/
  level : LogLevel
  /-- The text of the record. -/
  text : String
  deriving DecidableEq

/-- What becomes of a call site. -/
inductive Lowered (V : Type) where
  /-- A call of the runtime. -/
  | custom (call : CallDescriptor V)
  /-- The operands, to be interpreted. -/
  | interpreted (operands : List V)
  deriving DecidableEq

/-- The call of the runtime, if there is one. -/
def Lowered.custom? {V : Type} : Lowered V → Option (CallDescriptor V)
  | .custom call => some call
  | .interpreted _ => none

/-- The outcome of a lowering and what it logs. -/
structure Report (V : Type) where
  /-- The result, or the cause of the failure. -/
  outcome : Except LoweringError (Lowered V)
  /-- The records in order, up to the failure if there is one. -/
  log : List LogRecord

end KernelLaunch
