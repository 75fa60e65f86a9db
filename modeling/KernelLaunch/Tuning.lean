/-!
# Tuning of a launch

A kernel is compiled for a number of warps and a number of pipeline stages.
-/

namespace KernelLaunch

/-- The numbers a kernel is tuned by. -/
structure Tuning where
  /-- The number of warps of each program. -/
  numWarps : Int32
  /-- The number of stages of the software pipeline. -/
  numStages : Int32
  deriving DecidableEq

end KernelLaunch
