import KernelLaunch.Compiler
import KernelLaunch.Descriptor.Assembly

/-!
# Call sites

A call site is the place where a program calls a kernel. Before the kernel is
compiled, the site is planned: its grid mapping is checked, its platform is
resolved and its tuning is taken out of its parameters, in this order.
-/

namespace KernelLaunch

/-- A call of a kernel with program type `P` on operands of type `V`. -/
structure CallSite (P V : Type) where
  /-- The program of the kernel. -/
  program : P
  /-- The operands of the call. -/
  operands : List V
  /-- The shapes of the operand arrays at the call. -/
  operandShapes : List Shape
  /-- The shapes of the result arrays at the call. -/
  resultShapes : List Shape
  /-- The shapes of the kernel's inputs. -/
  inShapes : List Shape
  /-- The shapes of the kernel's outputs. -/
  outShapes : List Shape
  /-- The kernel is interpreted instead of compiled. -/
  interpret : Bool
  /-- The launch is being debugged. -/
  debug : Bool
  /-- The inputs and the outputs they share their memory with. -/
  aliases : List (Nat × Nat)
  /-- The declared grid. -/
  mapping : GridMapping
  /-- The name of the kernel. -/
  name : String
  /-- The compiler parameters. -/
  params : Params
  /-- The platforms that are active at the call. -/
  platforms : List String
  /-- The platforms that are active in the module around it. -/
  modulePlatforms : List String
  deriving DecidableEq

/-- What is settled about a launch before its kernel is compiled. -/
structure Plan where
  /-- The platform to compile for. -/
  platform : Platform
  /-- The tuning of the launch. -/
  tuning : Tuning
  /-- The back-end parameters that are left over. -/
  params : Params
  deriving DecidableEq

namespace CallSite

variable {P V : Type}

/-- The plan of a site, or the first cause why it has none. -/
def plan (site : CallSite P V) : Except LoweringError Plan := do
  site.mapping.check
  let platform ← Platform.resolve site.platforms site.modulePlatforms
  let (tuning, params) ← site.params.splitTuning platform
  return { platform, tuning, params }

/-- What the compiler is asked for a planned site. -/
def request (site : CallSite P V) (plan : Plan) : Request P where
  program := site.program
  shapes := site.inShapes ++ site.outShapes
  mapping := site.mapping
  name := site.name
  platform := plan.platform

/-- What the call of a planned and compiled site is assembled from. -/
def assembly (site : CallSite P V) (plan : Plan) (compiled : Compiled) : Assembly V where
  name := site.name
  module := compiled.module
  grid := compiled.grid
  tuning := plan.tuning
  params := plan.params
  debug := site.debug
  operands := site.operands
  outShapes := site.outShapes
  operandShapes := site.operandShapes
  resultShapes := site.resultShapes
  aliases := site.aliases

end CallSite

end KernelLaunch
