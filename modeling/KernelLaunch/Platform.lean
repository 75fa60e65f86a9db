import KernelLaunch.LoweringError
import KernelLaunch.Tuning

/-!
# Platforms

A kernel is compiled for one platform. The platforms that are active come as
lists of names, one with the call site and one with the module around it; they
have to leave exactly one name.
-/

namespace KernelLaunch

/-- The platforms a kernel can be compiled for. -/
inductive Platform where
  | cuda
  | rocm
  deriving DecidableEq

namespace Platform

/-- The name of a platform. -/
def name : Platform → String
  | .cuda => "cuda"
  | .rocm => "rocm"

/-- The tuning of a platform where a call site asks for none. On `rocm` there is
no software pipeline. -/
def defaults : Platform → Tuning
  | .cuda => ⟨4, 3⟩
  | .rocm => ⟨4, 1⟩

/-- The platform of a name, in which the case of ASCII letters is free. -/
def ofName (name : String) : Except LoweringError Platform :=
  if name.toLower = Platform.cuda.name then .ok .cuda
  else if name.toLower = Platform.rocm.name then .ok .rocm
  else .error (.unknownPlatform name)

/-- The platform that two lists of active names leave. The list of the call
site counts unless it is empty, and then the list of the module. No name is
preferred to another, even if they are equal. -/
def resolve (site module : List String) : Except LoweringError Platform :=
  match if site.isEmpty then module else site with
  | [name] => ofName name
  | [] => .error .noPlatform
  | names => .error (.severalPlatforms names)

end Platform

end KernelLaunch
