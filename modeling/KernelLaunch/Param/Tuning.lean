import KernelLaunch.Param.Backend
import KernelLaunch.Platform

/-!
# Tuning parameters

The tuning of a launch is taken out of its back-end parameters. Each of the two
names is removed when it is read, before its value is judged; so a name that was
read is gone even where the extraction fails, and reading again yields the
defaults.
-/

namespace KernelLaunch.Params

/-- The name of the number of warps. -/
def numWarpsKey : String := "num_warps"

/-- The name of the number of stages. -/
def numStagesKey : String := "num_stages"

/-- A positive signed 32-bit word that a name is bound to, or a default. -/
def positiveWord (params : Params) (key : String) (default : Int32) :
    Except LoweringError Int32 :=
  match params.get? key with
  | none => .ok default
  | some (.int value) =>
    if 1 ≤ value.toInt ∧ value.toInt ≤ 2147483647 then .ok (Int32.ofInt value.toInt)
    else .error (.paramRange key value)
  | some found => .error (.paramSort key .integer found)

/-- Takes the tuning out of back-end parameters, the warps before the stages. -/
def takeTuning (defaults : Tuning) (params : Params) :
    Except LoweringError Tuning × Params :=
  match params.positiveWord numWarpsKey defaults.numWarps with
  | .error error => (.error error, params.erase numWarpsKey)
  | .ok numWarps =>
    let rest := params.erase numWarpsKey
    match rest.positiveWord numStagesKey defaults.numStages with
    | .error error => (.error error, rest.erase numStagesKey)
    | .ok numStages => (.ok ⟨numWarps, numStages⟩, rest.erase numStagesKey)

/-- Takes the tuning for a platform out of the back-end parameters, inside the
whole table. -/
def extractTuning (platform : Platform) (params : Params) :
    Except LoweringError Tuning × Params :=
  match params.onBackend (takeTuning platform.defaults) with
  | .error error => (.error error, params)
  | .ok extraction => extraction

/-- The tuning for a platform and the back-end parameters that are left over. -/
def splitTuning (platform : Platform) (params : Params) :
    Except LoweringError (Tuning × Params) :=
  match params.extractTuning platform with
  | (.error error, _) => .error error
  | (.ok tuning, rest) => .ok (tuning, rest.detachBackend)

/-- The tuning is taken out of the back-end parameters, where they are. -/
theorem extractTuning_of_backend {params back : Params} (hback : params.backend = .ok back)
    (platform : Platform) :
    params.extractTuning platform =
      ((takeTuning platform.defaults back).1,
        params.withBackend (takeTuning platform.defaults back).2) := by
  rw [extractTuning, onBackend_of_backend hback]

/-- Without back-end parameters, nothing is taken. -/
theorem extractTuning_of_error {params : Params} {error : LoweringError}
    (hback : params.backend = .error error) (platform : Platform) :
    params.extractTuning platform = (.error error, params) := by
  rw [extractTuning, onBackend_of_error hback]

end KernelLaunch.Params
