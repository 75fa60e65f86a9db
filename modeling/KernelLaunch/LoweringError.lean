import KernelLaunch.Grid.Basic
import KernelLaunch.Param.Text
import KernelLaunch.Tensor.ElementType

/-!
# Causes of a failed lowering

A lowering that fails tells one cause. The causes fall into seven kinds, and
each has a message that shows the data at fault.
-/

namespace KernelLaunch

/-- The kinds of causes. -/
inductive ErrorKind where
  | invalidGrid
  | unsupportedFeature
  | loweringFailure
  | configurationAmbiguity
  | platformNotSupported
  | invalidParams
  | typeNotSupported
  deriving DecidableEq

/-- The name of a kind. -/
def ErrorKind.name : ErrorKind → String
  | .invalidGrid => "InvalidGrid"
  | .unsupportedFeature => "UnsupportedFeature"
  | .loweringFailure => "LoweringFailure"
  | .configurationAmbiguity => "ConfigurationAmbiguity"
  | .platformNotSupported => "PlatformNotSupport"
  | .invalidParams => "InvalidParams"
  | .typeNotSupported => "TypeNotSupport"

/-- What a parameter has to be. -/
inductive ParamSort where
  | table
  | integer
  | text
  deriving DecidableEq

/-- The sort in words. -/
def ParamSort.phrase : ParamSort → String
  | .table => "a map"
  | .integer => "an integer"
  | .text => "a string"

/-- The cause of a failed lowering. -/
inductive LoweringError where
  /-- A grid has more axes than a launch. -/
  | tooManyAxes (sizes : List UInt32)
  /-- A grid is empty along an axis, the first such axis being told. -/
  | emptyAxis (index : Nat)
  /-- A grid is too long along an axis for a signed 32-bit word. -/
  | axisOverflow (axis : Axis) (size : UInt32)
  /-- Some grid bounds are known only at run time. -/
  | dynamicBounds (count : Nat)
  /-- Some operands are indices for prefetching. -/
  | indexOperands (count : Nat)
  /-- No platform is active. -/
  | noPlatform
  /-- More than one platform is active. -/
  | severalPlatforms (names : List String)
  /-- A platform has an unknown name. -/
  | unknownPlatform (name : String)
  /-- A parameter is of the wrong sort. -/
  | paramSort (key : String) (expected : ParamSort) (found : Param)
  /-- An integer parameter is not a positive signed 32-bit word. -/
  | paramRange (key : String) (value : Int64)
  /-- An element type has no tensor element. -/
  | noTensorElement (type : ElementType)
  /-- A kernel module could not be written out. -/
  | unwritableModule (fault : String)
  /-- The kernel compiler reports an error of its own. -/
  | reported (kind : ErrorKind) (message : String)
  deriving DecidableEq

namespace LoweringError

/-- The kind of a cause. -/
def kind : LoweringError → ErrorKind
  | .tooManyAxes _ | .emptyAxis _ | .axisOverflow _ _ => .invalidGrid
  | .dynamicBounds _ | .indexOperands _ => .unsupportedFeature
  | .noPlatform | .severalPlatforms _ => .configurationAmbiguity
  | .unknownPlatform _ => .platformNotSupported
  | .paramSort _ _ _ | .paramRange _ _ => .invalidParams
  | .noTensorElement _ => .typeNotSupported
  | .unwritableModule _ => .loweringFailure
  | .reported kind _ => kind

/-- The message of a cause. -/
def message : LoweringError → String
  | .tooManyAxes sizes =>
    "grid must have three or fewer dimensions, got " ++
      Text.bracketed (sizes.map fun size => toString size.toNat)
  | .emptyAxis index => "grid[" ++ toString index ++ "] = 0, must be positive"
  | .axisOverflow axis size =>
    "grid_" ++ axis.letter ++ " = " ++ toString size.toNat ++ " overflows i32"
  | .dynamicBounds count =>
    "dynamic grid bounds not supported (" ++ toString count ++ " requested)"
  | .indexOperands count =>
    "scalar prefetch not supported (" ++ toString count ++ " index operands)"
  | .noPlatform => "no active lowering platform"
  | .severalPlatforms names =>
    toString names.length ++ " active lowering platforms: " ++
      Text.bracketed (names.map Text.quote)
  | .unknownPlatform name => "unknown platform \"" ++ name ++ "\""
  | .paramSort key expected found =>
    "`" ++ key ++ "` must be " ++ expected.phrase ++ ", got " ++ found.toText
  | .paramRange key value =>
    "`" ++ key ++ "` = " ++ toString value.toInt ++ ", positive i32 expected"
  | .noTensorElement type => type.toText ++ " has no tensor element type"
  | .unwritableModule fault => "failed to write module bytecode: " ++ fault
  | .reported _ message => message

/-- A cause as it is shown, its kind before its message. -/
def display (error : LoweringError) : String :=
  error.kind.name ++ ": " ++ error.message

end LoweringError

end KernelLaunch
