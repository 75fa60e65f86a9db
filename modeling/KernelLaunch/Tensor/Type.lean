import KernelLaunch.LoweringError
import KernelLaunch.Tensor.Shape

/-!
# Tensor types

The results of a launch have tensor types, written like `tensor<128x64xf32>`:
the lengths from the outermost dimension on and then the element, each length
followed by a cross. Only thirteen element types can stand in a tensor.
-/

namespace KernelLaunch

/-- The element types that can stand in a tensor. -/
inductive TensorElement where
  | bool
  | i8
  | i16
  | i32
  | i64
  | u8
  | u16
  | u32
  | u64
  | f16
  | bf16
  | f32
  | f64
  deriving DecidableEq

namespace TensorElement

/-- Every tensor element. -/
def all : List TensorElement :=
  [.bool, .i8, .i16, .i32, .i64, .u8, .u16, .u32, .u64, .f16, .bf16, .f32, .f64]

/-- The element type of a tensor element. -/
def type : TensorElement → ElementType
  | .bool => .bool
  | .i8 => .signed 8
  | .i16 => .signed 16
  | .i32 => .signed 32
  | .i64 => .signed 64
  | .u8 => .unsigned 8
  | .u16 => .unsigned 16
  | .u32 => .unsigned 32
  | .u64 => .unsigned 64
  | .f16 => .real 5 10
  | .bf16 => .real 8 7
  | .f32 => .real 8 23
  | .f64 => .real 11 52

/-- The name of a tensor element. A truth value is an integer of one bit. -/
def name : TensorElement → String
  | .bool => "i1"
  | .i8 => "i8"
  | .i16 => "i16"
  | .i32 => "i32"
  | .i64 => "i64"
  | .u8 => "ui8"
  | .u16 => "ui16"
  | .u32 => "ui32"
  | .u64 => "ui64"
  | .f16 => "f16"
  | .bf16 => "bf16"
  | .f32 => "f32"
  | .f64 => "f64"

/-- The tensor element of an element type, if it has one. -/
def ofType? (type : ElementType) : Option TensorElement :=
  all.find? fun element => element.type = type

/-- No element is left out of the list. -/
theorem mem_all (element : TensorElement) : element ∈ all := by
  cases element <;> decide

/-- Different tensor elements have different types. -/
theorem type_injective {a b : TensorElement} (htype : a.type = b.type) : a = b := by
  revert htype
  cases a <;> cases b <;> decide

/-- The types of tensor elements are recognised, and no others. -/
theorem ofType?_eq_some_iff {type : ElementType} {element : TensorElement} :
    ofType? type = some element ↔ element.type = type := by
  constructor
  · intro hfound
    simpa using List.find?_some hfound
  · intro htype
    cases hfound : ofType? type with
    | none =>
      have hnone := List.find?_eq_none.mp hfound element (mem_all element)
      simp [htype] at hnone
    | some other =>
      have hother : other.type = type := by simpa using List.find?_some hfound
      rw [type_injective (hother.trans htype.symm)]

end TensorElement

/-- The type of a tensor. -/
structure TensorType where
  /-- The entries. -/
  element : TensorElement
  /-- The length along each dimension, outermost first. -/
  lengths : List Nat
  deriving DecidableEq

namespace TensorType

/-- The tensor type of an array, which exists if its element type can stand in
a tensor, whatever the lengths are. -/
def ofShape (shape : Shape) : Except LoweringError TensorType :=
  match TensorElement.ofType? shape.element with
  | some element => .ok ⟨element, shape.lengths⟩
  | none => .error (.noTensorElement shape.element)

/-- The lengths, each followed by a cross, and the name of the element. -/
def body (name : String) : List Nat → String
  | [] => name
  | length :: rest => toString length ++ "x" ++ body name rest

/-- The type as it is written. -/
def toText (type : TensorType) : String :=
  "tensor<" ++ body type.element.name type.lengths ++ ">"

/-- A tensor type keeps the element type and the lengths of its array. -/
theorem ofShape_eq_ok_iff {shape : Shape} {type : TensorType} :
    ofShape shape = .ok type ↔ shape = ⟨type.element.type, type.lengths⟩ := by
  obtain ⟨code, lengths⟩ := shape
  obtain ⟨element, lengths'⟩ := type
  cases hfound : TensorElement.ofType? code with
  | none =>
    simp only [ofShape, hfound, reduceCtorEq, false_iff]
    intro hshape
    injection hshape with hcode
    rw [TensorElement.ofType?_eq_some_iff.mpr hcode.symm] at hfound
    exact absurd hfound (by simp)
  | some found =>
    have hcode := TensorElement.ofType?_eq_some_iff.mp hfound
    simp only [ofShape, hfound, Except.ok.injEq, TensorType.mk.injEq, Shape.mk.injEq]
    constructor
    · rintro ⟨rfl, rfl⟩
      exact ⟨hcode.symm, rfl⟩
    · rintro ⟨rfl, rfl⟩
      exact ⟨TensorElement.type_injective hcode, rfl⟩

end TensorType

end KernelLaunch
