import KernelLaunch.Proofs.Text.Numeral
import KernelLaunch.Tensor.Type

/-!
# The text of a tensor type

A tensor type can be read back from its text: each length ends at its cross, and no
element has a name that starts like a length. So the text determines the type, and
the type determines the array that it was made for. Which arrays have a type is a
matter of their element types alone.
-/

namespace KernelLaunch

/-- The element types that can stand in a tensor: truth values, integers of 8 to 64
bits with and without a sign, and four kinds of reals. -/
def ElementType.inTensors : List ElementType :=
  [.bool, .signed 8, .signed 16, .signed 32, .signed 64, .unsigned 8, .unsigned 16, .unsigned 32,
    .unsigned 64, .real 5 10, .real 8 7, .real 8 23, .real 11 52]

/-- These are the types of the tensor elements. -/
theorem ElementType.mem_inTensors {type : ElementType} :
    type ∈ inTensors ↔ ∃ element : TensorElement, element.type = type := by
  have hall : inTensors = TensorElement.all.map TensorElement.type := rfl
  rw [hall, List.mem_map]
  exact exists_congr fun element => and_iff_right element.mem_all

namespace TensorElement

/-- No name of an element starts like a length. -/
theorem noDigitAhead_name (element : TensorElement) :
    Text.NoDigitAhead element.name.toList := by
  cases element <;> decide

/-- Different elements have different names. -/
theorem name_injective {a b : TensorElement} (hname : a.name = b.name) : a = b := by
  revert hname
  cases a <;> cases b <;> decide

end TensorElement

namespace TensorType

/-- A body is made of the lengths, each with a cross behind it, and of a name. -/
theorem body_eq_join (name : String) (lengths : List Nat) :
    body name lengths = String.join (lengths.map fun length => toString length ++ "x") ++ name := by
  induction lengths with
  | nil => simp [body]
  | cons length rest ih => simp [body, ih, String.append_assoc]

/-- The first length of a body is a numeral that ends at a cross. -/
theorem toList_body_cons (name : String) (length : Nat) (rest : List Nat) :
    (body name (length :: rest)).toList =
      Nat.toDigits 10 length ++ 'x' :: (body name rest).toList := by
  simp [body]

/-- The lengths and the element can be read off the body of a text. -/
theorem body_injective {a b : TensorElement} {s t : List Nat}
    (hbody : body a.name s = body b.name t) : a = b ∧ s = t := by
  induction s generalizing t with
  | nil =>
    cases t with
    | nil => exact ⟨TensorElement.name_injective hbody, rfl⟩
    | cons length rest =>
      have hname : a.name.toList = Nat.toDigits 10 length ++ 'x' :: (body b.name rest).toList := by
        rw [← toList_body_cons, ← hbody, body]
      exact absurd (hname ▸ a.noDigitAhead_name) (Text.not_noDigitAhead_numeral _ _)
  | cons length rest ih =>
    cases t with
    | nil =>
      have hname : b.name.toList = Nat.toDigits 10 length ++ 'x' :: (body a.name rest).toList := by
        rw [← toList_body_cons, hbody, body]
      exact absurd (hname ▸ b.noDigitAhead_name) (Text.not_noDigitAhead_numeral _ _)
    | cons length' rest' =>
      have hcross : ∀ following : List Char, Text.NoDigitAhead ('x' :: following) :=
        Text.noDigitAhead_cons (by decide)
      have htext := congrArg String.toList hbody
      rw [toList_body_cons, toList_body_cons] at htext
      obtain ⟨rfl, hbehind⟩ := Text.numeral_append_inj (hcross _) (hcross _) htext
      obtain ⟨rfl, rfl⟩ := ih (String.toList_inj.mp (List.cons.inj hbehind).2)
      exact ⟨rfl, rfl⟩

/-- Different types have different texts. -/
theorem toText_injective {s t : TensorType} (htext : s.toText = t.toText) : s = t := by
  have hlist := congrArg String.toList htext
  simp only [toText, String.toList_append, List.append_assoc] at hlist
  have hbody := List.append_cancel_right (List.append_cancel_left hlist)
  obtain ⟨element, lengths⟩ := s
  obtain ⟨rfl, rfl⟩ := body_injective (String.toList_inj.mp hbody)
  rfl

/-- An array has no tensor type exactly if its element type can stand in no tensor. -/
theorem ofShape_eq_error_iff {shape : Shape} {error : LoweringError} :
    ofShape shape = .error error ↔
      shape.element ∉ ElementType.inTensors ∧ error = .noTensorElement shape.element := by
  rw [ElementType.mem_inTensors]
  cases hfound : TensorElement.ofType? shape.element with
  | some element =>
    have htype : ∃ element : TensorElement, element.type = shape.element :=
      ⟨element, TensorElement.ofType?_eq_some_iff.mp hfound⟩
    simp [ofShape, hfound, htype]
  | none =>
    have hnone : ¬∃ element : TensorElement, element.type = shape.element := by
      rintro ⟨element, htype⟩
      rw [TensorElement.ofType?_eq_some_iff.mpr htype] at hfound
      exact absurd hfound (by simp)
    simp only [ofShape, hfound, hnone, not_false_eq_true, true_and, Except.error.injEq]
    exact eq_comm

/-- A tensor type is written as its lengths and its element. Two arrays that have tensor
types are the same if their types are, and their types are the same if they are written
the same. An array without a tensor type fails as such, whatever its lengths are. -/
theorem shape_determined_by_text :
    (∀ s : TensorType, s.toText =
      "tensor<" ++ (String.join (s.lengths.map fun length => toString length ++ "x") ++
        s.element.name) ++ ">") ∧
    (∀ (a b : Shape) (s t : TensorType), ofShape a = .ok s → ofShape b = .ok t →
      (s.toText = t.toText ↔ s = t) ∧ (s = t ↔ a = b)) ∧
    ∀ (shape : Shape) (error : LoweringError),
      (ofShape shape = .error error ↔
        shape.element ∉ ElementType.inTensors ∧ error = .noTensorElement shape.element) ∧
      (ofShape shape = .error error → error.kind = .typeNotSupported) := by
  refine ⟨fun s => ?_, fun a b s t ha hb => ⟨⟨toText_injective, congrArg toText⟩, ?_, ?_⟩,
    fun shape error => ⟨ofShape_eq_error_iff, fun herror => ?_⟩⟩
  · rw [toText, body_eq_join]
  · rintro rfl
    rw [ofShape_eq_ok_iff] at ha hb
    exact ha.trans hb.symm
  · rintro rfl
    exact Except.ok.inj (ha.symm.trans hb)
  · obtain ⟨_, rfl⟩ := ofShape_eq_error_iff.mp herror
    rfl

/-- The digits of two lengths may be the same while the cross between them is not at the
same place. -/
theorem shape_determined_by_cross :
    ofShape ⟨.unsigned 8, [1, 16]⟩ = .ok ⟨.u8, [1, 16]⟩ ∧
      ofShape ⟨.unsigned 8, [11, 6]⟩ = .ok ⟨.u8, [11, 6]⟩ ∧
      toText ⟨.u8, [1, 16]⟩ = "tensor<1x16xui8>" ∧
      toText ⟨.u8, [11, 6]⟩ ≠ "tensor<1x16xui8>" := by
  have ha : ofShape ⟨.unsigned 8, [1, 16]⟩ = .ok ⟨.u8, [1, 16]⟩ := rfl
  have hb : ofShape ⟨.unsigned 8, [11, 6]⟩ = .ok ⟨.u8, [11, 6]⟩ := rfl
  have htext : toText ⟨.u8, [1, 16]⟩ = "tensor<1x16xui8>" := rfl
  refine ⟨ha, hb, htext, ?_⟩
  rw [← htext, Ne, (shape_determined_by_text.2.1 _ _ _ _ hb ha).1]
  decide

end TensorType

end KernelLaunch
