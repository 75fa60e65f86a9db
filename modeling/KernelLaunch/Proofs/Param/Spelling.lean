import KernelLaunch.Param.Text
import KernelLaunch.Proofs.Text.Spelling

/-!
# The text of a parameter

A value is shown with the name of its kind before it and a bracket behind it, and a table
shows its bindings in braces. Neither the quotes of a text nor the brackets around a value
can be mistaken for what they enclose, at any depth, however the texts inside are written.
So the text of a value determines the value, and the text of a table determines the table.
-/

namespace KernelLaunch

namespace Param

mutual

/-- The ways to write a value. -/
inductive Spelling : Param → List Char → Prop
  | int (value : Int64) :
      Spelling (.int value) ("Int(".toList ++ (toString value.toInt).toList ++ ")".toList)
  | bool (value : Bool) :
      Spelling (.bool value) ("Bool(".toList ++ (toString value).toList ++ ")".toList)
  | text {value : String} {quoted : List Char} : Text.QuoteSpelling value quoted →
      Spelling (.text value) ("Str(".toList ++ quoted ++ ")".toList)
  | table {bindings : List (String × Param)} {inner : List Char} :
      BindingsSpelling bindings inner →
      Spelling (.table bindings)
        ("Map(CompilerParams(\x7b".toList ++ inner ++ '\x7d' :: "))".toList)

/-- The ways to write the bindings of a table, with a comma and a space between
neighbours. -/
inductive BindingsSpelling : List (String × Param) → List Char → Prop
  | nil : BindingsSpelling [] []
  | last {key : String} {value : Param} {quoted written : List Char} :
      Text.QuoteSpelling key quoted → Spelling value written →
      BindingsSpelling [(key, value)] (quoted ++ ": ".toList ++ written)
  | cons {key : String} {value : Param} {next : String × Param} {rest : List (String × Param)}
      {quoted written behind : List Char} :
      Text.QuoteSpelling key quoted → Spelling value written →
      BindingsSpelling (next :: rest) behind →
      BindingsSpelling ((key, value) :: next :: rest)
        (quoted ++ ": ".toList ++ written ++ ", ".toList ++ behind)

end

mutual

/-- The text of a value is one of the ways to write it. -/
theorem spelling_toText : (value : Param) → Spelling value value.toText.toList
  | .int value => by
    simp only [toText_int, String.toList_append]
    exact .int value
  | .bool value => by
    simp only [toText_bool, String.toList_append]
    exact .bool value
  | .text value => by
    simp only [toText_text, String.toList_append]
    exact .text (Text.quoteSpelling_quote value)
  | .table bindings => by
    simp only [toText_table, String.toList_append]
    exact .table (spelling_bindingsText bindings)

/-- So is the text of the bindings of a table. -/
theorem spelling_bindingsText :
    (bindings : List (String × Param)) → BindingsSpelling bindings (bindingsText bindings).toList
  | [] => .nil
  | [(key, value)] => by
    simp only [bindingsText_singleton, String.toList_append]
    exact .last (Text.quoteSpelling_quote key) (spelling_toText value)
  | (key, value) :: next :: rest => by
    simp only [bindingsText_cons, String.toList_append]
    exact .cons (Text.quoteSpelling_quote key) (spelling_toText value)
      (spelling_bindingsText (next :: rest))

end

/-- A truth value and what follows it can be read off. -/
theorem bool_append_inj {a b : Bool} {s t : List Char}
    (htext : (toString a).toList ++ s = (toString b).toList ++ t) : a = b ∧ s = t := by
  cases a <;> cases b
  · exact ⟨rfl, List.append_cancel_left htext⟩
  · exact absurd (List.cons.inj htext).1 (by decide)
  · exact absurd (List.cons.inj htext).1 (by decide)
  · exact ⟨rfl, List.append_cancel_left htext⟩

/-- Where there are bindings, the first character is not the closing brace. -/
theorem BindingsSpelling.append_ne_brace {entry : String × Param}
    {rest : List (String × Param)} {w : List Char}
    (hbindings : BindingsSpelling (entry :: rest) w) (s t : List Char) : w ++ s ≠ '\x7d' :: t := by
  cases hbindings with
  | last hkey _ | cons hkey _ _ =>
    obtain ⟨_, _, rfl⟩ := hkey
    simp

/-- A binding and what follows it can be read off, if its value can. -/
theorem binding_append_inj {key key' : String} {value value' : Param}
    {quoted quoted' written written' s t : List Char} (hkey : Text.QuoteSpelling key quoted)
    (hkey' : Text.QuoteSpelling key' quoted')
    (hvalue : written ++ s = written' ++ t → value = value' ∧ s = t)
    (htext : quoted ++ (": ".toList ++ (written ++ s)) =
      quoted' ++ (": ".toList ++ (written' ++ t))) :
    key = key' ∧ value = value' ∧ s = t := by
  obtain ⟨rfl, hbehind⟩ := hkey.append_inj hkey' htext
  obtain ⟨rfl, hrest⟩ := hvalue (List.append_cancel_left hbehind)
  exact ⟨rfl, rfl, hrest⟩

mutual

/-- A value and what follows it can be read off. -/
theorem Spelling.append_inj {a b : Param} {v w s t : List Char} (ha : Spelling a v)
    (hb : Spelling b w) (htext : v ++ s = w ++ t) : a = b ∧ s = t := by
  cases ha with
  | int value =>
    cases hb with
    | int value' =>
      simp only [List.append_assoc] at htext
      have hparen : ∀ rest, Text.NoDigitAhead (")".toList ++ rest) :=
        fun rest => Text.noDigitAhead_cons (by decide) rest
      obtain ⟨hvalue, hrest⟩ :=
        Text.integer_append_inj (hparen s) (hparen t) (List.append_cancel_left htext)
      exact ⟨congrArg Param.int (Int64.toInt_inj.mp hvalue), List.append_cancel_left hrest⟩
    | bool | text | table => simp at htext
  | bool value =>
    cases hb with
    | bool value' =>
      simp only [List.append_assoc] at htext
      obtain ⟨rfl, hrest⟩ := bool_append_inj (List.append_cancel_left htext)
      exact ⟨rfl, List.append_cancel_left hrest⟩
    | int | text | table => simp at htext
  | text hquoted =>
    cases hb with
    | text hquoted' =>
      simp only [List.append_assoc] at htext
      obtain ⟨rfl, hrest⟩ := hquoted.append_inj hquoted' (List.append_cancel_left htext)
      exact ⟨rfl, List.append_cancel_left hrest⟩
    | int | bool | table => simp at htext
  | table hinner =>
    cases hb with
    | table hinner' =>
      simp only [List.append_assoc, List.cons_append] at htext
      obtain ⟨rfl, hrest⟩ := hinner.append_inj hinner' (List.append_cancel_left htext)
      exact ⟨rfl, List.append_cancel_left hrest⟩
    | int | bool | text => simp at htext

/-- Bindings up to the closing brace, and what stands behind the brace, can be read off. -/
theorem BindingsSpelling.append_inj {a b : List (String × Param)} {v w s t : List Char}
    (ha : BindingsSpelling a v) (hb : BindingsSpelling b w)
    (htext : v ++ '\x7d' :: s = w ++ '\x7d' :: t) : a = b ∧ s = t := by
  cases ha with
  | nil =>
    cases hb with
    | nil => exact ⟨rfl, (List.cons.inj htext).2⟩
    | last hkey hvalue =>
      exact absurd htext.symm ((BindingsSpelling.last hkey hvalue).append_ne_brace _ _)
    | cons hkey hvalue hrest =>
      exact absurd htext.symm ((BindingsSpelling.cons hkey hvalue hrest).append_ne_brace _ _)
  | last hkey hvalue =>
    cases hb with
    | nil => exact absurd htext ((BindingsSpelling.last hkey hvalue).append_ne_brace _ _)
    | last hkey' hvalue' =>
      simp only [List.append_assoc] at htext
      obtain ⟨rfl, rfl, hrest⟩ :=
        binding_append_inj hkey hkey' (hvalue.append_inj hvalue') htext
      exact ⟨rfl, (List.cons.inj hrest).2⟩
    | cons hkey' hvalue' _ =>
      -- A brace is no comma.
      simp only [List.append_assoc] at htext
      obtain ⟨_, _, hrest⟩ := binding_append_inj hkey hkey' (hvalue.append_inj hvalue') htext
      simp at hrest
  | cons hkey hvalue hrest =>
    cases hb with
    | nil => exact absurd htext ((BindingsSpelling.cons hkey hvalue hrest).append_ne_brace _ _)
    | last hkey' hvalue' =>
      simp only [List.append_assoc] at htext
      obtain ⟨_, _, hrest⟩ := binding_append_inj hkey hkey' (hvalue.append_inj hvalue') htext
      simp at hrest
    | cons hkey' hvalue' hrest' =>
      simp only [List.append_assoc] at htext
      obtain ⟨rfl, rfl, hbehind⟩ :=
        binding_append_inj hkey hkey' (hvalue.append_inj hvalue') htext
      obtain ⟨hbindings, hend⟩ := hrest.append_inj hrest' (List.append_cancel_left hbehind)
      exact ⟨congrArg _ hbindings, hend⟩

end

/-- Values that can be written in the same way are equal. -/
theorem Spelling.inj {a b : Param} {written : List Char} (ha : Spelling a written)
    (hb : Spelling b written) : a = b :=
  (ha.append_inj hb (rfl : written ++ [] = written ++ [])).1

end Param

namespace Params

/-- The ways to write a table that stands alone. -/
def Spelling (params : Params) (written : List Char) : Prop :=
  ∃ inner, Param.BindingsSpelling params.bindings inner ∧
    written = "CompilerParams(\x7b".toList ++ inner ++ '\x7d' :: ")".toList

/-- The text of a table is one of the ways to write it. -/
theorem spelling_toText (params : Params) : params.Spelling params.toText.toList := by
  have htext : params.toText = "CompilerParams(\x7b" ++ bindingsText params.bindings ++ "\x7d)" :=
    rfl
  refine ⟨_, Param.spelling_bindingsText params.bindings, ?_⟩
  rw [htext, String.toList_append, String.toList_append]
  rfl

/-- Tables that can be written in the same way are equal. -/
theorem Spelling.inj {a b : Params} {written : List Char} (ha : a.Spelling written)
    (hb : b.Spelling written) : a = b := by
  obtain ⟨inner, hinner, rfl⟩ := ha
  obtain ⟨inner', hinner', htext⟩ := hb
  simp only [List.append_assoc] at htext
  obtain ⟨hbindings, _⟩ := hinner.append_inj hinner' (List.append_cancel_left htext)
  exact congrArg Params.mk hbindings

/-- Tables with the same text are equal. -/
theorem toText_injective {a b : Params} (htext : a.toText = b.toText) : a = b :=
  a.spelling_toText.inj (htext ▸ b.spelling_toText)

end Params

end KernelLaunch
