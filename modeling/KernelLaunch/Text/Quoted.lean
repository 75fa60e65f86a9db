import KernelLaunch.Text.DefaultIgnorable
import KernelLaunch.Text.ExtendingMark
import KernelLaunch.Text.Unprintable

/-!
# Quoted text

A text inside a message stands between double quotes, on one line, with every
character visible. Six characters have a letter of their own after a backslash.
The other characters without a printed form, those shown as nothing, and those
that would become a part of the character before them are written by code point
between braces.
-/

namespace KernelLaunch.Text

/-- The letter that stands for a character after a backslash. -/
def escapeLetter? : Char → Option Char
  | '\x00' => some '0'
  | '\t' => some 't'
  | '\n' => some 'n'
  | '\r' => some 'r'
  | '"' => some '"'
  | '\\' => some '\\'
  | _ => none

/-- A character that is written by code point. -/
def needsCodePoint (c : Char) : Bool :=
  isExtendingMark c || isDefaultIgnorable c || isUnprintable c

/-- A character as it is written between the quotes. The code point is in
lower-case hexadecimal without padding. -/
def escapeChar (c : Char) : List Char :=
  match escapeLetter? c with
  | some letter => ['\\', letter]
  | none =>
    if needsCodePoint c then
      ['\\', 'u', '\x7b'] ++ Nat.toDigits 16 c.toNat ++ ['\x7d']
    else [c]

/-- The characters between the quotes. -/
def escapeChars (cs : List Char) : List Char :=
  cs.flatMap escapeChar

/-- A text between double quotes. -/
def quote (text : String) : String :=
  String.ofList ('"' :: escapeChars text.toList ++ ['"'])

/-- The items of a list with a comma and a space between neighbours. -/
def commaSeparated : List String → String
  | [] => ""
  | [item] => item
  | item :: next :: rest => item ++ ", " ++ commaSeparated (next :: rest)

/-- A list of items between square brackets. -/
def bracketed (items : List String) : String :=
  "[" ++ commaSeparated items ++ "]"

/-- Commas with their spaces stand between the items and nowhere else. -/
theorem commaSeparated_eq_intercalate (items : List String) :
    commaSeparated items = ", ".intercalate items := by
  induction items with
  | nil => rw [commaSeparated, String.intercalate_nil]
  | cons item rest ih =>
    cases rest with
    | nil => rw [commaSeparated, String.intercalate_singleton]
    | cons next rest => rw [commaSeparated, ih, String.intercalate_cons_cons]

/-- So a list is shown as its items, separated and put between brackets. -/
theorem bracketed_eq_intercalate (items : List String) :
    bracketed items = "[" ++ ", ".intercalate items ++ "]" := by
  rw [bracketed, commaSeparated_eq_intercalate]

/-- A quoted text begins and ends with the quote. -/
@[simp] theorem toList_quote (text : String) :
    (quote text).toList = '"' :: escapeChars text.toList ++ ['"'] := by
  simp [quote]

end KernelLaunch.Text
