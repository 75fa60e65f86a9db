import KernelLaunch.Proofs.Text.Numeral
import KernelLaunch.Text.Quoted
import Mathlib.Data.List.Basic

/-!
# Reading quoted texts

Which characters a quoted text shows as themselves and which by their code points is a
matter of tables that grow with every version of Unicode. This file leaves the choice
open: a spelling of a text may take either way for every character that has no letter
after a backslash. Whatever the choice, a text and what stands behind its closing quote
can be read off.
-/

namespace KernelLaunch.Text

/-- What stands before the first delimiter in a text, and what stands behind it, can be
read off. -/
theorem append_delimiter_inj {delimiter : Char} {a b s t : List Char} (ha : delimiter ∉ a)
    (hb : delimiter ∉ b) (htext : a ++ delimiter :: s = b ++ delimiter :: t) : a = b ∧ s = t := by
  induction a generalizing b with
  | nil =>
    cases b with
    | nil => exact ⟨rfl, (List.cons.inj htext).2⟩
    | cons c rest => exact absurd (by simp [(List.cons.inj htext).1]) hb
  | cons c rest ih =>
    cases b with
    | nil => exact absurd (by simp [(List.cons.inj htext).1]) ha
    | cons d rest' =>
      obtain ⟨rfl, hrest⟩ := List.cons.inj htext
      obtain ⟨rfl, hbehind⟩ := ih (List.not_mem_of_not_mem_cons ha)
        (List.not_mem_of_not_mem_cons hb) hrest
      exact ⟨rfl, hbehind⟩

/-- The ways to write a character between quotes. A character that has a letter is
always written with it. -/
inductive CharSpelling (c : Char) : List Char → Prop
  /-- A backslash and the letter of the character. -/
  | letter {letter : Char} : escapeLetter? c = some letter → CharSpelling c ['\\', letter]
  /-- The code point in hexadecimal between braces. -/
  | codePoint : escapeLetter? c = none →
      CharSpelling c ('\\' :: 'u' :: '\x7b' :: (Nat.toDigits 16 c.toNat ++ ['\x7d']))
  /-- The character itself. -/
  | plain : escapeLetter? c = none → CharSpelling c [c]

/-- The ways to write characters between quotes, one after another. -/
inductive CharsSpelling : List Char → List Char → Prop
  | nil : CharsSpelling [] []
  | cons {c : Char} {cs v w : List Char} :
      CharSpelling c v → CharsSpelling cs w → CharsSpelling (c :: cs) (v ++ w)

/-- The ways to write a text with its quotes. -/
def QuoteSpelling (text : String) (written : List Char) : Prop :=
  ∃ inner, CharsSpelling text.toList inner ∧ written = '"' :: (inner ++ ['"'])

/-- The characters that have a letter, with their letters. -/
def escapeLetters : List (Char × Char) :=
  [('\x00', '0'), ('\t', 't'), ('\n', 'n'), ('\r', 'r'), ('"', '"'), ('\\', '\\')]

/-- No other characters have a letter. -/
theorem mem_escapeLetters {c letter : Char} (hletter : escapeLetter? c = some letter) :
    (c, letter) ∈ escapeLetters := by
  unfold escapeLetter? at hletter
  split at hletter <;> cases hletter <;> decide

/-- Different characters have different letters. -/
theorem escapeLetter?_injective {c d letter : Char} (hc : escapeLetter? c = some letter)
    (hd : escapeLetter? d = some letter) : c = d := by
  have hall : ∀ a ∈ escapeLetters, ∀ b ∈ escapeLetters, a.2 = b.2 → a.1 = b.1 := by decide
  exact hall _ (mem_escapeLetters hc) _ (mem_escapeLetters hd) rfl

/-- No letter could announce a code point. -/
theorem escapeLetter?_ne_some_u (c : Char) : escapeLetter? c ≠ some 'u' := by
  intro hletter
  have hall : ∀ a ∈ escapeLetters, a.2 ≠ 'u' := by decide
  exact hall _ (mem_escapeLetters hletter) rfl

/-- The quote has a letter. -/
theorem ne_quote_of_escapeLetter? {c : Char} (hnone : escapeLetter? c = none) : c ≠ '"' := by
  rintro rfl
  exact absurd hnone (by decide)

/-- The backslash has a letter. -/
theorem ne_backslash_of_escapeLetter? {c : Char} (hnone : escapeLetter? c = none) :
    c ≠ '\\' := by
  rintro rfl
  exact absurd hnone (by decide)

/-- No character is written with a quote first. -/
theorem CharSpelling.append_ne_quote {c : Char} {w : List Char} (hspelling : CharSpelling c w)
    (s t : List Char) : w ++ s ≠ '"' :: t := by
  cases hspelling with
  | letter _ | codePoint _ => simp
  | plain hnone => simp [ne_quote_of_escapeLetter? hnone]

/-- A code point, and what stands behind its brace, can be read off. -/
theorem codePoint_append_inj {c d : Char} {s t : List Char}
    (htext : Nat.toDigits 16 c.toNat ++ '\x7d' :: s = Nat.toDigits 16 d.toNat ++ '\x7d' :: t) :
    c = d ∧ s = t := by
  have hbrace : ∀ n : Nat, '\x7d' ∉ Nat.toDigits 16 n := by
    intro n hmem
    obtain ⟨digit, hdigit⟩ := exists_digit_of_mem_toDigits (by decide) hmem
    exact Nat.digitChar_ne '\x7d' (by decide) hdigit.symm
  obtain ⟨hnumeral, hrest⟩ := append_delimiter_inj (hbrace _) (hbrace _) htext
  exact ⟨Char.toNat_inj.mp (hexadecimal_injective hnumeral), hrest⟩

/-- A character and what follows it can be read off. -/
theorem CharSpelling.append_inj {c d : Char} {v w s t : List Char} (hc : CharSpelling c v)
    (hd : CharSpelling d w) (htext : v ++ s = w ++ t) : c = d ∧ s = t := by
  cases hc with
  | letter hletter =>
    cases hd with
    | letter hletter' =>
      obtain ⟨rfl, hrest⟩ := List.cons.inj (List.cons.inj htext).2
      exact ⟨escapeLetter?_injective hletter hletter', hrest⟩
    | codePoint _ =>
      obtain ⟨rfl, _⟩ := List.cons.inj (List.cons.inj htext).2
      exact absurd hletter (escapeLetter?_ne_some_u c)
    | plain hnone => exact absurd (List.cons.inj htext).1.symm (ne_backslash_of_escapeLetter? hnone)
  | codePoint _ =>
    cases hd with
    | letter hletter =>
      obtain ⟨rfl, _⟩ := List.cons.inj (List.cons.inj htext).2
      exact absurd hletter (escapeLetter?_ne_some_u d)
    | codePoint _ =>
      simp only [List.cons_append, List.append_assoc, List.nil_append, List.cons.injEq,
        true_and] at htext
      exact codePoint_append_inj htext
    | plain hnone => exact absurd (List.cons.inj htext).1.symm (ne_backslash_of_escapeLetter? hnone)
  | plain hnone =>
    cases hd with
    | letter _ | codePoint _ =>
      exact absurd (List.cons.inj htext).1 (ne_backslash_of_escapeLetter? hnone)
    | plain _ => exact List.cons.inj htext

/-- Characters up to a quote, and what stands behind the quote, can be read off. -/
theorem CharsSpelling.append_inj {cs ds v w s t : List Char} (hcs : CharsSpelling cs v)
    (hds : CharsSpelling ds w) (htext : v ++ '"' :: s = w ++ '"' :: t) : cs = ds ∧ s = t := by
  induction hcs generalizing ds w with
  | nil =>
    cases hds with
    | nil => exact ⟨rfl, (List.cons.inj htext).2⟩
    | cons hd _ =>
      rw [List.append_assoc] at htext
      exact absurd htext.symm (hd.append_ne_quote _ _)
  | cons hc _ ih =>
    cases hds with
    | nil =>
      rw [List.append_assoc] at htext
      exact absurd htext (hc.append_ne_quote _ _)
    | cons hd hds =>
      rw [List.append_assoc, List.append_assoc] at htext
      obtain ⟨rfl, hbehind⟩ := hc.append_inj hd htext
      obtain ⟨rfl, hrest⟩ := ih hds hbehind
      exact ⟨rfl, hrest⟩

/-- A quoted text and what follows it can be read off. -/
theorem QuoteSpelling.append_inj {a b : String} {v w s t : List Char} (ha : QuoteSpelling a v)
    (hb : QuoteSpelling b w) (htext : v ++ s = w ++ t) : a = b ∧ s = t := by
  obtain ⟨inner, hinner, rfl⟩ := ha
  obtain ⟨inner', hinner', rfl⟩ := hb
  simp only [List.cons_append, List.append_assoc, List.nil_append, List.cons.injEq,
    true_and] at htext
  obtain ⟨hchars, hrest⟩ := hinner.append_inj hinner' htext
  exact ⟨String.toList_inj.mp hchars, hrest⟩

/-- A character is written in one of these ways. -/
theorem charSpelling_escapeChar (c : Char) : CharSpelling c (escapeChar c) := by
  unfold escapeChar
  cases hletter : escapeLetter? c with
  | some letter => exact .letter hletter
  | none =>
    by_cases hcode : needsCodePoint c
    · rw [if_pos hcode]
      exact .codePoint hletter
    · rw [if_neg hcode]
      exact .plain hletter

/-- So are the characters of a text. -/
theorem charsSpelling_escapeChars (cs : List Char) : CharsSpelling cs (escapeChars cs) := by
  induction cs with
  | nil => exact .nil
  | cons c rest ih => exact .cons (charSpelling_escapeChar c) ih

/-- A quoted text is written in one of these ways. -/
theorem quoteSpelling_quote (text : String) : QuoteSpelling text (quote text).toList :=
  ⟨_, charsSpelling_escapeChars text.toList, toList_quote text⟩

end KernelLaunch.Text
