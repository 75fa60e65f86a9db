/-!
# Numerals inside a text

A numeral in a text ends where its digits end. So where no digit follows, the
number and the text behind it can both be read off. This goes for integers with a
sign as well; of hexadecimal numerals it is only shown that they differ for
different numbers and are made of digits.
-/

namespace KernelLaunch.Text

/-- The characters do not start with a digit. -/
def NoDigitAhead (rest : List Char) : Prop :=
  ∀ c ∈ rest.head?, c.isDigit = false

instance NoDigitAhead.decidable : (rest : List Char) → Decidable (NoDigitAhead rest)
  | [] => isTrue (by simp [NoDigitAhead])
  | c :: _ => decidable_of_iff (c.isDigit = false) (by simp [NoDigitAhead])

/-- No digit is ahead where another character is. -/
theorem noDigitAhead_cons {c : Char} (hc : c.isDigit = false) (rest : List Char) :
    NoDigitAhead (c :: rest) := by
  intro first hfirst
  obtain rfl : c = first := Option.some.inj hfirst
  exact hc

/-- A numeral starts with a digit. -/
theorem not_noDigitAhead_numeral (n : Nat) (rest : List Char) :
    ¬NoDigitAhead (Nat.toDigits 10 n ++ rest) := by
  intro hnone
  obtain ⟨first, others, hnumeral⟩ :=
    List.exists_cons_of_ne_nil (Nat.toDigits_ne_nil (n := n) (b := 10))
  have hdigit : first.isDigit = true :=
    Nat.isDigit_of_mem_toDigits (by decide) (by decide) (hnumeral ▸ List.mem_cons_self)
  have hfirst : first.isDigit = false := hnone first (by simp [hnumeral])
  exact absurd (hdigit.symm.trans hfirst) (by decide)

/-- A numeral is what the digits at the start of a text amount to. -/
theorem takeWhile_numeral_append (n : Nat) {rest : List Char} (hrest : NoDigitAhead rest) :
    (Nat.toDigits 10 n ++ rest).takeWhile Char.isDigit = Nat.toDigits 10 n := by
  have hdigits : ∀ c ∈ Nat.toDigits 10 n, c.isDigit = true := fun c hc =>
    Nat.isDigit_of_mem_toDigits (by decide) (by decide) hc
  have hstop : rest.takeWhile Char.isDigit = [] := by
    cases rest with
    | nil => rfl
    | cons c others => rw [List.takeWhile_cons_of_neg (by simp [hrest c rfl])]
  rw [List.takeWhile_append_of_pos hdigits, hstop, List.append_nil]

/-- A number and what follows its numeral can be read off a text. -/
theorem numeral_append_inj {m n : Nat} {s t : List Char} (hs : NoDigitAhead s)
    (ht : NoDigitAhead t) (htext : Nat.toDigits 10 m ++ s = Nat.toDigits 10 n ++ t) :
    m = n ∧ s = t := by
  have hnumeral : Nat.toDigits 10 m = Nat.toDigits 10 n := by
    rw [← takeWhile_numeral_append m hs, htext, takeWhile_numeral_append n ht]
  constructor
  · calc m = Nat.ofDigitChars 10 (Nat.toDigits 10 m) 0 := Nat.ofDigitChars_ten_toDigits.symm
      _ = n := by rw [hnumeral, Nat.ofDigitChars_ten_toDigits]
  · rw [hnumeral] at htext
    exact List.append_cancel_left htext

/-- Different digits of a hexadecimal numeral have different characters. -/
theorem digitChar_injective {m n : Nat} (hm : m < 16) (hn : n < 16)
    (hdigit : m.digitChar = n.digitChar) : m = n := by
  have hall : ∀ m < 16, ∀ n < 16, m.digitChar = n.digitChar → m = n := by decide
  exact hall m hm n hn hdigit

/-- Different numbers have different hexadecimal numerals. -/
theorem hexadecimal_injective {m n : Nat} (hnumeral : Nat.toDigits 16 m = Nat.toDigits 16 n) :
    m = n := by
  have hlong : ∀ k digit : Nat, 16 ≤ k → Nat.toDigits 16 k ≠ [digit.digitChar] := by
    intro k digit hk heq
    rw [Nat.toDigits_of_base_le (by decide) hk, ← List.nil_append [digit.digitChar]] at heq
    exact Nat.toDigits_ne_nil (List.append_inj' heq rfl).1
  induction m using Nat.strongRecOn generalizing n with
  | ind m ih =>
    rcases Nat.lt_or_ge m 16 with hm | hm <;> rcases Nat.lt_or_ge n 16 with hn | hn
    · rw [Nat.toDigits_of_lt_base hm, Nat.toDigits_of_lt_base hn] at hnumeral
      exact digitChar_injective hm hn (List.singleton_inj.mp hnumeral)
    · rw [Nat.toDigits_of_lt_base hm] at hnumeral
      exact absurd hnumeral.symm (hlong n m hn)
    · rw [Nat.toDigits_of_lt_base hn] at hnumeral
      exact absurd hnumeral (hlong m n hm)
    · rw [Nat.toDigits_of_base_le (by decide) hm, Nat.toDigits_of_base_le (by decide) hn]
        at hnumeral
      obtain ⟨hhigh, hlow⟩ := List.append_inj' hnumeral rfl
      have hquotient : m / 16 = n / 16 := ih (m / 16) (by omega) hhigh
      have hremainder : m % 16 = n % 16 :=
        digitChar_injective (by omega) (by omega) (List.singleton_inj.mp hlow)
      omega

/-- Only digits stand in a numeral. -/
theorem exists_digit_of_mem_toDigits {b n : Nat} (hbase : 1 < b) {c : Char}
    (hmem : c ∈ Nat.toDigits b n) : ∃ digit : Nat, c = digit.digitChar := by
  induction n using Nat.strongRecOn with
  | ind n ih =>
    rw [Nat.toDigits_eq_if hbase] at hmem
    split at hmem
    · exact ⟨n, List.mem_singleton.mp hmem⟩
    · rcases List.mem_append.mp hmem with hhigh | hlow
      · exact ih (n / b) (Nat.div_lt_self (by omega) hbase) hhigh
      · exact ⟨n % b, List.mem_singleton.mp hlow⟩

/-- An integer is a numeral, behind a sign if it is negative. -/
theorem toList_integer (n : Int) :
    (toString n).toList =
      if 0 ≤ n then Nat.toDigits 10 n.toNat else '-' :: Nat.toDigits 10 (-n).toNat := by
  rw [Int.toString_eq_repr, Int.repr_eq_if]
  split <;> simp [Nat.repr_eq_ofList_toDigits]

/-- An integer and what follows it can be read off a text, if no digit follows. -/
theorem integer_append_inj {m n : Int} {s t : List Char} (hs : NoDigitAhead s)
    (ht : NoDigitAhead t) (htext : (toString m).toList ++ s = (toString n).toList ++ t) :
    m = n ∧ s = t := by
  have hsign : ∀ (k : Nat) (before behind : List Char),
      Nat.toDigits 10 k ++ before ≠ '-' :: behind := by
    intro k before behind heq
    exact not_noDigitAhead_numeral k before (heq ▸ noDigitAhead_cons (by decide) behind)
  rw [toList_integer, toList_integer] at htext
  by_cases hm : 0 ≤ m <;> by_cases hn : 0 ≤ n
  · rw [if_pos hm, if_pos hn] at htext
    obtain ⟨hnumber, hrest⟩ := numeral_append_inj hs ht htext
    exact ⟨by omega, hrest⟩
  · rw [if_pos hm, if_neg hn] at htext
    exact absurd htext (hsign _ _ _)
  · rw [if_neg hm, if_pos hn] at htext
    exact absurd htext.symm (hsign _ _ _)
  · rw [if_neg hm, if_neg hn] at htext
    obtain ⟨hnumber, hrest⟩ := numeral_append_inj hs ht (List.cons.inj htext).2
    exact ⟨by omega, hrest⟩

end KernelLaunch.Text
