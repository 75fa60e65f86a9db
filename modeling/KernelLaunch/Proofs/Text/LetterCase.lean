import Mathlib.Data.List.Forall2

/-!
# Letter case

The letters from A to Z have a capital and a small form. Texts may differ in the form of
such letters and be the same otherwise: character by character, so that they have the
same length, and every other character stands for itself alone.
-/

namespace KernelLaunch.Text

/-- The capital letters with their small forms. -/
def letterForms : List (Char × Char) :=
  "ABCDEFGHIJKLMNOPQRSTUVWXYZ".toList.zip "abcdefghijklmnopqrstuvwxyz".toList

/-- Two characters are the same or the two forms of one letter. -/
def SameLetter (c d : Char) : Prop :=
  c = d ∨ (c, d) ∈ letterForms ∨ (d, c) ∈ letterForms

/-- Two texts are the same but for the forms of their letters. -/
def SameButCase (s t : String) : Prop :=
  List.Forall₂ SameLetter s.toList t.toList

/-- Lowering a capital letter yields its small form, which is lowered to itself. -/
theorem toLower_of_mem_letterForms {form : Char × Char} (hmem : form ∈ letterForms) :
    form.1.toLower = form.2 ∧ form.2.toLower = form.2 := by
  revert form
  decide

/-- Different capital letters have different small forms. -/
theorem letterForms_injective {a b : Char × Char} (ha : a ∈ letterForms) (hb : b ∈ letterForms)
    (hsmall : a.2 = b.2) : a.1 = b.1 := by
  have hall : ∀ a ∈ letterForms, ∀ b ∈ letterForms, a.2 = b.2 → a.1 = b.1 := by decide
  exact hall a ha b hb hsmall

/-- Every character is a capital letter or its own small form. -/
theorem mem_letterForms_or_toLower_eq (c : Char) :
    (c, c.toLower) ∈ letterForms ∨ c.toLower = c := by
  by_cases hcapital : c.val ≥ 'A'.val ∧ c.val ≤ 'Z'.val
  · -- The capital letters are the characters of 26 codes in a row.
    have hforms : ∀ code < 91, 65 ≤ code →
        (Char.ofNat code, (Char.ofNat code).toLower) ∈ letterForms := by decide
    have hlow : 65 ≤ c.toNat := UInt32.le_iff_toNat_le.mp hcapital.1
    have hhigh : c.toNat ≤ 90 := UInt32.le_iff_toNat_le.mp hcapital.2
    have hform := hforms c.toNat (by omega) hlow
    rw [Char.ofNat_toNat] at hform
    exact .inl hform
  · exact .inr (dif_neg hcapital)

/-- Characters have the same small form exactly if they are the same letter. -/
theorem toLower_eq_toLower_iff {c d : Char} : c.toLower = d.toLower ↔ SameLetter c d := by
  constructor
  · intro hlower
    rcases mem_letterForms_or_toLower_eq c with hc | hc <;>
      rcases mem_letterForms_or_toLower_eq d with hd | hd
    · exact .inl (letterForms_injective hc hd hlower)
    · rw [hlower, hd] at hc
      exact .inr (.inl hc)
    · rw [← hlower, hc] at hd
      exact .inr (.inr hd)
    · exact .inl (hc.symm.trans (hlower.trans hd))
  · rintro (rfl | hform | hform)
    · rfl
    · obtain ⟨hcapital, hsmall⟩ := toLower_of_mem_letterForms hform
      exact hcapital.trans hsmall.symm
    · obtain ⟨hcapital, hsmall⟩ := toLower_of_mem_letterForms hform
      exact hsmall.trans hcapital.symm

/-- The small form of a text is made character by character. -/
theorem toList_toLower (s : String) : s.toLower.toList = s.toList.map Char.toLower :=
  String.toList_map

/-- Texts have the same small form exactly if they are the same but for the forms of
their letters. -/
theorem string_toLower_eq_iff {s t : String} : s.toLower = t.toLower ↔ SameButCase s t := by
  have hletters : SameLetter = fun c d => c.toLower = d.toLower :=
    funext₂ fun c d => propext toLower_eq_toLower_iff.symm
  calc s.toLower = t.toLower
      ↔ s.toList.map Char.toLower = t.toList.map Char.toLower := by
        rw [← String.toList_inj, toList_toLower, toList_toLower]
    _ ↔ List.Forall₂ (· = ·) (s.toList.map Char.toLower) (t.toList.map Char.toLower) := by
        rw [List.forall₂_eq_eq_eq]
    _ ↔ SameButCase s t := by
        rw [List.forall₂_map_left_iff, List.forall₂_map_right_iff, SameButCase, hletters]

end KernelLaunch.Text
