import KernelLaunch.Text.CharRanges

/-!
# Characters that are shown as nothing

The ranges hold the code points with the property Default_Ignorable_Code_Point,
as Unicode 17.0 assigns it. Among them are letters, such as the fillers of
Hangul syllables, that only their property tells from a visible one.
-/

namespace KernelLaunch.Text

/-- The code points with the property Default_Ignorable_Code_Point. None of them
is ASCII. -/
def defaultIgnorableRanges : CharRanges := [
  (0xAD, 0xAD), (0x34F, 0x34F), (0x61C, 0x61C), (0x115F, 0x1160), (0x17B4, 0x17B5),
  (0x180B, 0x180F), (0x200B, 0x200F), (0x202A, 0x202E), (0x2060, 0x206F), (0x3164, 0x3164),
  (0xFE00, 0xFE0F), (0xFEFF, 0xFEFF), (0xFFA0, 0xFFA0), (0xFFF0, 0xFFF8), (0x1BCA0, 0x1BCA3),
  (0x1D173, 0x1D17A), (0xE0000, 0xE0FFF)
]

/-- A character that is shown as nothing where it has no effect of its own. -/
def isDefaultIgnorable (c : Char) : Bool :=
  0x80 ≤ c.toNat && defaultIgnorableRanges.covers c

end KernelLaunch.Text
