/-!
# Element types

The type of the entries of an array is one 32-bit code. Two types are the same
when their codes are, however they were formed. The upper bits tell unsigned
integers and reals apart, the lower bits carry the widths, and every other type
is coded by its name.
-/

namespace KernelLaunch

/-- An element type, known by its code. -/
structure ElementType where
  /-- The code of the type. -/
  code : UInt32
  deriving DecidableEq

namespace ElementType

/-- The unsigned integers of a number of bits. -/
def unsigned (width : Nat) : ElementType :=
  ⟨(0xE0000000 : UInt32) ||| UInt32.ofNat width⟩

/-- The signed reals with a number of exponent bits and of mantissa bits. -/
def real (exponent mantissa : Nat) : ElementType :=
  ⟨(0xC0000000 : UInt32) ||| UInt32.ofNat (exponent <<< 16) ||| UInt32.ofNat mantissa⟩

/-- The signed integers of a number of bits: reals without an exponent, whose
sign bit is not counted. -/
def signed (width : Nat) : ElementType :=
  real 0 (width - 1)

/-- A letter or digit of a name as a number from 0 to 35, the digits first.
The two cases of a letter are not told apart. -/
def nameDigit? (c : Char) : Option Nat :=
  if c.isDigit then some (c.toNat - '0'.toNat)
  else if c.isLower then some (c.toNat - 'a'.toNat + 10)
  else if c.isUpper then some (c.toNat - 'A'.toNat + 10)
  else none

/-- The characters of a name as a number to the base 37, the first character
least. Underscores and dots do not count; other characters occur in no name. -/
def nameNumber? : List Char → Option Nat
  | [] => some 0
  | c :: rest =>
    if c = '_' ∨ c = '.' then nameNumber? rest
    else do
      let digit ← nameDigit? c
      let higher ← nameNumber? rest
      return digit + 1 + 37 * higher

/-- The type with a name of its own. -/
def named? (name : String) : Option ElementType :=
  (nameNumber? name.toList).map fun number => ⟨UInt32.ofNat number⟩

/-- The truth values, which are the type named `bool`. -/
def bool : ElementType := ⟨1149528⟩

/-- The code of the truth values is the one of their name. -/
example : named? "bool" = some bool := by decide +kernel

/-- The type as a message shows it. -/
def toText (type : ElementType) : String :=
  "DigitLayout(" ++ toString type.code.toNat ++ ")"

end ElementType

end KernelLaunch
