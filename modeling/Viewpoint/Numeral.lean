/-!
# Numerals

Numbers written by digits, and characters written by their numbers.
-/

namespace Viewpoint

/-- The number that digits write in a base. -/
def numberOfDigits (base : Nat) (digits : List Nat) : Nat :=
  digits.foldl (fun value digit => value * base + digit) 0

/-- The value of a decimal digit. -/
def decimalDigit (c : Char) : Nat :=
  c.toNat - '0'.toNat

/-- The number that decimal digits write. -/
def numberOfDecimal (digits : List Char) : Nat :=
  numberOfDigits 10 (digits.map decimalDigit)

/-- The value of a hexadecimal digit. -/
def hexDigit? (c : Char) : Option Nat :=
  if '0' ≤ c ∧ c ≤ '9' then some (c.toNat - '0'.toNat)
  else if 'a' ≤ c ∧ c ≤ 'f' then some (c.toNat - 'a'.toNat + 10)
  else if 'A' ≤ c ∧ c ≤ 'F' then some (c.toNat - 'A'.toNat + 10)
  else none

/-- The number that hexadecimal digits write. -/
def numberOfHex? (digits : List Char) : Option Nat :=
  (digits.mapM hexDigit?).map (numberOfDigits 16)

/-- The character with a number. Surrogates are no characters. -/
def charOfCode? (code : Nat) : Option Char :=
  if h : code.isValidChar then some (Char.ofNatAux code h) else none

/-- The digit with a value below sixteen. -/
def hexDigitChar (value : Nat) : Char :=
  if value < 10 then Char.ofNat ('0'.toNat + value) else Char.ofNat ('a'.toNat + (value - 10))

end Viewpoint
