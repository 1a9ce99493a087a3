import Viewpoint.Toml.Scalar

/-!
# The range of numbers in settings files

Any number can be written, but only some can be read: whole numbers of up to 128 bits, and numbers
with a fraction or an exponent that do not round to infinity in 64 bits.

* `Toml.isReadable` says whether all numbers in a value can be read.
-/

namespace Viewpoint.Toml

/-- Whether a whole number has at most 128 bits, with or without a sign. -/
def hasRoom (value : Int) : Bool :=
  if value < 0 then value.natAbs ≤ 1 <<< 127 else value.natAbs < 1 <<< 128

/-- The least number that rounds to infinity. It is halfway between the greatest number of 64 bits,
whose last bit is one, and the next power of two. -/
def roundingLimit : Nat :=
  (1 <<< 1024) - (1 <<< 970)

/-- Whether the number that digits write, in units of a power of ten, does not round to infinity.
The limit has 309 digits, so the number is compared with it only if it has 309 digits before the
point as well. -/
def isBelowLimit (digits : List Char) (exponent : Int) : Bool :=
  let digits := digits.dropWhile (· = '0')
  let length := digits.length + exponent
  if digits.isEmpty || length < 309 then true
  else if 309 < length then false
  else
    let value := numberOfDecimal digits
    let unit := Nat.pow 10 exponent.natAbs
    if exponent < 0 then value < roundingLimit * unit else value * unit < roundingLimit

/-- Whether a number with a fraction or an exponent does not round to infinity, or is a name. -/
def isBounded (cs : List Char) : Bool :=
  let unsigned := (splitSign (cs.filter (· ≠ '_'))).2
  let isBeforeExponent := fun c : Char => c ≠ 'e' && c ≠ 'E'
  let mantissa := unsigned.takeWhile isBeforeExponent
  let fraction := (mantissa.dropWhile (· ≠ '.')).drop 1
  let (negative, digits) := splitSign ((unsigned.dropWhile isBeforeExponent).drop 1)
  let magnitude := Int.ofNat (numberOfDecimal digits)
  let exponent := if negative then -magnitude else magnitude
  isNumberName unsigned ||
    isBelowLimit (mantissa.takeWhile (· ≠ '.') ++ fraction) (exponent - fraction.length)

mutual

/-- Whether all numbers in a value can be read. -/
def isReadable : Toml → Bool
  | int value => hasRoom value
  | float text => isBounded text.toList
  | array items | tables items => areReadable items
  | table _ entries => hasReadable entries
  | str _ | bool _ | moment _ => true

/-- Whether all numbers in values can be read. -/
def areReadable : List Toml → Bool
  | [] => true
  | item :: items => item.isReadable && areReadable items

/-- Whether all numbers in entries can be read. -/
def hasReadable : Entries → Bool
  | [] => true
  | (_, value) :: entries => value.isReadable && hasReadable entries

end

end Viewpoint.Toml
