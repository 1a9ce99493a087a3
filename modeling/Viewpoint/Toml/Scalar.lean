import Viewpoint.Numeral
import Viewpoint.Toml.Basic

/-!
# Numbers, flags and dates in settings files

A value that is neither a text nor a container is written without blanks, except between a date and
a time. What it is follows from its characters alone.

* `Toml.scalar?` is the value that characters write.
-/

namespace Viewpoint.Toml

/-- Whether characters are digits, with single underscores between some of them. -/
def isDigitRun (isDigit : Char → Bool) : List Char → Bool
  | [] => false
  | [c] => isDigit c
  | c :: '_' :: rest => isDigit c && isDigitRun isDigit rest
  | c :: rest => isDigit c && isDigitRun isDigit rest

/-- The number that digits with underscores write in a base. -/
def numberOfRun? (base : Nat) (isDigit : Char → Bool) (cs : List Char) : Option Nat :=
  if isDigitRun isDigit cs then
    ((cs.filter (· ≠ '_')).mapM hexDigit?).map (numberOfDigits base)
  else none

/-- Whether a character is a hexadecimal digit. -/
def isHexDigit (c : Char) : Bool :=
  (hexDigit? c).isSome

/-- Whether a number is negative, and the number without its sign. -/
def splitSign : List Char → Bool × List Char
  | '-' :: rest => (true, rest)
  | '+' :: rest => (false, rest)
  | cs => (false, cs)

/-- Whether characters are a decimal number without a superfluous zero in front. -/
def isWhole (cs : List Char) : Bool :=
  isDigitRun Char.isDigit cs && (cs.head? ≠ some '0' || cs.length = 1)

/-- The whole number that characters write. -/
def int? (cs : List Char) : Option Int :=
  match cs with
  | '0' :: 'x' :: digits => (numberOfRun? 16 isHexDigit digits).map Int.ofNat
  | '0' :: 'o' :: digits => (numberOfRun? 8 (fun c => '0' ≤ c && c ≤ '7') digits).map Int.ofNat
  | '0' :: 'b' :: digits => (numberOfRun? 2 (fun c => c = '0' || c = '1') digits).map Int.ofNat
  | cs =>
    let (negative, digits) := splitSign cs
    if isWhole digits then
      (numberOfRun? 10 Char.isDigit digits).map fun value =>
        if negative then -Int.ofNat value else Int.ofNat value
    else none

/-- Whether characters are an exponent. -/
def isExponent : List Char → Bool
  | c :: rest => (c = 'e' || c = 'E') && isDigitRun Char.isDigit (splitSign rest).2
  | [] => false

/-- Whether characters without a sign name infinity or the absence of a number. -/
def isNumberName (unsigned : List Char) : Bool :=
  unsigned = "inf".toList || unsigned = "nan".toList

/-- Whether characters are a number with a fraction or an exponent, or name infinity or the absence
of a number. -/
def isFloat (cs : List Char) : Bool :=
  let unsigned := (splitSign cs).2
  if isNumberName unsigned then true
  else
    let isDigit := fun c : Char => c.isDigit || c = '_'
    let whole := unsigned.takeWhile isDigit
    isWhole whole &&
      match unsigned.dropWhile isDigit with
      | '.' :: rest =>
        let tail := rest.dropWhile isDigit
        isDigitRun Char.isDigit (rest.takeWhile isDigit) && (tail.isEmpty || isExponent tail)
      | rest => isExponent rest

/-- The number of days of a month. -/
def daysOfMonth (year month : Nat) : Nat :=
  if month = 2 then
    if year % 4 = 0 && (year % 100 ≠ 0 || year % 400 = 0) then 29 else 28
  else if [4, 6, 9, 11].contains month then 30
  else 31

/-- The number of exactly so many digits. -/
def fixedNumber? (digits : List Char) : Option Nat :=
  if digits.all Char.isDigit then some (numberOfDecimal digits) else none

/-- What follows a date. -/
def afterDate? : List Char → Option (List Char)
  | y :: e :: a :: r :: '-' :: m :: o :: '-' :: d :: k :: rest => do
    let year ← fixedNumber? [y, e, a, r]
    let month ← fixedNumber? [m, o]
    let day ← fixedNumber? [d, k]
    if 1 ≤ month && month ≤ 12 && 1 ≤ day && day ≤ daysOfMonth year month then some rest else none
  | _ => none

/-- What follows hours and minutes. -/
def afterMinutes? : List Char → Option (List Char)
  | h :: o :: ':' :: m :: i :: rest => do
    let hour ← fixedNumber? [h, o]
    let minute ← fixedNumber? [m, i]
    if hour < 24 && minute < 60 then some rest else none
  | _ => none

/-- What follows a time. The seconds may be missing and may have a fraction. -/
def afterTime? (cs : List Char) : Option (List Char) := do
  let rest ← afterMinutes? cs
  match rest with
  | ':' :: s :: e :: rest => do
    let second ← fixedNumber? [s, e]
    if 60 < second then none
    else
      match rest with
      | '.' :: fraction =>
        if (fraction.takeWhile Char.isDigit).isEmpty then none
        else some (fraction.dropWhile Char.isDigit)
      | rest => some rest
  | ':' :: _ => none
  | rest => some rest

/-- Whether characters say how far a time is from the common one, or are none. -/
def isOffset : List Char → Bool
  | [] => true
  | [c] => c = 'Z' || c = 'z'
  | c :: rest => (c = '+' || c = '-') && afterMinutes? rest = some []

/-- Whether characters are a date, a time, or a date with a time. -/
def isMoment (cs : List Char) : Bool :=
  match afterDate? cs with
  | some [] => true
  | some (c :: rest) => (c = 'T' || c = 't' || c = ' ') && (afterTime? rest).any isOffset
  | none => afterTime? cs = some []

/-- The value that characters write. -/
def scalar? (cs : List Char) : Option Toml :=
  let text := String.ofList cs
  if text = "true" then some (.bool true)
  else if text = "false" then some (.bool false)
  else
    match int? cs with
    | some value => some (.int value)
    | none =>
      if isFloat cs then some (.float text)
      else if isMoment cs then some (.moment text)
      else none

end Viewpoint.Toml
