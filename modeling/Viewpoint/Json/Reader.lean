import Viewpoint.Json.Basic
import Viewpoint.Numeral

/-!
# Reading JSON

A text is cut into tokens, which are then put together. The containers that are still open are kept
on a stack, so values may be nested to any depth.

* `Json.read?` reads a whole text.
* `Json.tokens?` cuts a text into tokens, `Json.assemble` puts tokens together.
-/

namespace Viewpoint.Json

/-- The smallest parts of a JSON text. -/
inductive Token where
  | openArray | closeArray | openObject | closeObject | comma | colon
  /-- A text; there is none if its escapes name no characters. -/
  | text (value : Option String)
  /-- A number or a named constant. -/
  | scalar (value : Json)

/-- The character that is written by a single letter after a backslash. -/
def simpleEscape? : Char → Option Char
  | '"' => some '"'
  | '\\' => some '\\'
  | '/' => some '/'
  | 'b' => some '\x08'
  | 'f' => some '\x0C'
  | 'n' => some '\n'
  | 'r' => some '\r'
  | 't' => some '\t'
  | _ => none

/-- The numbers that the characters and escapes of a text stand for, unless an escape is
malformed. -/
def unescape? : List Char → Option (List Nat)
  | [] => some []
  | '\\' :: 'u' :: a :: b :: c :: d :: rest => do
    let unit ← numberOfHex? [a, b, c, d]
    return unit :: (← unescape? rest)
  | '\\' :: c :: rest => do
    let plain ← simpleEscape? c
    return plain.toNat :: (← unescape? rest)
  | c :: rest =>
    if c = '\\' then none else (unescape? rest).map (c.toNat :: ·)

/-- Whether a number is the first half of a pair that stands for one character. -/
def isHighSurrogate (unit : Nat) : Bool :=
  0xD800 ≤ unit && unit < 0xDC00

/-- Whether a number is the second half of a pair that stands for one character. -/
def isLowSurrogate (unit : Nat) : Bool :=
  0xDC00 ≤ unit && unit < 0xE000

/-- The characters of some numbers; two halves make one character and must not stand alone. -/
def joinSurrogates? : List Nat → Option (List Char)
  | [] => some []
  | high :: low :: rest =>
    if isHighSurrogate high then
      if isLowSurrogate low then do
        let c ← charOfCode? (0x10000 + (high - 0xD800) * 0x400 + (low - 0xDC00))
        return c :: (← joinSurrogates? rest)
      else none
    else do
      let c ← charOfCode? high
      return c :: (← joinSurrogates? (low :: rest))
  | [unit] => (charOfCode? unit).map fun c => [c]

/-- Whether characters are a fraction and an exponent, or one of them. -/
def isNumberTail (cs : List Char) : Bool :=
  match cs with
  | '.' :: digits =>
    !(digits.takeWhile Char.isDigit).isEmpty && isExponent (digits.dropWhile Char.isDigit)
  | cs => isExponent cs
where
  /-- Whether characters are an exponent, or nothing at all. -/
  isExponent : List Char → Bool
    | [] => true
    | c :: rest =>
      (c = 'e' || c = 'E') &&
        match rest with
        | '+' :: digits | '-' :: digits => !digits.isEmpty && digits.all Char.isDigit
        | digits => !digits.isEmpty && digits.all Char.isDigit

/-- The number that characters write. A leading zero stands alone. -/
def number? (cs : List Char) : Option Json :=
  let (negative, unsigned) :=
    match cs with
    | '-' :: rest => (true, rest)
    | rest => (false, rest)
  let whole := unsigned.takeWhile Char.isDigit
  let tail := unsigned.dropWhile Char.isDigit
  if whole.isEmpty || (whole.head? = some '0' && whole.length ≠ 1) then none
  else if !tail.isEmpty then
    if isNumberTail tail then some (.decimal (String.ofList cs)) else none
  else
    match negative, numberOfDecimal whole with
    | false, value => some (.int value)
    | true, 0 => some (.decimal (String.ofList cs))
    | true, value => some (.int (-value))

/-- The number or constant that characters write. -/
def scalar? (cs : List Char) : Option Json :=
  match String.ofList cs with
  | "null" => some .null
  | "true" => some (.bool true)
  | "false" => some (.bool false)
  | _ => number? cs

/-- The blanks between tokens. -/
def isBlank (c : Char) : Bool :=
  c = ' ' || c = '\t' || c = '\n' || c = '\r'

/-- The token of a single character. -/
def mark? : Char → Option Token
  | '[' => some .openArray
  | ']' => some .closeArray
  | '{' => some .openObject
  | '}' => some .closeObject
  | ',' => some .comma
  | ':' => some .colon
  | _ => none

/-- Where the cutting of a text stands. The characters read so far are kept latest first. -/
inductive Cutting where
  /-- Between two tokens. -/
  | between
  /-- Within a text. -/
  | text (read : List Char)
  /-- Within a text, after a backslash. -/
  | escape (read : List Char)
  /-- Within a number or a constant. -/
  | scalar (read : List Char)

/-- The token of the text within quotes. -/
def textToken? (read : List Char) : Option Token :=
  (unescape? read.reverse).map fun units => .text ((joinSurrogates? units).map String.ofList)

/-- Cuts what is left of a text into tokens. -/
def cut : Cutting → List Char → Option (List Token)
  | .between, [] => some []
  | .text _, [] => none
  | .escape _, [] => none
  | .scalar read, [] => (scalar? read.reverse).map fun value => [.scalar value]
  | .between, c :: rest =>
    if isBlank c then cut .between rest
    else if c = '"' then cut (.text []) rest
    else
      match mark? c with
      | some token => (cut .between rest).map (token :: ·)
      | none => cut (.scalar [c]) rest
  | .text read, c :: rest =>
    if c = '"' then do
      let token ← textToken? read
      return token :: (← cut .between rest)
    else if c = '\\' then cut (.escape (c :: read)) rest
    else if c.toNat < 0x20 then none
    else cut (.text (c :: read)) rest
  | .escape read, c :: rest => if c.toNat < 0x20 then none else cut (.text (c :: read)) rest
  | .scalar read, c :: rest =>
    if isBlank c then do
      let value ← scalar? read.reverse
      return .scalar value :: (← cut .between rest)
    else
      match mark? c with
      | some token => do
        let value ← scalar? read.reverse
        return .scalar value :: token :: (← cut .between rest)
      | none => if c = '"' then none else cut (.scalar (c :: read)) rest

/-- The tokens of a text. -/
def tokens? (text : List Char) : Option (List Token) :=
  cut .between text

/-- A container that is still open. What it holds is kept latest first. -/
inductive Frame where
  | array (items : List Json)
  | object (entries : List (Option String × Json)) (key : Option String)

/-- What must come next. -/
inductive Await where
  /-- A value. -/
  | value
  /-- A value, or the end of the array that has just been opened. -/
  | firstItem
  /-- A key of the object that has these entries. -/
  | key (entries : List (Option String × Json))
  /-- A key, or the end of the object that has just been opened. -/
  | firstKey
  /-- The colon after a key. -/
  | colon (entries : List (Option String × Json)) (key : Option String)
  /-- After a value: a comma or the end of its container, or the end of the text. -/
  | next (value : Json)

/-- The object of some entries. -/
def ofEntries (entries : List (Option String × Json)) : Json :=
  match entries.mapM fun (key, value) => key.map fun key => (key, value) with
  | some entries => .obj entries
  | none => .unreadable

/-- Puts tokens together. -/
def assemble : Await → List Frame → List Token → Option Json
  | .next value, [], [] => some value
  | _, _, [] => none
  | .next _, [], _ :: _ => none
  | .next value, .array items :: outer, token :: rest =>
    match token with
    | .comma => assemble .value (.array (value :: items) :: outer) rest
    | .closeArray => assemble (.next (.arr (value :: items).reverse)) outer rest
    | _ => none
  | .next value, .object entries key :: outer, token :: rest =>
    match token with
    | .comma => assemble (.key ((key, value) :: entries)) outer rest
    | .closeObject => assemble (.next (ofEntries ((key, value) :: entries).reverse)) outer rest
    | _ => none
  | .key entries, outer, token :: rest =>
    match token with
    | .text key => assemble (.colon entries key) outer rest
    | _ => none
  | .firstKey, outer, token :: rest =>
    match token with
    | .text key => assemble (.colon [] key) outer rest
    | .closeObject => assemble (.next (.obj [])) outer rest
    | _ => none
  | .colon entries key, outer, token :: rest =>
    match token with
    | .colon => assemble .value (.object entries key :: outer) rest
    | _ => none
  | .firstItem, outer, token :: rest =>
    match token with
    | .closeArray => assemble (.next (.arr [])) outer rest
    | .openArray => assemble .firstItem (.array [] :: outer) rest
    | .openObject => assemble .firstKey (.array [] :: outer) rest
    | .text text => assemble (.next (ofText text)) (.array [] :: outer) rest
    | .scalar value => assemble (.next value) (.array [] :: outer) rest
    | _ => none
  | .value, outer, token :: rest =>
    match token with
    | .openArray => assemble .firstItem outer rest
    | .openObject => assemble .firstKey outer rest
    | .text text => assemble (.next (ofText text)) outer rest
    | .scalar value => assemble (.next value) outer rest
    | _ => none
where
  /-- The value of a text token. -/
  ofText : Option String → Json
    | some text => .str text
    | none => .unreadable

/-- Reads a text that is one JSON value. -/
def read? (text : String) : Option Json :=
  (tokens? text.toList).bind (assemble .value [])

end Viewpoint.Json
