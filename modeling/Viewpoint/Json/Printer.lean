import Viewpoint.Json.Basic
import Viewpoint.Numeral

/-!
# Writing JSON

A value is written on one line or with one entry a line. Quotes, backslashes and control characters
of a text are escaped; everything else is written as it is.

* `Json.compact` writes a value on one line, `Json.pretty` on several.
-/

namespace Viewpoint.Json

/-- A character as it stands in a written text. -/
def escapeChar (c : Char) : List Char :=
  match c with
  | '"' => ['\\', '"']
  | '\\' => ['\\', '\\']
  | '\x08' => ['\\', 'b']
  | '\x0C' => ['\\', 'f']
  | '\n' => ['\\', 'n']
  | '\r' => ['\\', 'r']
  | '\t' => ['\\', 't']
  | c =>
    if c.toNat < 0x20 then
      ['\\', 'u', '0', '0', hexDigitChar (c.toNat / 16), hexDigitChar (c.toNat % 16)]
    else [c]

/-- A text in quotes. -/
def quote (text : String) : String :=
  "\"" ++ String.ofList (text.toList.flatMap escapeChar) ++ "\""

mutual

/-- A value on one line. -/
def compact : Json → String
  | null => "null"
  | bool value => if value then "true" else "false"
  | int value => toString value
  | decimal text => text
  | str value => quote value
  | arr items => "[" ++ String.intercalate "," (compactItems items) ++ "]"
  | obj entries => "\x7b" ++ String.intercalate "," (compactEntries entries) ++ "\x7d"
  | unreadable => "null"

/-- Values, each on one line. -/
def compactItems : List Json → List String
  | [] => []
  | item :: items => compact item :: compactItems items

/-- Entries, each on one line. -/
def compactEntries : List (String × Json) → List String
  | [] => []
  | (key, value) :: entries => (quote key ++ ":" ++ compact value) :: compactEntries entries

end

/-- A line break and the blanks before what stands at a depth. -/
def lineBreak (depth : Nat) : String :=
  "\n" ++ String.ofList (List.replicate (2 * depth) ' ')

/-- Parts between brackets, each on a line of its own. -/
def bracketLines (opening closing : String) (depth : Nat) (parts : List String) : String :=
  if parts.isEmpty then opening ++ closing
  else
    opening ++ lineBreak (depth + 1) ++ String.intercalate ("," ++ lineBreak (depth + 1)) parts
      ++ lineBreak depth ++ closing

mutual

/-- A value that stands at a depth, with one entry a line. -/
def prettyAt (depth : Nat) : Json → String
  | arr items => bracketLines "[" "]" depth (prettyItems (depth + 1) items)
  | obj entries => bracketLines "\x7b" "\x7d" depth (prettyEntries (depth + 1) entries)
  | json => compact json

/-- Values that stand at a depth. -/
def prettyItems (depth : Nat) : List Json → List String
  | [] => []
  | item :: items => prettyAt depth item :: prettyItems depth items

/-- Entries that stand at a depth. -/
def prettyEntries (depth : Nat) : List (String × Json) → List String
  | [] => []
  | (key, value) :: entries =>
    (quote key ++ ": " ++ prettyAt depth value) :: prettyEntries depth entries

end

/-- A value with one entry a line. -/
def pretty (json : Json) : String :=
  prettyAt 0 json

end Viewpoint.Json
