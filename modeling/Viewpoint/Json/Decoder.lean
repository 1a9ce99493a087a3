import Viewpoint.Json.Basic
import Viewpoint.Vocabulary

/-!
# Decoding JSON

A decoder turns a JSON value into a value of the domain, or refuses it. Records are objects or, in
the order of their fields, arrays. A decoder is told how many containers it may still open, so that
a value that is nested too deeply is refused; values that nobody looks at are not counted.

* `Decoder.record` collects the fields of a record, `Record.required` and its like decode them.
* `Json.decode?` decodes a whole value with the common limit of nesting.
-/

namespace Viewpoint

/-- Turns a JSON value into another value, or refuses it. The number says how many containers may
still be opened. -/
abbrev Decoder (α : Type) := Nat → Json → Option α

/-- The number of containers that may be nested in one another. -/
def nestingLimit : Nat := 127

/-- Decodes a whole value. -/
def Json.decode? {α : Type} (decoder : Decoder α) (json : Json) : Option α :=
  decoder nestingLimit json

namespace Decoder

variable {α : Type}

/-- A text. -/
def text : Decoder String
  | _, .str value => some value
  | _, _ => none

/-- A flag. -/
def flag : Decoder Bool
  | _, .bool value => some value
  | _, _ => none

/-- The least whole number of 64 bits. -/
def leastInteger : Int := -9223372036854775808

/-- The greatest whole number of 64 bits. -/
def greatestInteger : Int := 9223372036854775807

/-- A whole number of 64 bits. -/
def integer : Decoder Int
  | _, .int value => if leastInteger ≤ value ∧ value ≤ greatestInteger then some value else none
  | _, _ => none

/-- A value made from a decoded one. -/
def map {β : Type} (f : α → β) (decoder : Decoder α) : Decoder β :=
  fun levels json => (decoder levels json).map f

/-- A value that may be absent, which is written as null. -/
def optional (decoder : Decoder α) : Decoder (Option α)
  | _, .null => some none
  | levels, json => (decoder levels json).map some

/-- A list. -/
def list (decoder : Decoder α) : Decoder (List α)
  | levels + 1, .arr items => items.mapM (decoder levels)
  | _, _ => none

/-- The entries of an object, in order and with repetitions. -/
def entries (decoder : Decoder α) : Decoder (List (String × α))
  | levels + 1, .obj entries =>
    entries.mapM fun (key, value) => (decoder levels value).map fun value => (key, value)
  | _, _ => none

/-- A word of a vocabulary: its spelling, or an object with the spelling as its only key and null
under it. -/
def word [Vocabulary α] : Decoder α
  | _, .str spelling => Vocabulary.ofSpelling? spelling
  | _ + 1, .obj [(spelling, .null)] => Vocabulary.ofSpelling? spelling
  | _, _ => none

/-- A value that may hold further values of its sort. Each of them stands in a container of its own,
so they cannot be nested more often than containers. -/
def nested (step : Decoder α → Decoder α) : Decoder α :=
  fun levels json => Nat.repeat step (levels + 1) (fun _ _ => none) levels json

/-- A nested value is read by one step whose parts are read with one step less. -/
theorem nested_eq (step : Decoder α → Decoder α) (levels : Nat) (json : Json) :
    nested step levels json = step (Nat.repeat step levels fun _ _ => none) levels json := rfl

/-- The value of a choice: an object with one key that says which of some decoders reads what is
under it. -/
def tagged (decoders : List (String × Decoder α)) : Decoder α
  | levels + 1, .obj [(tag, value)] =>
    (decoders.lookup tag).bind fun decoder => decoder levels value
  | _, _ => none

end Decoder

/-- A field of a record: its name and the other names that it goes by. -/
structure Field where
  /-- The name. -/
  name : String
  /-- The other names. -/
  aliases : List String := []

/-- Whether a key names a field. -/
def Field.isNamed (field : Field) (key : String) : Bool :=
  field.name = key || field.aliases.contains key

/-- The fields that were found in a record, with how many containers their values may open. -/
structure Record where
  /-- The number of containers that may still be opened. -/
  levels : Nat
  /-- The values by the names of their fields. -/
  values : List (String × Json)

namespace Record

variable {α : Type}

/-- Decodes a field that has to be there. -/
def required (record : Record) (name : String) (decoder : Decoder α) : Option α :=
  (record.values.lookup name).bind (decoder record.levels)

/-- Decodes a field that has a default. -/
def getD (record : Record) (name : String) (decoder : Decoder α) (default : α) : Option α :=
  match record.values.lookup name with
  | none => some default
  | some value => decoder record.levels value

/-- Decodes a field that may be absent or null. -/
def get? (record : Record) (name : String) (decoder : Decoder α) : Option (Option α) :=
  record.getD name decoder.optional none

end Record

namespace Decoder

/-- The value of a field among the entries of an object, if there is one; it must not be repeated,
under whatever names. -/
def fieldOf (entries : List (String × Json)) (field : Field) : Option (List (String × Json)) :=
  match entries.filter fun entry => field.isNamed entry.1 with
  | [] => some []
  | [entry] => some [(field.name, entry.2)]
  | _ => none

/-- The fields of a record. It is an object, whose other keys are ignored, or an array of the values
in the order of the fields, of which the last may be missing. -/
def record (fields : List Field) : Decoder Record
  | levels + 1, .obj entries => do
    let values ← fields.mapM (fieldOf entries)
    pure ⟨levels, values.flatten⟩
  | levels + 1, .arr items =>
    if fields.length < items.length then none
    else some ⟨levels, (fields.map Field.name).zip items⟩
  | _, _ => none

/-- The fields of a record that has no other keys. -/
def strictRecord (fields : List Field) : Decoder Record
  | levels, .obj entries =>
    if entries.all fun entry => fields.any (·.isNamed entry.1) then
      record fields levels (.obj entries)
    else none
  | levels, json => record fields levels json

end Decoder

end Viewpoint
