import Viewpoint.Unicode.Boundary
import Viewpoint.Unicode.Script
import Viewpoint.Unicode.Version

/-!
# Character classes

The classes of characters that patterns name: word characters, white space, digits, and everything
that can be asked for by the name of a property.

* `Unicode.word`, `Unicode.space` and `Unicode.digit` are the classes with an escape of their own.
* `Unicode.property?` finds a class by a name, `Unicode.propertyValue?` by a property and its value.
-/

namespace Viewpoint.Unicode

/-- The characters that separate words: blanks, line ends and the separators. -/
def space : CodeSet :=
  whiteSpace.set

/-- Whether a character separates words. -/
def isSpace (c : Char) : Bool :=
  space.contains c.toNat

/-- The decimal digits of all scripts. -/
def digit : CodeSet :=
  Category.setWhere (· = .decimalNumber)

/-- The characters that words are made of: those of alphabets, marks, decimal digits, connectors and
the two joiners. -/
def word : CodeSet :=
  Members.set (.union (.union alphabetic joinControl)
    (.categories [.nonspacingMark, .spacingMark, .enclosingMark, .decimalNumber,
      .connectorPunctuation]))

/-- The characters of alphabets that version 17 of the standard has added. -/
def newestAlphabetic : Members :=
  .listed ["2191-+972-+127-+39665-2+2-+-+28-+24910-26+1387-3+50-2+3172-8+584-44+20676-25+2-",
    "25+286-5+6145-8+1289-22+97-115+22733-31+-22+8-2+53306-6+5986-12+21762-4298+"]

/-- The characters that a name may begin with: those of alphabets, the newest ones included. -/
def nameStart : CodeSet :=
  Members.set (.union alphabetic newestAlphabetic)

/-- The characters that a name may go on with: those of alphabets and the numbers, the newest ones
included. -/
def nameContinue : CodeSet :=
  Members.set (.union (.union alphabetic newestAlphabetic)
    (.union (.categories [.decimalNumber, .letterNumber, .otherNumber])
      (.listed ["73184-10+21002-3+"])))

/-- Lower case without blanks, underscores and hyphens, and without characters outside ASCII. -/
def squeezeName (name : List Char) : List Char :=
  (name.filter fun c => c.toNat < 0x80 && c ≠ ' ' && c ≠ '_' && c ≠ '-').map Char.toLower

/-- The form in which names of properties are compared: a leading `is` does not count, except in the
name `isc`. -/
def looseName (name : List Char) : String :=
  match name with
  | a :: b :: rest =>
    if a.toLower = 'i' && b.toLower = 's' then
      let squeezed := squeezeName rest
      if squeezed = ['c'] then "isc" else String.ofList squeezed
    else String.ofList (squeezeName name)
  | _ => String.ofList (squeezeName name)

/-- The class of a general category, by its loose name. Surrogates are no characters, so their
category is no class. -/
def categoryClass? (name : String) : Option CodeSet :=
  match name with
  | "any" => some .full
  | "assigned" => some (Category.setWhere (· = .unassigned)).complement
  | "ascii" => some (.interval 0 0x7F)
  | _ => (Category.ofName? name).map Category.setWhere

/-- The class of a property, by its name alone: a property that characters have or lack, a general
category or a script. -/
def property? (name : List Char) : Option CodeSet :=
  let loose := looseName name
  NamedMembers.find? binaryProperties loose
    <|> categoryClass? loose
    <|> (Script.find? loose).map (·.own.set)

/-- The class of a property with a value. -/
def propertyValue? (name value : List Char) : Option CodeSet :=
  let value := looseName value
  match looseName name with
  | "generalcategory" | "gc" => categoryClass? value
  | "script" | "sc" => (Script.find? value).map (·.own.set)
  | "scriptextensions" | "scx" => (Script.find? value).map (·.used.set)
  | "age" => assignedBy? value
  | "graphemeclusterbreak" | "gcb" => NamedMembers.find? graphemeKinds value
  | "wordbreak" | "wb" => NamedMembers.find? wordKinds value
  | "sentencebreak" | "sb" => NamedMembers.find? sentenceKinds value
  | _ => none

end Viewpoint.Unicode
