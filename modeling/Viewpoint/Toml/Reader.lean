import Viewpoint.Numeral
import Viewpoint.Toml.Scalar

/-!
# Settings files as text

A file is a sequence of lines: headers, which open a table, and keys with their values, which are
added to the table that has been opened last. Values in brackets and in braces may go over several
lines. A reader gives what it has read and what is left of the text.

* `Toml.read?` reads a whole file.
* `Toml.value?` reads one value, `Toml.keyPath?` one key with its dots.
-/

namespace Viewpoint.Toml

/-- Whether a character may stand within comments and texts. -/
def isTextChar (c : Char) : Bool :=
  c = '\t' || (0x20 ≤ c.toNat && c.toNat ≠ 0x7F)

/-- Whether a character separates the parts of a line. -/
def isBlank (c : Char) : Bool :=
  c = ' ' || c = '\t'

/-- What follows the blanks of a line. -/
def skipBlanks (cs : List Char) : List Char :=
  cs.dropWhile isBlank

/-- What follows blanks, line breaks and comments; the flag says whether this starts within a
comment. -/
def skipGaps (inComment : Bool) : List Char → Option (List Char)
  | [] => some []
  | c :: rest =>
    if c = '\n' then skipGaps false rest
    else if inComment then
      if isTextChar c then skipGaps true rest else none
    else if isBlank c then skipGaps false rest
    else if c = '#' then skipGaps true rest
    else some (c :: rest)

/-- What follows a line of which only blanks and a comment are left. -/
def endLine? (cs : List Char) : Option (List Char) :=
  match skipBlanks cs with
  | [] => some []
  | '\n' :: rest => some rest
  | '#' :: rest =>
    if (rest.takeWhile (· ≠ '\n')).all isTextChar then
      some ((rest.dropWhile (· ≠ '\n')).drop 1)
    else none
  | _ => none

/-- The character that is written by a single letter after a backslash. -/
def simpleEscape? : Char → Option Char
  | '"' => some '"'
  | '\\' => some '\\'
  | 'b' => some '\x08'
  | 't' => some '\t'
  | 'n' => some '\n'
  | 'f' => some '\x0C'
  | 'r' => some '\r'
  | 'e' => some '\x1B'
  | _ => none

/-- The character with a hexadecimal number. -/
def charOfHex? (digits : List Char) : Option Char :=
  (numberOfHex? digits).bind charOfCode?

/-- A character put in front of a text. -/
def prepend (c : Char) (reading : Option (List Char × List Char)) :
    Option (List Char × List Char) :=
  reading.map fun (text, rest) => (c :: text, rest)

/-- The rest of a text in double quotes. -/
def quoted? : List Char → Option (List Char × List Char)
  | [] => none
  | '"' :: rest => some ([], rest)
  | '\\' :: 'x' :: a :: b :: rest => do prepend (← charOfHex? [a, b]) (quoted? rest)
  | '\\' :: 'u' :: a :: b :: c :: d :: rest => do
    prepend (← charOfHex? [a, b, c, d]) (quoted? rest)
  | '\\' :: 'U' :: a :: b :: c :: d :: e :: f :: g :: h :: rest => do
    prepend (← charOfHex? [a, b, c, d, e, f, g, h]) (quoted? rest)
  | '\\' :: c :: rest => do prepend (← simpleEscape? c) (quoted? rest)
  | c :: rest => if c ≠ '\\' && isTextChar c then prepend c (quoted? rest) else none

/-- The rest of a text in single quotes, in which nothing is escaped. -/
def literal? : List Char → Option (List Char × List Char)
  | [] => none
  | '\x27' :: rest => some ([], rest)
  | c :: rest => if isTextChar c then prepend c (literal? rest) else none

/-- Whether a backslash ends its line. -/
def endsLine (cs : List Char) : Bool :=
  (skipBlanks cs).head? = some '\n'

/-- The rest of a text in three double quotes. The blanks and line breaks after a backslash that
ends its line are left out, which the flag stands for. Two more quotes may stand before the end. -/
def longQuoted? (skipping : Bool) : List Char → Option (List Char × List Char)
  | [] => none
  | '"' :: '"' :: '"' :: '"' :: '"' :: rest => some (['"', '"'], rest)
  | '"' :: '"' :: '"' :: '"' :: rest => some (['"'], rest)
  | '"' :: '"' :: '"' :: rest => some ([], rest)
  | '\\' :: 'x' :: a :: b :: rest => do prepend (← charOfHex? [a, b]) (longQuoted? false rest)
  | '\\' :: 'u' :: a :: b :: c :: d :: rest => do
    prepend (← charOfHex? [a, b, c, d]) (longQuoted? false rest)
  | '\\' :: 'U' :: a :: b :: c :: d :: e :: f :: g :: h :: rest => do
    prepend (← charOfHex? [a, b, c, d, e, f, g, h]) (longQuoted? false rest)
  | '\\' :: c :: rest =>
    if endsLine (c :: rest) then longQuoted? true (c :: rest)
    else do prepend (← simpleEscape? c) (longQuoted? false rest)
  | c :: rest =>
    if c = '\n' || isBlank c then
      if skipping then longQuoted? true rest else prepend c (longQuoted? false rest)
    else if c ≠ '\\' && isTextChar c then prepend c (longQuoted? false rest)
    else none

/-- The rest of a text in three single quotes. -/
def longLiteral? : List Char → Option (List Char × List Char)
  | [] => none
  | '\x27' :: '\x27' :: '\x27' :: '\x27' :: '\x27' :: rest => some (['\x27', '\x27'], rest)
  | '\x27' :: '\x27' :: '\x27' :: '\x27' :: rest => some (['\x27'], rest)
  | '\x27' :: '\x27' :: '\x27' :: rest => some ([], rest)
  | c :: rest => if c = '\n' || isTextChar c then prepend c (longLiteral? rest) else none

/-- A long text without the line break at its start. -/
def dropLineBreak : List Char → List Char
  | '\n' :: rest => rest
  | cs => cs

/-- The value of a text. -/
def textOf (reading : Option (List Char × List Char)) : Option (Toml × List Char) :=
  reading.map fun (text, rest) => (.str (String.ofList text), rest)

/-- Whether a character may stand in a key without quotes. -/
def isKeyChar (c : Char) : Bool :=
  c.isAlphanum || c = '_' || c = '-'

/-- A key without dots. -/
def key? : List Char → Option (String × List Char)
  | '"' :: rest => (quoted? rest).map fun (text, rest) => (String.ofList text, rest)
  | '\x27' :: rest => (literal? rest).map fun (text, rest) => (String.ofList text, rest)
  | cs =>
    if (cs.takeWhile isKeyChar).isEmpty then none
    else some (String.ofList (cs.takeWhile isKeyChar), cs.dropWhile isKeyChar)

/-- The greatest number of the parts of a key, and of containers within each other. -/
def depthLimit : Nat := 80

/-- A key with dots, of at most so many parts: the path of the tables and the key in the last of
them. -/
def keyPathWithin (limit : Nat) (cs : List Char) : Option ((List String × String) × List Char) :=
  match limit with
  | 0 => none
  | limit + 1 => do
    let (key, rest) ← key? cs
    match skipBlanks rest with
    | '.' :: rest => do
      let ((path, last), rest) ← keyPathWithin limit (skipBlanks rest)
      pure ((key :: path, last), rest)
    | rest => pure (([], key), rest)

/-- A key with dots. -/
def keyPath? (cs : List Char) : Option ((List String × String) × List Char) :=
  keyPathWithin depthLimit cs

/-- What follows the sign between a key and its value. -/
def afterEquals? : List Char → Option (List Char)
  | '=' :: rest => some rest
  | _ => none

/-- Whether a character may stand in a value without quotes. -/
def isScalarChar (c : Char) : Bool :=
  c.isAlphanum || c = '_' || c = '-' || c = '+' || c = '.' || c = ':'

/-- The characters of a value without quotes. A date is followed by a time after one blank. -/
def scalarChars (cs : List Char) : List Char × List Char :=
  let first := cs.takeWhile isScalarChar
  match afterDate? first, cs.dropWhile isScalarChar with
  | some [], ' ' :: c :: rest =>
    if c.isDigit then
      (first ++ ' ' :: (c :: rest).takeWhile isScalarChar, (c :: rest).dropWhile isScalarChar)
    else (first, ' ' :: c :: rest)
  | _, rest => (first, rest)

mutual

/-- A value, with at most so many containers within each other. Each step of this and the next two
functions either takes a character or goes from a container to what is in it, so twice the length of
the text is enough fuel. -/
def valueWithin (fuel limit : Nat) (cs : List Char) : Option (Toml × List Char) :=
  match fuel with
  | 0 => none
  | fuel + 1 =>
    match cs, limit with
    | '"' :: '"' :: '"' :: rest, _ => textOf (longQuoted? false (dropLineBreak rest))
    | '"' :: rest, _ => textOf (quoted? rest)
    | '\x27' :: '\x27' :: '\x27' :: rest, _ => textOf (longLiteral? (dropLineBreak rest))
    | '\x27' :: rest, _ => textOf (literal? rest)
    | '[' :: rest, limit + 1 =>
      (itemsWithin fuel limit rest).map fun (items, rest) => (.array items, rest)
    | '{' :: rest, limit + 1 =>
      (bracesWithin fuel limit [] rest).map fun (entries, rest) => (.table .braces entries, rest)
    | cs, _ => (scalar? (scalarChars cs).1).map fun value => (value, (scalarChars cs).2)

/-- The rest of an array. The last value may be followed by a comma. -/
def itemsWithin (fuel limit : Nat) (cs : List Char) : Option (List Toml × List Char) :=
  match fuel with
  | 0 => none
  | fuel + 1 => do
    match ← skipGaps false cs with
    | ']' :: rest => pure ([], rest)
    | cs => do
      let (item, rest) ← valueWithin fuel limit cs
      match ← skipGaps false rest with
      | ',' :: rest => do
        let (items, rest) ← itemsWithin fuel limit rest
        pure (item :: items, rest)
      | ']' :: rest => pure ([item], rest)
      | _ => none

/-- The rest of a table in braces. A key and its value may stand on lines of their own, and the last
entry may be followed by a comma. -/
def bracesWithin (fuel limit : Nat) (entries : Entries) (cs : List Char) :
    Option (Entries × List Char) :=
  match fuel with
  | 0 => none
  | fuel + 1 => do
    match ← skipGaps false cs with
    | '}' :: rest => pure (entries, rest)
    | cs => do
      let ((path, key), rest) ← keyPath? cs
      let rest ← afterEquals? (← skipGaps false rest)
      let (value, rest) ← valueWithin fuel limit (← skipGaps false rest)
      let entries ← entries.assign path key value
      match ← skipGaps false rest with
      | ',' :: rest => bracesWithin fuel limit entries rest
      | '}' :: rest => pure (entries, rest)
      | _ => none

end

/-- A value. -/
def value? (cs : List Char) : Option (Toml × List Char) :=
  valueWithin (2 * cs.length + 2) depthLimit cs

/-- What has been read of a file. -/
structure Progress where
  /-- The entries of the file. -/
  entries : Entries := []
  /-- The path of the table that has been opened last. -/
  opened : List String := []

namespace Progress

/-- Gives a key of the opened table its value. -/
def assign (progress : Progress) (path : List String) (key : String) (value : Toml) :
    Option Progress := do
  let entries ← Entries.changeAt .implied some
    (fun _ inner => inner.assign path key value) progress.opened .header progress.entries
  pure { progress with entries }

/-- Reads a line with a key and its value. -/
def keyLine? (progress : Progress) (cs : List Char) : Option (Progress × List Char) := do
  let ((path, key), rest) ← keyPath? cs
  let (value, rest) ← value? (skipBlanks (← afterEquals? rest))
  pure (← progress.assign path key value, ← endLine? rest)

/-- Reads the rest of a header. -/
def headerLine? (progress : Progress) (cs : List Char) : Option (Progress × List Char) := do
  let ((path, key), rest) ← keyPath? (skipBlanks cs)
  match rest with
  | ']' :: rest =>
    pure (⟨← progress.entries.open? path key, path ++ [key]⟩, ← endLine? rest)
  | _ => none

/-- Reads the rest of a header in double brackets. -/
def listHeaderLine? (progress : Progress) (cs : List Char) : Option (Progress × List Char) := do
  let ((path, key), rest) ← keyPath? (skipBlanks cs)
  match rest with
  | ']' :: ']' :: rest =>
    pure (⟨← progress.entries.openNext? path key, path ++ [key]⟩, ← endLine? rest)
  | _ => none

/-- Reads a line. -/
def line? (progress : Progress) (cs : List Char) : Option (Progress × List Char) :=
  match skipBlanks cs with
  | '[' :: '[' :: rest => progress.listHeaderLine? rest
  | '[' :: rest => progress.headerLine? rest
  | [] => some (progress, [])
  | '\n' :: rest => some (progress, rest)
  | '#' :: rest => (endLine? ('#' :: rest)).map fun rest => (progress, rest)
  | cs => progress.keyLine? cs

/-- Reads lines to the end of the text. Each line takes at least one character, so a text has no
more lines than `fuel`, its length. -/
def linesWithin (fuel : Nat) (progress : Progress) (cs : List Char) : Option Progress :=
  match fuel, cs with
  | _, [] => some progress
  | 0, _ => none
  | fuel + 1, cs => do
    let (progress, rest) ← progress.line? cs
    progress.linesWithin fuel rest

end Progress

/-- A text in which each line ends with one character. A line may end with a carriage return before
the line break, which stands nowhere else. -/
def unifyLineEnds : List Char → Option (List Char)
  | [] => some []
  | '\r' :: '\n' :: rest => (unifyLineEnds rest).map ('\n' :: ·)
  | c :: rest => if c = '\r' then none else (unifyLineEnds rest).map (c :: ·)

/-- A text without the mark of its encoding in front. -/
def dropByteOrderMark : List Char → List Char
  | '\uFEFF' :: rest => rest
  | cs => cs

/-- Reads a file. It is a table. -/
def read? (text : String) : Option Toml := do
  let cs ← unifyLineEnds (dropByteOrderMark text.toList)
  let progress ← Progress.linesWithin cs.length {} cs
  pure (.table .header progress.entries)

end Viewpoint.Toml
