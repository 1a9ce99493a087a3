import Viewpoint.Numeral
import Viewpoint.Pattern.Term

/-!
# Reading patterns

A pattern is read from left to right. Groups and bracketed classes that are still open are kept on a
stack, so the reader never looks back. Where blanks are ignored, they and comments are skipped
between the parts of a pattern.

* `readTerm` reads a whole text.
* `Reading.step` reads one part and consumes at least one character; `ClassReading.step` does the
  same within brackets.
-/

namespace Viewpoint.Pattern

/-- Skips blanks and comments, which run to the end of their line. -/
def skipExtended (inComment : Bool) : List Char → List Char
  | [] => []
  | c :: rest =>
    if inComment then skipExtended (c ≠ '\n') rest
    else if Unicode.isSpace c then skipExtended false rest
    else if c = '#' then skipExtended true rest
    else c :: rest

/-- Skips blanks and comments where they are ignored. -/
def skipBlanks (extended : Bool) (cs : List Char) : List Char :=
  if extended then skipExtended false cs else cs

/-- Skipping consumes characters only. -/
theorem length_skipExtended_le (inComment : Bool) (cs : List Char) :
    (skipExtended inComment cs).length ≤ cs.length := by
  induction cs generalizing inComment with
  | nil => simp [skipExtended]
  | cons c rest ih =>
    simp only [skipExtended, List.length_cons]
    split
    · exact Nat.le_succ_of_le (ih _)
    · split
      · exact Nat.le_succ_of_le (ih _)
      · split
        · exact Nat.le_succ_of_le (ih _)
        · exact Nat.le_refl _

/-- Skipping consumes characters only. -/
theorem length_skipBlanks_le (extended : Bool) (cs : List Char) :
    (skipBlanks extended cs).length ≤ cs.length := by
  unfold skipBlanks
  split
  · exact length_skipExtended_le _ _
  · exact Nat.le_refl _

/-- The leading characters that pass a test, skipping ignored blanks after each, and the rest. -/
def takeSkipping (extended : Bool) (test : Char → Bool) : List Char → List Char × List Char
  | [] => ([], [])
  | c :: rest =>
    if test c then
      let (taken, rest) := takeSkipping extended test (skipBlanks extended rest)
      (c :: taken, rest)
    else ([], c :: rest)
termination_by cs => cs.length
decreasing_by
  have h := length_skipBlanks_le extended rest
  simp only [List.length_cons]
  omega

/-- The greatest count that can be read. -/
def greatestCount : Nat := 1 <<< 32 - 1

/-- Reads a count, with blanks around it. -/
def readCount (extended : Bool) (cs : List Char) : Except Fault (Nat × List Char) :=
  let (digits, rest) := takeSkipping extended Char.isDigit (cs.dropWhile Unicode.isSpace)
  let value := numberOfDecimal digits
  if digits.isEmpty || greatestCount < value then .error .count
  else .ok (value, rest.dropWhile Unicode.isSpace)

/-- Reads the counts of a repetition after the opening brace, the closing brace included. -/
def readCounts (extended : Bool) (cs : List Char) :
    Except Fault ((Nat × Option Nat) × List Char) := do
  let (least, rest) ← readCount extended (skipBlanks extended cs)
  match rest with
  | '}' :: rest => pure ((least, some least), skipBlanks extended rest)
  | ',' :: rest =>
    match skipBlanks extended rest with
    | '}' :: rest => pure ((least, none), skipBlanks extended rest)
    | rest => do
      let (most, rest) ← readCount extended rest
      match rest with
      | '}' :: rest =>
        if most < least then .error .countOrder
        else pure ((least, some most), skipBlanks extended rest)
      | _ => .error .count
  | _ => .error .count

/-- The character that hexadecimal digits name. -/
def charOfHex (digits : List Char) : Except Fault Char :=
  match (numberOfHex? digits).bind charOfCode? with
  | none => .error .hexadecimal
  | some c => if digits.isEmpty then .error .hexadecimal else .ok c

/-- Takes a number of hexadecimal digits, skipping ignored blanks after each. -/
def takeHexDigits (extended : Bool) : Nat → List Char → Except Fault (List Char × List Char)
  | 0, cs => .ok ([], cs)
  | _ + 1, [] => .error .escapeUnfinished
  | count + 1, c :: rest =>
    if (hexDigit? c).isNone then .error .hexadecimal
    else do
      let (digits, rest) ← takeHexDigits extended count (skipBlanks extended rest)
      pure (c :: digits, rest)

/-- Reads a hexadecimal escape after its letter: a fixed number of digits, or digits in braces. -/
def readHexadecimal (extended : Bool) (count : Nat) (cs : List Char) :
    Except Fault (Literal × List Char) :=
  match skipBlanks extended cs with
  | [] => .error .escapeUnfinished
  | '{' :: rest =>
    let (digits, rest) := takeSkipping extended (· ≠ '}') (skipBlanks extended rest)
    match rest with
    | [] => .error .escapeUnfinished
    | _ :: rest => do
      let c ← charOfHex digits
      pure (⟨c, false⟩, skipBlanks extended rest)
  | rest => do
    let (digits, rest) ← takeHexDigits extended count rest
    let c ← charOfHex digits
    pure (⟨c, count = 2⟩, rest)

/-- Splits a list at the first place where another list stands. -/
def splitAtFirst (mark : List Char) : List Char → Option (List Char × List Char)
  | [] => none
  | c :: rest =>
    if mark.isPrefixOf (c :: rest) then some ([], (c :: rest).drop mark.length)
    else (splitAtFirst mark rest).map fun (before, after) => (c :: before, after)

/-- The property that the text in braces asks for, and whether its absence is asked for. -/
def queryOfText (text : List Char) : Bool × PropertyQuery :=
  match splitAtFirst ['!', '='] text with
  | some (name, value) => (true, .valued name value)
  | none =>
    match splitAtFirst [':'] text with
    | some (name, value) => (false, .valued name value)
    | none =>
      match splitAtFirst ['='] text with
      | some (name, value) => (false, .valued name value)
      | none => (false, .named text)

/-- Reads a property after its letter: one more letter, or text in braces. -/
def readProperty (extended negated : Bool) (cs : List Char) :
    Except Fault (ClassTerm × List Char) :=
  match skipBlanks extended cs with
  | [] => .error .escapeUnfinished
  | '\\' :: _ => .error .unknownProperty
  | '{' :: rest =>
    let (text, rest) := takeSkipping extended (· ≠ '}') (skipBlanks extended rest)
    match rest with
    | [] => .error .escapeUnfinished
    | _ :: rest =>
      let (absent, query) := queryOfText text
      .ok (.property (negated != absent) query, rest)
  | c :: rest => .ok (.property negated (.named [c]), skipBlanks extended rest)

/-- What a single escape or character stands for. -/
inductive Atom where
  | literal (literal : Literal)
  | assertion (assertion : Assertion)
  | charClass (body : ClassTerm)

/-- The term of an atom. -/
def Atom.term : Atom → Term
  | literal l => .literal l
  | assertion a => .assertion a
  | charClass body => .charClass body

/-- The assertion about words that has a name in braces. -/
def wordAssertion? : List Char → Option Assertion
  | ['s', 't', 'a', 'r', 't'] => some .wordStart
  | ['e', 'n', 'd'] => some .wordEnd
  | ['s', 't', 'a', 'r', 't', '-', 'h', 'a', 'l', 'f'] => some .wordStartHalf
  | ['e', 'n', 'd', '-', 'h', 'a', 'l', 'f'] => some .wordEndHalf
  | _ => none

/-- Whether a character may stand in the name of an assertion. -/
def isAssertionNameChar (c : Char) : Bool :=
  c.isAlpha || c = '-'

/-- Reads a word boundary after its letter. A brace that starts with a letter or a hyphen names the
assertion; any other brace is left for a repetition. -/
def readBoundary (extended : Bool) (cs : List Char) : Except Fault (Atom × List Char) :=
  match cs with
  | '{' :: rest =>
    match skipBlanks extended rest with
    | [] => .error .count
    | c :: rest =>
      if isAssertionNameChar c then
        let (name, rest) := takeSkipping extended isAssertionNameChar (c :: rest)
        match wordAssertion? name, rest with
        | some assertion, '}' :: rest => .ok (.assertion assertion, rest)
        | _, _ => .error .count
      else .ok (.assertion .wordBoundary, cs)
  | _ => .ok (.assertion .wordBoundary, cs)

/-- Whether a character stands for itself after a backslash: ASCII characters do, unless they are
letters or digits, which are reserved, or angle brackets. -/
def isEscapable (c : Char) : Bool :=
  c.toNat < 0x80 && !c.isAlphanum && c ≠ '<' && c ≠ '>'

/-- Reads an escape after its backslash. -/
def readEscape (extended : Bool) : List Char → Except Fault (Atom × List Char)
  | [] => .error .escapeUnfinished
  | c :: rest =>
    if c.isDigit then .error .backreference
    else if isEscapable c then .ok (.literal ⟨c, false⟩, rest)
    else
      match c with
      | 'x' => hexadecimal 2 rest
      | 'u' => hexadecimal 4 rest
      | 'U' => hexadecimal 8 rest
      | 'p' => property false rest
      | 'P' => property true rest
      | 'd' => .ok (.charClass (.escaped false .digit), rest)
      | 'D' => .ok (.charClass (.escaped true .digit), rest)
      | 's' => .ok (.charClass (.escaped false .space), rest)
      | 'S' => .ok (.charClass (.escaped true .space), rest)
      | 'w' => .ok (.charClass (.escaped false .word), rest)
      | 'W' => .ok (.charClass (.escaped true .word), rest)
      | 'a' => .ok (.literal ⟨'\x07', false⟩, rest)
      | 'f' => .ok (.literal ⟨'\x0C', false⟩, rest)
      | 't' => .ok (.literal ⟨'\t', false⟩, rest)
      | 'n' => .ok (.literal ⟨'\n', false⟩, rest)
      | 'r' => .ok (.literal ⟨'\r', false⟩, rest)
      | 'v' => .ok (.literal ⟨'\x0B', false⟩, rest)
      | 'A' => .ok (.assertion .textStart, rest)
      | 'z' => .ok (.assertion .textEnd, rest)
      | 'b' => readBoundary extended rest
      | 'B' => .ok (.assertion .notWordBoundary, rest)
      | '<' => .ok (.assertion .wordStart, rest)
      | '>' => .ok (.assertion .wordEnd, rest)
      | other => .error (.unknownEscape other)
where
  /-- A hexadecimal escape. -/
  hexadecimal (count : Nat) (rest : List Char) : Except Fault (Atom × List Char) :=
    (readHexadecimal extended count rest).map fun (l, rest) => (.literal l, rest)
  /-- A property escape. -/
  property (negated : Bool) (rest : List Char) : Except Fault (Atom × List Char) :=
    (readProperty extended negated rest).map fun (body, rest) => (.charClass body, rest)

/-- A bracketed class that is still open. -/
structure ClassLevel where
  /-- Whether the class is negated. -/
  negated : Bool
  /-- The parts read since the last operation, the latest first. -/
  parts : List ClassTerm
  /-- The operation that waits for its right side, with its left side. -/
  pending : Option (ClassOperation × ClassTerm)

namespace ClassLevel

/-- The level with one more part. -/
def push (level : ClassLevel) (part : ClassTerm) : ClassLevel :=
  { level with parts := part :: level.parts }

/-- Everything that has been read of the class. -/
def body (level : ClassLevel) : ClassTerm :=
  let right := ClassTerm.ofParts level.parts.reverse
  match level.pending with
  | none => right
  | some (operation, left) => .operation operation left right

/-- The level that waits for the right side of an operation. -/
def operate (level : ClassLevel) (operation : ClassOperation) : ClassLevel :=
  { level with parts := [], pending := some (operation, level.body) }

end ClassLevel

/-- How far a bracketed class has been read. -/
structure ClassReading where
  /-- The innermost open class. -/
  level : ClassLevel
  /-- The classes around it, the innermost first. -/
  outer : List ClassLevel
  /-- What is left to read. -/
  rest : List Char

/-- Opens a class after its bracket. A minus at the start stands for itself, and so does a closing
bracket that comes first. -/
def openClass (extended : Bool) (cs : List Char) : Except Fault (ClassLevel × List Char) :=
  let (negated, afterSign) :=
    match skipBlanks extended cs with
    | '^' :: rest => (true, skipBlanks extended rest)
    | rest => (false, rest)
  let (minuses, rest) := takeSkipping extended (· = '-') afterSign
  let level : ClassLevel := ⟨negated, minuses.map fun c => .literal ⟨c, false⟩, none⟩
  match minuses, rest with
  | _, [] => .error .classUnclosed
  | [], ']' :: rest => .ok (level.push (.literal ⟨']', false⟩), skipBlanks extended rest)
  | _, rest => .ok (level, rest)

/-- Reads a named ASCII class after its bracket and colon, if there is one. -/
def readAsciiClass? (cs : List Char) : Option (ClassTerm × List Char) :=
  let (negated, cs) :=
    match cs with
    | '^' :: rest => (true, rest)
    | rest => (false, rest)
  match cs.dropWhile (· ≠ ':') with
  | ':' :: ']' :: rest =>
    (Vocabulary.ofSpelling? (String.ofList (cs.takeWhile (· ≠ ':')))).map fun name =>
      (.ascii negated name, rest)
  | _ => none

/-- The character after the next one, as far as a range is concerned: ignored blanks do not
count. -/
def peekAfter (extended : Bool) (rest : List Char) : Option Char :=
  if extended then
    let trimmed := rest.dropWhile Unicode.isSpace
    let found :=
      match trimmed with
      | '#' :: comment => comment.dropWhile Unicode.isSpace
      | other => other
    if found.isEmpty then rest.head? else found.head?
  else rest.head?

/-- Reads a character or an escape within brackets. -/
def readClassAtom (extended : Bool) : List Char → Except Fault (Atom × List Char)
  | [] => .error .classUnclosed
  | '\\' :: rest => readEscape extended rest
  | c :: rest => .ok (.literal ⟨c, false⟩, rest)

/-- The class of an atom; assertions have none. -/
def Atom.classTerm : Atom → Except Fault ClassTerm
  | literal l => .ok (.literal l)
  | charClass body => .ok body
  | assertion _ => .error .classEscape

/-- The single character of an atom. -/
def Atom.rangeEnd : Atom → Except Fault Literal
  | literal l => .ok l
  | _ => .error .classRangeEnd

/-- Reads a character, an escape or a range within brackets. A minus before the closing bracket or
before another minus starts no range. -/
def readClassPart (extended : Bool) (cs : List Char) : Except Fault (ClassTerm × List Char) := do
  let (first, rest) ← readClassAtom extended cs
  match skipBlanks extended rest with
  | [] => .error .classUnclosed
  | '-' :: rest =>
    match peekAfter extended rest with
    | some ']' | some '-' => pure (← first.classTerm, '-' :: rest)
    | _ => do
      let (last, rest) ← readClassAtom extended (skipBlanks extended rest)
      let firstEnd ← first.rangeEnd
      let lastEnd ← last.rangeEnd
      if lastEnd.char < firstEnd.char then .error .classRange
      else pure (.range firstEnd lastEnd, rest)
  | rest => do pure (← first.classTerm, rest)

namespace ClassReading

/-- Goes on with one more part. -/
def add (reading : ClassReading) (part : ClassTerm) (rest : List Char) : ClassReading :=
  { reading with level := reading.level.push part, rest }

/-- Goes on with the right side of an operation. -/
def operate (reading : ClassReading) (operation : ClassOperation) (rest : List Char) :
    ClassReading :=
  { reading with level := reading.level.operate operation, rest }

/-- Reads one part of a class: either the whole class is finished, with the rest of the pattern, or
reading goes on. -/
def step (extended : Bool) (reading : ClassReading) :
    Except Fault ((ClassTerm × List Char) ⊕ ClassReading) :=
  match skipBlanks extended reading.rest with
  | [] => .error .classUnclosed
  | '[' :: rest =>
    let named :=
      match rest with
      | ':' :: name => readAsciiClass? name
      | _ => none
    match named with
    | some (part, rest) => .ok (.inr (reading.add part rest))
    | none => do
      let (level, rest) ← openClass extended rest
      pure (.inr ⟨level, reading.level :: reading.outer, rest⟩)
  | ']' :: rest =>
    let closed := ClassTerm.bracketed reading.level.negated reading.level.body
    match reading.outer with
    | [] => .ok (.inl (closed, rest))
    | level :: outer => .ok (.inr ⟨level.push closed, outer, rest⟩)
  | '&' :: '&' :: rest => .ok (.inr (reading.operate .intersection rest))
  | '-' :: '-' :: rest => .ok (.inr (reading.operate .difference rest))
  | '~' :: '~' :: rest => .ok (.inr (reading.operate .symmetricDifference rest))
  | cs => do
    let (part, rest) ← readClassPart extended cs
    pure (.inr (reading.add part rest))

/-- Reads parts until the class is finished. Each part consumes a character, so as many steps as
there are characters, and one more, are enough. -/
def run (extended : Bool) : Nat → ClassReading → Except Fault (ClassTerm × List Char)
  | 0, _ => .error .classUnclosed
  | steps + 1, reading => do
    match ← reading.step extended with
    | .inl finished => pure finished
    | .inr reading => run extended steps reading

end ClassReading

/-- Reads a bracketed class after its bracket. -/
def readClass (extended : Bool) (cs : List Char) : Except Fault (ClassTerm × List Char) := do
  let (level, rest) ← openClass extended cs
  ClassReading.run extended (rest.length + 1) ⟨level, [], rest⟩

/-- Whether a character may stand in a group name, at its start or later. -/
def isNameChar (first : Bool) (c : Char) : Bool :=
  if first then c = '_' || Unicode.nameStart.contains c.toNat
  else c = '_' || c = '.' || c = '[' || c = ']' || Unicode.nameContinue.contains c.toNat

/-- Reads a group name after its opening bracket, the closing bracket included. -/
def readGroupName (cs : List Char) : Except Fault (List Char × List Char) :=
  match cs.takeWhile (· ≠ '>'), cs.dropWhile (· ≠ '>') with
  | first :: others, _ :: rest =>
    if isNameChar true first && others.all (isNameChar false) then .ok (first :: others, rest)
    else .error .groupName
  | _, _ => .error .groupName

/-- Reads flags up to the colon or the parenthesis after them. `set` says whether the flags that
follow are set or cleared, and `negated` whether a minus has been read. -/
def readFlags (changes : FlagChanges) (negated : Bool) :
    List Char → Except Fault (FlagChanges × List Char)
  | [] => .error .flags
  | c :: rest =>
    if c = ':' || c = ')' then .ok (changes.reverse, c :: rest)
    else if c = '-' then
      match negated, rest with
      | false, next :: _ =>
        if next = ':' || next = ')' then .error .flags else readFlags changes true rest
      | _, _ => .error .flags
    else
      match Flag.ofLetter? c with
      | none => .error (.unknownFlag c)
      | some flag =>
        if changes.any (·.1 = flag) then .error .flags
        else readFlags ((flag, !negated) :: changes) negated rest

/-- A group that is still open, with what was read around it. -/
structure Level where
  /-- The parts before the group, the latest first. -/
  parts : List Term
  /-- The finished alternatives around the group, the latest first. -/
  branches : List Term
  /-- Whether blanks were ignored before the group. -/
  extended : Bool
  /-- Whether the group captures. -/
  capturing : Bool
  /-- The flags that the group changes. -/
  changes : FlagChanges

/-- How far a pattern has been read. -/
structure Reading where
  /-- What is left to read. -/
  rest : List Char
  /-- Whether blanks are ignored. -/
  extended : Bool := false
  /-- The group names so far. -/
  names : List (List Char) := []
  /-- The parts of the current alternative, the latest first. -/
  parts : List Term := []
  /-- The finished alternatives of the current group, the latest first. -/
  branches : List Term := []
  /-- The open groups, the innermost first. -/
  levels : List Level := []

namespace Reading

/-- Goes on with one more part. -/
def add (reading : Reading) (part : Term) (rest : List Char) : Reading :=
  { reading with parts := part :: reading.parts, rest }

/-- Everything that has been read of the current group. -/
def body (reading : Reading) : Term :=
  let last := Term.ofParts reading.parts.reverse
  match reading.branches with
  | [] => last
  | branches => .alternatives (last :: branches).reverse

/-- Repeats the last part, as often as possible unless a question mark follows. Flags cannot be
repeated. -/
def repeatLast (reading : Reading) (least : Nat) (most : Option Nat) (rest : List Char) :
    Except Fault Reading :=
  match reading.parts with
  | [] | .empty :: _ | .flags _ :: _ => .error .nothingToRepeat
  | part :: parts =>
    match rest with
    | '?' :: rest =>
      .ok { reading with parts := .repetition least most false part :: parts, rest }
    | rest => .ok { reading with parts := .repetition least most true part :: parts, rest }

/-- Goes on inside a group. -/
def openGroup (reading : Reading) (capturing : Bool) (changes : FlagChanges) (rest : List Char) :
    Reading :=
  { reading with
    rest
    parts := []
    branches := []
    extended := (changes.lookup .extended).getD reading.extended
    levels := ⟨reading.parts, reading.branches, reading.extended, capturing, changes⟩
      :: reading.levels }

/-- Reads what follows an opening parenthesis: a group name, flags or nothing. -/
def readGroup (reading : Reading) (cs : List Char) : Except Fault Reading :=
  match skipBlanks reading.extended cs with
  | '?' :: '=' :: _ | '?' :: '!' :: _ | '?' :: '<' :: '=' :: _ | '?' :: '<' :: '!' :: _ =>
    .error .lookAround
  | '?' :: 'P' :: '<' :: rest => named rest
  | '?' :: '<' :: rest => named rest
  | '?' :: rest => do
    let (changes, rest) ← readFlags [] false rest
    match rest with
    | ')' :: rest =>
      if changes.isEmpty then .error .nothingToRepeat
      else
        let extended := (changes.lookup .extended).getD reading.extended
        pure { reading.add (.flags changes) rest with extended }
    | _ :: rest => pure (reading.openGroup false changes rest)
    | [] => .error .flags
  | rest => .ok (reading.openGroup true [] rest)
where
  /-- A group with a name. -/
  named (cs : List Char) : Except Fault Reading := do
    let (name, rest) ← readGroupName cs
    if reading.names.contains name then .error .groupNameTaken
    else pure (({ reading with names := name :: reading.names }).openGroup true [] rest)

/-- Closes the innermost group. -/
def closeGroup (reading : Reading) (rest : List Char) : Except Fault Reading :=
  match reading.levels with
  | [] => .error .groupUnopened
  | level :: levels =>
    .ok { reading with
      rest
      extended := level.extended
      parts := .group level.capturing level.changes reading.body :: level.parts
      branches := level.branches
      levels }

/-- Reads one part of a pattern: either the pattern is finished or reading goes on. -/
def step (reading : Reading) : Except Fault (Term ⊕ Reading) :=
  match skipBlanks reading.extended reading.rest with
  | [] => if reading.levels.isEmpty then .ok (.inl reading.body) else .error .groupUnclosed
  | '(' :: rest => (reading.readGroup rest).map .inr
  | ')' :: rest => (reading.closeGroup rest).map .inr
  | '|' :: rest =>
    let branch := Term.ofParts reading.parts.reverse
    .ok (.inr { reading with rest, parts := [], branches := branch :: reading.branches })
  | '[' :: rest => do
    let (body, rest) ← readClass reading.extended rest
    pure (.inr (reading.add (.charClass body) rest))
  | '?' :: rest => (reading.repeatLast 0 (some 1) rest).map .inr
  | '*' :: rest => (reading.repeatLast 0 none rest).map .inr
  | '+' :: rest => (reading.repeatLast 1 none rest).map .inr
  | '{' :: rest => do
    let ((least, most), rest) ← readCounts reading.extended rest
    (reading.repeatLast least most rest).map .inr
  | '\\' :: rest => do
    let (atom, rest) ← readEscape reading.extended rest
    pure (.inr (reading.add atom.term rest))
  | '.' :: rest => .ok (.inr (reading.add .dot rest))
  | '^' :: rest => .ok (.inr (reading.add (.assertion .lineStart) rest))
  | '$' :: rest => .ok (.inr (reading.add (.assertion .lineEnd) rest))
  | c :: rest => .ok (.inr (reading.add (.literal ⟨c, false⟩) rest))

/-- Reads parts until the pattern is finished. Each part consumes a character, so as many steps as
there are characters, and one more, are enough. -/
def run : Nat → Reading → Except Fault Term
  | 0, _ => .error .groupUnclosed
  | steps + 1, reading => do
    match ← reading.step with
    | .inl term => pure term
    | .inr reading => run steps reading

end Reading

/-- Reads a text as a pattern. -/
def readTerm (text : List Char) : Except Fault Term :=
  Reading.run (text.length + 1) { rest := text }

end Viewpoint.Pattern
