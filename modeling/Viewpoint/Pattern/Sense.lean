import Viewpoint.Pattern.Node
import Viewpoint.Pattern.Term

/-!
# What terms match

The node of a term no longer depends on flags: they have been applied to the characters and the
assertions below them.

* `Term.nodeFrom` gives the node of a term where certain flags are set.
* `Term.node` gives the node of a whole pattern, whose nesting is limited.
-/

namespace Viewpoint.Pattern

/-- The flags that are set at a place of a pattern. -/
structure Flags where
  /-- Letters match both cases. -/
  caseInsensitive : Bool := false
  /-- Line assertions hold at every line. -/
  multiLine : Bool := false
  /-- The dot matches line ends too. -/
  dotMatchesNewline : Bool := false
  /-- Classes and word assertions follow the Unicode standard. -/
  unicode : Bool := true
  /-- Lines end in a carriage return, a line feed or both. -/
  crlf : Bool := false
  /-- Repetitions are as short as they can be unless they are marked. -/
  swapGreed : Bool := false

namespace Flags

/-- The flags after one change. How blanks are read does not affect what matches. -/
def change (flags : Flags) : Flag × Bool → Flags
  | (.caseInsensitive, on) => { flags with caseInsensitive := on }
  | (.multiLine, on) => { flags with multiLine := on }
  | (.dotMatchesNewline, on) => { flags with dotMatchesNewline := on }
  | (.unicode, on) => { flags with unicode := on }
  | (.crlf, on) => { flags with crlf := on }
  | (.swapGreed, on) => { flags with swapGreed := on }
  | (.extended, _) => flags

/-- The flags after several changes. -/
def apply (flags : Flags) (changes : FlagChanges) : Flags :=
  changes.foldl change flags

end Flags

/-- The characters of an ASCII class. -/
def AsciiClass.set : AsciiClass → CodeSet
  | alnum => ⟨[⟨0x30, 0x39⟩, ⟨0x41, 0x5A⟩, ⟨0x61, 0x7A⟩]⟩
  | alpha => ⟨[⟨0x41, 0x5A⟩, ⟨0x61, 0x7A⟩]⟩
  | ascii => ⟨[⟨0, 0x7F⟩]⟩
  | blank => ⟨[⟨0x9, 0x9⟩, ⟨0x20, 0x20⟩]⟩
  | cntrl => ⟨[⟨0, 0x1F⟩, ⟨0x7F, 0x7F⟩]⟩
  | digit => ⟨[⟨0x30, 0x39⟩]⟩
  | graph => ⟨[⟨0x21, 0x7E⟩]⟩
  | lower => ⟨[⟨0x61, 0x7A⟩]⟩
  | print => ⟨[⟨0x20, 0x7E⟩]⟩
  | punct => ⟨[⟨0x21, 0x2F⟩, ⟨0x3A, 0x40⟩, ⟨0x5B, 0x60⟩, ⟨0x7B, 0x7E⟩]⟩
  | space => ⟨[⟨0x9, 0xD⟩, ⟨0x20, 0x20⟩]⟩
  | upper => ⟨[⟨0x41, 0x5A⟩]⟩
  | word => ⟨[⟨0x30, 0x39⟩, ⟨0x41, 0x5A⟩, ⟨0x5F, 0x5F⟩, ⟨0x61, 0x7A⟩]⟩
  | xdigit => ⟨[⟨0x30, 0x39⟩, ⟨0x41, 0x46⟩, ⟨0x61, 0x66⟩]⟩

/-- The characters of a class with an escape of its own. -/
def EscapedClass.set (unicode : Bool) : EscapedClass → CodeSet
  | digit => if unicode then Unicode.digit else AsciiClass.digit.set
  | space => if unicode then Unicode.space else AsciiClass.space.set
  | word => if unicode then Unicode.word else AsciiClass.word.set

/-- The class that a query asks for. -/
def PropertyQuery.set? : PropertyQuery → Option CodeSet
  | named name => Unicode.property? name
  | valued name value => Unicode.propertyValue? name value

namespace Flags

/-- Adds the other cases of the members where letters match both cases. Outside Unicode only ASCII
letters have cases. -/
def fold (flags : Flags) (set : CodeSet) : CodeSet :=
  if !flags.caseInsensitive then set
  else if flags.unicode then set.closeUnderCase
  else set.closeUnderCase.inter (.interval 0 0x7F)

/-- The members or, if negated, everything else. Outside Unicode a class has ASCII characters only,
as single bytes above them are no text. -/
def negate (flags : Flags) (negated : Bool) (set : CodeSet) : Except Fault CodeSet :=
  let result := if negated then set.between else set.normalize
  if flags.unicode || result.isAscii then .ok result else .error .unicode

/-- The code point of a literal within brackets. -/
def classCode (flags : Flags) (literal : Literal) : Except Fault Nat :=
  if flags.unicode || literal.char.toNat < 0x80 then .ok literal.char.toNat else .error .unicode

end Flags

/-- The members that an operation between two classes leaves. -/
def ClassOperation.apply : ClassOperation → CodeSet → CodeSet → CodeSet
  | intersection, left, right => left.inter right
  | difference, left, right => left.difference right
  | symmetricDifference, left, right => left.symmetricDifference right

namespace ClassTerm

mutual

/-- The characters of a class. Brackets, names and properties are closed under case before they are
negated. -/
def set (flags : Flags) : ClassTerm → Except Fault CodeSet
  | literal l => return .single (← flags.classCode l)
  | range first last => return .interval (← flags.classCode first) (← flags.classCode last)
  | ascii negated name => flags.negate negated (flags.fold name.set)
  | escaped negated name => flags.negate negated (name.set flags.unicode)
  | property negated query =>
    if !flags.unicode then .error .unicode
    else
      match query.set? with
      | none => .error .unknownProperty
      | some found => flags.negate negated (flags.fold found)
  | bracketed negated body => do flags.negate negated (flags.fold (← set flags body))
  | union parts => setAll flags parts
  | operation op left right =>
    return op.apply (flags.fold (← set flags left)) (flags.fold (← set flags right))

/-- The characters of several classes. -/
def setAll (flags : Flags) : List ClassTerm → Except Fault CodeSet
  | [] => .ok ∅
  | part :: parts => return (← set flags part).union (← setAll flags parts)

end

end ClassTerm

/-- The node of a character outside brackets. -/
def Literal.node (flags : Flags) (literal : Literal) : Except Fault Node :=
  if !flags.unicode && literal.byte && 0x80 ≤ literal.char.toNat then .error .unicode
  else
    let code := literal.char.toNat
    if flags.unicode || code < 0x80 then .ok (.ofSet (flags.fold (.single code)))
    else .ok (.literal [literal.char])

/-- The node of a dot: any character or, unless it is told otherwise, any but those of line ends. -/
def dotNode (flags : Flags) : Except Fault Node :=
  if !flags.unicode then .error .unicode
  else if flags.dotMatchesNewline then .ok (.chars .full)
  else if flags.crlf then .ok (.chars (CodeSet.between ⟨[⟨0xA, 0xA⟩, ⟨0xD, 0xD⟩]⟩))
  else .ok (.chars (CodeSet.single 0xA).between)

/-- What an assertion looks at. -/
def Assertion.look (flags : Flags) : Assertion → Look
  | lineStart => if flags.multiLine then .lineStart flags.crlf else .textStart
  | lineEnd => if flags.multiLine then .lineEnd flags.crlf else .textEnd
  | textStart => .textStart
  | textEnd => .textEnd
  | wordBoundary => .wordBoundary flags.unicode
  | notWordBoundary => .notWordBoundary flags.unicode
  | wordStart => .wordStart flags.unicode
  | wordEnd => .wordEnd flags.unicode
  | wordStartHalf => .wordStartHalf flags.unicode
  | wordEndHalf => .wordEndHalf flags.unicode

namespace Term

mutual

/-- The node of a term, and the flags that are set after it. A change of flags lasts to the end of
the group around it, alternatives included. -/
def nodeFrom (flags : Flags) : Term → Except Fault (Node × Flags)
  | empty => .ok (.empty, flags)
  | Term.flags changes => .ok (.empty, flags.apply changes)
  | literal l => return (← l.node flags, flags)
  | dot => return (← dotNode flags, flags)
  | assertion a => .ok (.look (a.look flags), flags)
  | charClass body => return (.ofSet (← body.set flags), flags)
  | repetition least most greedy body => do
    let (node, flags) ← nodeFrom flags body
    pure (.repeated least most (greedy != flags.swapGreed) node, flags)
  | group capturing changes body => do
    let (node, _) ← nodeFrom (flags.apply changes) body
    pure (if capturing then .capture node else node, flags)
  | alternatives branches => do
    let (nodes, flags) ← nodesFrom flags branches
    pure (.ofBranches nodes, flags)
  | sequence parts => do
    let (nodes, flags) ← nodesFrom flags parts
    pure (.ofParts nodes, flags)

/-- The nodes of terms that stand next to each other, and the flags that are set after them. -/
def nodesFrom (flags : Flags) : List Term → Except Fault (List Node × Flags)
  | [] => .ok ([], flags)
  | part :: parts => do
    let (node, flags) ← nodeFrom flags part
    let (nodes, flags) ← nodesFrom flags parts
    pure (node :: nodes, flags)

end

/-- The greatest nesting that a pattern may have. -/
def greatestDepth : Nat := 250

/-- The node of a whole pattern. Patterns that are nested too deeply are refused. -/
def node (term : Term) : Except Fault Node := do
  if greatestDepth < term.depth then .error .tooDeep
  else
    let (node, _) ← nodeFrom {} term
    pure node

end Term

end Viewpoint.Pattern
