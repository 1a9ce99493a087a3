import Viewpoint.Pattern.Engine
import Viewpoint.Unicode.Property
import Viewpoint.Vocabulary

/-!
# Patterns as written

A pattern is a regular expression: literals, classes of characters, assertions about a position,
repetition, alternatives and groups. A term is the tree of a pattern as it is written; what it
matches still depends on the flags that are set around it.

* `Term` and `ClassTerm` are the trees.
* `Term.depth` is the nesting of a term, which is limited.
-/

namespace Viewpoint.Pattern

/-- The switches that change how a pattern is read or what it matches. -/
inductive Flag where
  | caseInsensitive | multiLine | dotMatchesNewline | swapGreed | unicode | crlf | extended
  deriving DecidableEq

/-- The flag of a letter. -/
def Flag.ofLetter? : Char → Option Flag
  | 'i' => some caseInsensitive
  | 'm' => some multiLine
  | 's' => some dotMatchesNewline
  | 'U' => some swapGreed
  | 'u' => some unicode
  | 'R' => some crlf
  | 'x' => some extended
  | _ => none

/-- Flags with whether they are set or cleared. -/
abbrev FlagChanges := List (Flag × Bool)

/-- A single character of a pattern. -/
structure Literal where
  /-- The character. -/
  char : Char
  /-- Whether it is written by two hexadecimal digits, as bytes are. -/
  byte : Bool := false
  deriving DecidableEq

/-- What is asserted about a position. -/
inductive Assertion where
  | lineStart | lineEnd | textStart | textEnd
  | wordBoundary | notWordBoundary | wordStart | wordEnd | wordStartHalf | wordEndHalf
  deriving DecidableEq

/-- The classes with an escape of their own. -/
inductive EscapedClass where
  | digit | space | word
  deriving DecidableEq

/-- The classes of ASCII characters that have a name within brackets. -/
inductive AsciiClass where
  | alnum | alpha | ascii | blank | cntrl | digit | graph | lower | print | punct | space | upper
  | word | xdigit
  deriving DecidableEq

instance : Vocabulary AsciiClass where
  words := [.alnum, .alpha, .ascii, .blank, .cntrl, .digit, .graph, .lower, .print, .punct, .space,
    .upper, .word, .xdigit]
  spelling
    | .alnum => "alnum"
    | .alpha => "alpha"
    | .ascii => "ascii"
    | .blank => "blank"
    | .cntrl => "cntrl"
    | .digit => "digit"
    | .graph => "graph"
    | .lower => "lower"
    | .print => "print"
    | .punct => "punct"
    | .space => "space"
    | .upper => "upper"
    | .word => "word"
    | .xdigit => "xdigit"

/-- A property of characters, asked for by its name or by a name and a value. -/
inductive PropertyQuery where
  | named (name : List Char)
  | valued (name value : List Char)
  deriving DecidableEq

/-- The operations between the parts of a class. -/
inductive ClassOperation where
  | intersection | difference | symmetricDifference
  deriving DecidableEq

/-- A class of characters as written. -/
inductive ClassTerm where
  | literal (literal : Literal)
  | range (first last : Literal)
  | ascii (negated : Bool) (name : AsciiClass)
  | escaped (negated : Bool) (name : EscapedClass)
  | property (negated : Bool) (query : PropertyQuery)
  | bracketed (negated : Bool) (body : ClassTerm)
  | union (parts : List ClassTerm)
  | operation (operation : ClassOperation) (left right : ClassTerm)

/-- A pattern as written. -/
inductive Term where
  | empty
  | flags (changes : FlagChanges)
  | literal (literal : Literal)
  | dot
  | assertion (assertion : Assertion)
  | charClass (body : ClassTerm)
  | repetition (least : Nat) (most : Option Nat) (greedy : Bool) (body : Term)
  | group (capturing : Bool) (changes : FlagChanges) (body : Term)
  | alternatives (branches : List Term)
  | sequence (parts : List Term)

/-- The term of parts that follow each other. -/
def Term.ofParts : List Term → Term
  | [] => .empty
  | [part] => part
  | parts => .sequence parts

/-- The term of a class that lists its parts. -/
def ClassTerm.ofParts : List ClassTerm → ClassTerm
  | [part] => part
  | parts => .union parts

namespace ClassTerm

mutual

/-- How deeply brackets, lists and operations are nested. -/
def depth : ClassTerm → Nat
  | bracketed _ body => depth body + 1
  | union parts => depthAll parts + if parts.isEmpty then 0 else 1
  | operation _ left right => max (depth left) (depth right) + 1
  | _ => 0

/-- The greatest depth of several classes. -/
def depthAll : List ClassTerm → Nat
  | [] => 0
  | part :: parts => max (depth part) (depthAll parts)

end

end ClassTerm

namespace Term

mutual

/-- How deeply repetitions, groups, alternatives, sequences and classes are nested. -/
def depth : Term → Nat
  | charClass body => body.depth
  | repetition _ _ _ body => depth body + 1
  | group _ _ body => depth body + 1
  | alternatives branches => depthAll branches + 1
  | sequence parts => depthAll parts + 1
  | _ => 0

/-- The greatest depth of several terms. -/
def depthAll : List Term → Nat
  | [] => 0
  | part :: parts => max (depth part) (depthAll parts)

end

end Term

end Viewpoint.Pattern
