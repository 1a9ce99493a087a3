import Viewpoint.Unicode.CaseFold

/-!
# What patterns match

A node says what a pattern matches: characters, assertions about a position, sequences, choices and
loops. Nodes are built in a simple form: sequences and choices do not contain themselves, literals
that follow each other are one literal, and choices between characters are one set.

* `Node.ofSet`, `Node.ofParts`, `Node.ofBranches` and `Node.repeated` build nodes in that form.
* `Node.leastLength`, `Node.isZeroWidth` and `Node.isFixedAt` say what can be told of all matches.
-/

namespace Viewpoint.Pattern

/-- What a node asserts about the characters around a position. -/
inductive Look where
  | textStart | textEnd
  | lineStart (crlf : Bool)
  | lineEnd (crlf : Bool)
  | wordBoundary (unicode : Bool)
  | notWordBoundary (unicode : Bool)
  | wordStart (unicode : Bool)
  | wordEnd (unicode : Bool)
  | wordStartHalf (unicode : Bool)
  | wordEndHalf (unicode : Bool)
  deriving DecidableEq

/-- What a pattern matches. -/
inductive Node where
  /-- The empty text. -/
  | empty
  /-- The characters of a text, one after the other. -/
  | literal (text : List Char)
  /-- One character of a set. -/
  | chars (set : CodeSet)
  /-- The empty text at the positions of which something holds. -/
  | look (look : Look)
  /-- What its body matches, captured. -/
  | capture (body : Node)
  /-- A node repeated at least and at most so many times, as often as it can or as it must. -/
  | loop (least : Nat) (most : Option Nat) (greedy : Bool) (body : Node)
  /-- Several nodes, one after the other. -/
  | sequence (parts : List Node)
  /-- One of several nodes. -/
  | choice (branches : List Node)

/-- The number of bytes of a character. -/
def utf8Size (code : Nat) : Nat :=
  if code < 0x80 then 1 else if code < 0x800 then 2 else if code < 0x10000 then 3 else 4

/-- The sum of two lengths, if there are any. -/
def addLengths (left right : Option Nat) : Option Nat := do
  return (← left) + (← right)

/-- The smaller one of two lengths, if there are both. -/
def minLength (left right : Option Nat) : Option Nat := do
  return min (← left) (← right)

namespace Node

mutual

/-- Whether the node matches only empty texts. -/
def isZeroWidth : Node → Bool
  | empty => true
  | literal _ => false
  | chars _ => false
  | look _ => true
  | capture body => body.isZeroWidth
  | loop _ _ _ body => body.isZeroWidth
  | sequence parts => areZeroWidth parts
  | choice branches => areZeroWidth branches

/-- Whether nodes match only empty texts. -/
def areZeroWidth : List Node → Bool
  | [] => true
  | node :: nodes => node.isZeroWidth && areZeroWidth nodes

end

mutual

/-- The number of bytes that every match has at least. There is none where a set without members
has to be matched. -/
def leastLength : Node → Option Nat
  | empty => some 0
  | literal text => some (text.map fun c => utf8Size c.toNat).sum
  | chars set => set.ranges.head?.map fun range => utf8Size range.first
  | look _ => some 0
  | capture body => body.leastLength
  | loop least _ _ body => body.leastLength.map (· * least)
  | sequence parts => leastLengthOfParts parts
  | choice branches => leastLengthOfBranches branches

/-- The number of bytes that nodes one after the other match at least. -/
def leastLengthOfParts : List Node → Option Nat
  | [] => some 0
  | node :: nodes => addLengths node.leastLength (leastLengthOfParts nodes)

/-- The number of bytes that one of several nodes matches at least. -/
def leastLengthOfBranches : List Node → Option Nat
  | [] => none
  | [node] => node.leastLength
  | node :: nodes => minLength node.leastLength (leastLengthOfBranches nodes)

end

mutual

/-- Whether every match lies at one end of the text: whether an assertion holds at the start of the
match or, read backward, at its end. -/
def isFixedAt (wanted : Look) (backward : Bool) : Node → Bool
  | look l => l = wanted
  | capture body => body.isFixedAt wanted backward
  | loop least _ _ body => 0 < least && body.isFixedAt wanted backward
  | sequence parts => if backward then endIsFixedAt wanted parts else startIsFixedAt wanted parts
  | choice branches => areFixedAt wanted backward branches
  | _ => false

/-- Whether one of the first nodes, up to one that may match more than the empty text, asserts
something about the start. -/
def startIsFixedAt (wanted : Look) : List Node → Bool
  | [] => false
  | node :: nodes =>
    node.isFixedAt wanted false || (node.isZeroWidth && startIsFixedAt wanted nodes)

/-- Whether one of the last nodes, from one that may match more than the empty text, asserts
something about the end. -/
def endIsFixedAt (wanted : Look) : List Node → Bool
  | [] => false
  | node :: nodes =>
    endIsFixedAt wanted nodes || (areZeroWidth nodes && node.isFixedAt wanted true)

/-- Whether all of several nodes assert something. -/
def areFixedAt (wanted : Look) (backward : Bool) : List Node → Bool
  | [] => true
  | node :: nodes => node.isFixedAt wanted backward && areFixedAt wanted backward nodes

end

mutual

/-- Whether two nodes can stand for each other. Two captures cannot, as each has its own group. -/
def isSame : Node → Node → Bool
  | empty, empty => true
  | literal left, literal right => left = right
  | chars left, chars right => left = right
  | look left, look right => left = right
  | loop least most greedy body, loop least' most' greedy' body' =>
    least = least' && most = most' && greedy == greedy' && isSame body body'
  | sequence left, sequence right => areSame left right
  | choice left, choice right => areSame left right
  | _, _ => false

/-- Whether the nodes of two lists can stand for each other. -/
def areSame : List Node → List Node → Bool
  | [], [] => true
  | left :: lefts, right :: rights => isSame left right && areSame lefts rights
  | _, _ => false

end

/-- One character of a set; a single character is a literal. -/
def ofSet (set : CodeSet) : Node :=
  match set.normalize with
  | ⟨[range]⟩ =>
    if range.first = range.last then literal [Char.ofNat range.first] else chars ⟨[range]⟩
  | set => chars set

/-- A node repeated: matching nothing twice is the same as matching it once, and no repetition at
all is the empty text. -/
def repeated (least : Nat) (most : Option Nat) (greedy : Bool) (body : Node) : Node :=
  let (least, most) :=
    if body.isZeroWidth then (min least 1, some ((most.map (min 1)).getD 1)) else (least, most)
  if most = some 0 then empty
  else if least = 1 ∧ most = some 1 then body
  else loop least most greedy body

/-- The parts that a node stands for in a sequence. -/
def parts : Node → List Node
  | empty => []
  | sequence parts => parts
  | node => [node]

/-- Joins the literals that follow each other. -/
def joinLiterals : List Node → List Node
  | [] => []
  | literal text :: nodes =>
    match joinLiterals nodes with
    | literal more :: rest => literal (text ++ more) :: rest
    | joined => literal text :: joined
  | node :: nodes => node :: joinLiterals nodes

/-- Several nodes, one after the other. -/
def ofParts (nodes : List Node) : Node :=
  match joinLiterals (nodes.flatMap parts) with
  | [] => empty
  | [node] => node
  | parts => sequence parts

/-- The branches that a node stands for in a choice. -/
def branches : Node → List Node
  | choice branches => branches
  | node => [node]

/-- The character of a node that matches only that. -/
def char? : Node → Option Char
  | literal [c] => some c
  | _ => none

/-- The set of a node that matches one character of it. -/
def set? : Node → Option CodeSet
  | chars set => some set
  | _ => none

/-- The single set that branches amount to, if all are characters or all are sets. -/
def setOfBranches? (nodes : List Node) : Option CodeSet :=
  match nodes.mapM char? with
  | some cs => some ⟨cs.map fun c => ⟨c.toNat, c.toNat⟩⟩
  | none => (nodes.mapM set?).map fun sets => ⟨sets.flatMap CodeSet.ranges⟩

/-- One of several branches. -/
def ofFlatBranches (nodes : List Node) : Node :=
  match setOfBranches? nodes with
  | some set => ofSet set
  | none => choice nodes

/-- The longest common start of two lists of nodes. -/
def commonStart : List Node → List Node → List Node
  | left :: lefts, right :: rights =>
    if isSame left right then left :: commonStart lefts rights else []
  | _, _ => []

/-- What all branches start with, if all are sequences. -/
def startOfBranches : List Node → List Node
  | [] => []
  | [sequence parts] => parts
  | sequence parts :: nodes => commonStart parts (startOfBranches nodes)
  | _ => []

/-- One of several nodes. What all of them start with is matched before the choice. -/
def ofBranches (nodes : List Node) : Node :=
  match nodes.flatMap branches with
  | [node] => node
  | nodes =>
    match setOfBranches? nodes, startOfBranches nodes with
    | some set, _ => ofSet set
    | none, [] => choice nodes
    | none, start =>
      let rests := nodes.map fun node => ofParts (node.parts.drop start.length)
      ofParts (start ++ [ofFlatBranches (rests.flatMap branches)])

end Node

end Viewpoint.Pattern
