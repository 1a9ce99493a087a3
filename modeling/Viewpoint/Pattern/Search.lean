import Viewpoint.Pattern.Sense

/-!
# Searching a text

A pattern occurs in a text if some part of the text matches it. Sets of positions are numbers whose
bits are the positions; a node turns the set of positions where a match may start into the set of
positions where it may end, so the whole text is searched at once.

* `Node.plan` prepares a node for a text, `Plan.run` follows positions through it.
* `Node.occursIn` says whether a node matches a part of a text.
-/

namespace Viewpoint.Pattern

/-- A node prepared for one text: characters and assertions are replaced by the positions at which
they hold. -/
inductive Plan where
  /-- Every position stays. -/
  | stay
  /-- The positions of a set go on by one. -/
  | advance (allowed : Nat)
  /-- The positions of a set stay. -/
  | guard (allowed : Nat)
  /-- One plan and then another. -/
  | seq (first second : Plan)
  /-- Either of two plans. -/
  | choice (left right : Plan)
  /-- A plan repeated: so many times, and then up to so many times more. -/
  | loop (least more : Nat) (body : Plan)

namespace Plan

/-- Applies a step a number of times, or until no position is left. -/
def times (step : Nat → Nat) : Nat → Nat → Nat
  | 0, positions => positions
  | count + 1, positions => if positions = 0 then 0 else times step count (step positions)

/-- Adds what a step reaches, a number of times or until nothing is added. -/
def spread (step : Nat → Nat) : Nat → Nat → Nat
  | 0, positions => positions
  | count + 1, positions =>
    let wider := positions ||| step positions
    if wider = positions then positions else spread step count wider

/-- The positions that are reached from those of a set. -/
def run : Plan → Nat → Nat
  | stay, positions => positions
  | advance allowed, positions => (positions &&& allowed) <<< 1
  | guard allowed, positions => positions &&& allowed
  | seq first second, positions => second.run (first.run positions)
  | choice left right, positions => left.run positions ||| right.run positions
  | loop least more body, positions => spread body.run more (times body.run least positions)

end Plan

/-- The set of the positions whose characters pass a test. -/
def positionsWhere (test : Char → Bool) : List Char → Nat
  | [] => 0
  | c :: rest => 2 * positionsWhere test rest + (test c).toNat

/-- The set of the positions, the one after the text included, at which something holds of the
characters before and after. -/
def positionsBetween (test : Option Char → Option Char → Bool) (before : Option Char) :
    List Char → Nat
  | [] => (test before none).toNat
  | c :: rest =>
    2 * positionsBetween test (some c) rest + (test before (some c)).toNat

/-- Whether a character belongs to words. -/
def isWordChar (unicode : Bool) (c : Option Char) : Bool :=
  match c with
  | none => false
  | some c => (EscapedClass.word.set unicode).contains c.toNat

/-- Whether an assertion holds between two characters; at the ends of the text one is missing. -/
def Look.holds (before after : Option Char) : Look → Bool
  | textStart => before.isNone
  | textEnd => after.isNone
  | lineStart false => before.isNone || before = some '\n'
  | lineStart true =>
    before.isNone || before = some '\n' || (before = some '\r' && after ≠ some '\n')
  | lineEnd false => after.isNone || after = some '\n'
  | lineEnd true =>
    after.isNone || after = some '\r' || (after = some '\n' && before ≠ some '\r')
  | wordBoundary unicode => isWordChar unicode before != isWordChar unicode after
  | notWordBoundary unicode => isWordChar unicode before == isWordChar unicode after
  | wordStart unicode => !isWordChar unicode before && isWordChar unicode after
  | wordEnd unicode => isWordChar unicode before && !isWordChar unicode after
  | wordStartHalf unicode => !isWordChar unicode before
  | wordEndHalf unicode => !isWordChar unicode after

namespace Node

mutual

/-- The node prepared for a text. A loop without end needs no more rounds than there are positions,
as each useful round reaches a new one. -/
def plan (text : List Char) : Node → Plan
  | empty => .stay
  | literal cs =>
    cs.foldr (fun c rest => .seq (.advance (positionsWhere (· = c) text)) rest) .stay
  | chars set => .advance (positionsWhere (fun c => set.contains c.toNat) text)
  | look l => .guard (positionsBetween (fun before after => l.holds before after) none text)
  | capture body => body.plan text
  | loop least most _ body =>
    let more :=
      match most with
      | some most => most - least
      | none => text.length + 1
    .loop least more (body.plan text)
  | sequence parts => planOfParts text parts
  | choice branches => planOfBranches text branches

/-- Nodes one after the other, prepared for a text. -/
def planOfParts (text : List Char) : List Node → Plan
  | [] => .stay
  | node :: nodes => .seq (node.plan text) (planOfParts text nodes)

/-- One of several nodes, prepared for a text. -/
def planOfBranches (text : List Char) : List Node → Plan
  | [] => .advance 0
  | [node] => node.plan text
  | node :: nodes => .choice (node.plan text) (planOfBranches text nodes)

end

/-- Whether the node matches some part of a text. -/
def occursIn (node : Node) (text : List Char) : Bool :=
  (node.plan text).run (1 <<< (text.length + 1) - 1) ≠ 0

end Node

end Viewpoint.Pattern
