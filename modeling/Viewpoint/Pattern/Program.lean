import Std.Data.HashMap
import Viewpoint.Pattern.Bytes
import Viewpoint.Pattern.Node
import Viewpoint.Pattern.Term

/-!
# The size of programs

A pattern is searched by a program for its node, a graph of states that read bytes, and by another
one that reads backward. Loops with counts are unfolded, so a short pattern may have a large
program. Programs are limited: the states and the lists of transitions and links within them may
take ten mebibytes.

States that read characters are shared where they go on in the same way. Only the latest state is
remembered for each hash of a continuation, so that what is shared depends on the numbers of the
states.

* `Outline` is what a program consists of, `Outline.lay` counts its states.
* `Node.checkSize` says whether both programs of a node keep to the limit.
-/

namespace Viewpoint.Pattern

/-- What has been laid out of a program. -/
structure ProgramSize where
  /-- The number of states. -/
  states : Nat := 0
  /-- The room of the lists within states. -/
  lists : Nat := 0

namespace ProgramSize

/-- The room of a state without its lists. -/
def stateRoom : Nat := 32

/-- The room of a transition, which is a range of bytes and a state. -/
def transitionRoom : Nat := 8

/-- The room of a link from a choice to a state. -/
def linkRoom : Nat := 4

/-- The room that a program may take. -/
def greatestRoom : Nat := 10 * 1024 * 1024

/-- The size of two parts together. -/
def add (left right : ProgramSize) : ProgramSize :=
  ⟨left.states + right.states, left.lists + right.lists⟩

/-- The size of several parts together. -/
def total (sizes : List ProgramSize) : ProgramSize :=
  sizes.foldl add {}

/-- The room that a program takes. -/
def room (size : ProgramSize) : Nat :=
  size.states * stateRoom + size.lists

end ProgramSize

/-- Laying out a program, which fails when the program becomes too large. -/
abbrev Assembly := StateT ProgramSize (Except Fault)

/-- Adds states and room for lists. The result is the number of the first new state. -/
def addStates (states lists : Nat) : Assembly Nat := fun size =>
  let larger := size.add ⟨states, lists⟩
  if ProgramSize.greatestRoom < larger.room then .error .tooLarge
  else .ok (size.states, larger)

/-- Adds a state without lists. -/
def addState : Assembly Unit := do
  let _ ← addStates 1 0

/-- Adds links to a choice. -/
def addLinks (count : Nat) : Assembly Unit := do
  let _ ← addStates 0 (count * ProgramSize.linkRoom)

/-- Where a part of a program ends. What follows is linked to its last state. -/
inductive Exit where
  /-- The last state has a place for one state to go on with. -/
  | plain
  /-- The last state is a choice, to which each link is added. -/
  | choice
  deriving DecidableEq

/-- Links the end of a part to another state. -/
def Exit.link : Exit → Assembly Unit
  | plain => pure ()
  | choice => addLinks 1

/-- A hash with one more number. -/
def mixHash (hash : UInt64) (value : Nat) : UInt64 :=
  (hash ^^^ value.toUInt64) * 0x100000001B3

/-- The hash of nothing. -/
def emptyHash : UInt64 := 0xCBF29CE484222325

/-- A step from a state: the bytes that are read and the state that follows. -/
structure Transition where
  /-- The bytes. -/
  bytes : ByteRange
  /-- The number of the state. -/
  target : Nat
  deriving DecidableEq

/-- What has been remembered of states: for each hash, what the state that was added last goes on
with, and its number. -/
abbrev Memory (α : Type) := Std.HashMap Nat (α × Nat)

/-- The state that goes on in a given way, which is added unless it is remembered. -/
def Memory.share {α : Type} [DecidableEq α] (memory : Memory α) (hash : Nat) (key : α)
    (lists : Nat) : Assembly (Nat × Memory α) := do
  match memory[hash]? with
  | some (known, state) =>
    if known = key then pure (state, memory) else add
  | none => add
where
  /-- Adds the state and remembers it. -/
  add : Assembly (Nat × Memory α) := do
    let state ← addStates 1 lists
    pure (state, memory.insert hash (key, state))

/-- The hash of the transitions of a state that reads forward. -/
def transitionsHash (transitions : List Transition) : Nat :=
  let hash := transitions.foldl (fun hash transition =>
    mixHash (mixHash (mixHash hash transition.bytes.first) transition.bytes.last)
      transition.target) emptyHash
  hash.toNat % 10000

/-- The hash of a state that reads backward: the bytes that are read and the state that follows. -/
def stepHash (transition : Transition) : Nat :=
  let hash := mixHash (mixHash (mixHash emptyHash transition.target) transition.bytes.first)
    transition.bytes.last
  hash.toNat % 1000

/-- Sequences with the same first range, by that range. -/
def groupByFirst : List (List ByteRange) → List (ByteRange × List (List ByteRange))
  | [] => []
  | [] :: sequences => groupByFirst sequences
  | (first :: rest) :: sequences =>
    match groupByFirst sequences with
    | (next, rests) :: groups =>
      if next = first then (first, rest :: rests) :: groups
      else (first, [rest]) :: (next, rests) :: groups
    | [] => [(first, [rest])]

/-- Lays out the states that read sequences of at most `length` ranges and go on with a state. The
result is the number of the state that starts. -/
def layForward (target length : Nat) (sequences : List (List ByteRange)) :
    StateT (Memory (List Transition)) Assembly Nat :=
  match length with
  | 0 => pure target
  | length + 1 => do
    let transitions ← (groupByFirst sequences).mapM fun (bytes, rests) => do
      if rests.all List.isEmpty then pure (Transition.mk bytes target)
      else pure ⟨bytes, ← layForward target length rests⟩
    let lists := transitions.length * ProgramSize.transitionRoom
    fun memory => memory.share (transitionsHash transitions) transitions lists

/-- Lays out the states that read a sequence from its last range to the first one and go on with a
state. -/
def layBackward (target : Nat) (memory : Memory Transition) :
    List ByteRange → Assembly (Memory Transition)
  | [] => pure memory
  | bytes :: rest => do
    let step : Transition := ⟨bytes, target⟩
    let (state, memory) ← memory.share (stepHash step) step 0
    layBackward state memory rest

/-- Lays out a set of characters that is given by its sequences. Forward it ends in a state without
lists; backward it starts with a choice between the sequences, too. -/
def laySet (backward : Bool) (sequences : List (List ByteRange)) : Assembly Unit := do
  if backward then
    addState
    let target ← addStates 1 0
    let _ ← sequences.foldlM (fun memory sequence => do
      addLinks 1
      layBackward target memory sequence) ∅
  else
    let target ← addStates 1 0
    let _ ← (layForward target 4 sequences).run ∅

/-- What a program consists of. -/
inductive Outline where
  /-- A number of states with room for their lists, wherever they are. -/
  | fixed (states lists : Nat)
  /-- A set of characters, by its sequences of bytes. -/
  | chars (sequences : List (List ByteRange))
  /-- A part between two states that note the position. -/
  | capture (body : Outline)
  /-- A part repeated. The flag says whether it reads at least one byte. -/
  | loop (least : Nat) (most : Option Nat) (consumes : Bool) (body : Outline)
  /-- Several parts, in the order in which they are read. -/
  | sequence (parts : List Outline)
  /-- One of several parts. -/
  | choice (branches : List Outline)

/-- Cuts a list of texts at the empty ones. Several empty texts at the start are like one. -/
def cutAtEmpty (texts : List (List Nat)) : List (List (List Nat)) :=
  match texts with
  | [] :: rest => [] :: cut (rest.dropWhile List.isEmpty)
  | texts => cut texts
where
  /-- Cuts at each empty text. -/
  cut : List (List Nat) → List (List (List Nat))
    | [] => [[]]
    | [] :: rest => [] :: cut rest
    | text :: rest =>
      match cut rest with
      | part :: parts => (text :: part) :: parts
      | [] => [[text]]

/-- What remains of the texts that start with a byte. -/
def restsAfter (byte : Nat) (texts : List (List Nat)) : List (List Nat) :=
  texts.filterMap fun
    | first :: rest => if first = byte then some rest else none
    | [] => none

/-- The size of the states that read one of several texts of at most `length` bytes. Texts share the
states of what they start with; where one of them is finished, the ones after it share nothing with
the ones before. -/
def treeSize (length : Nat) (texts : List (List Nat)) : ProgramSize :=
  match length with
  | 0 => {}
  | length + 1 =>
    let parts := cutAtEmpty texts
    let filled := parts.filter fun part => !part.isEmpty
    let own := filled.map fun part =>
      let bytes := (part.filterMap List.head?).eraseDups
      let below := bytes.map fun byte =>
        let rests := restsAfter byte part
        if rests.all List.isEmpty then {} else treeSize length rests
      let lists := if bytes.length = 1 then 0 else bytes.length * ProgramSize.transitionRoom
      .total (⟨1, lists⟩ :: below)
    .total (⟨1, (filled.length + parts.length - 1) * ProgramSize.linkRoom⟩ :: own)

/-- The outline of a choice between texts, which ends in a state of its own. -/
def Outline.ofTexts (texts : List (List Nat)) : Outline :=
  let longest := (texts.map List.length).foldl max 0
  let size := treeSize longest texts
  .fixed (size.states + 1) size.lists

/-- The bytes of a text in the order in which they are read. -/
def bytesRead (backward : Bool) (text : List Char) : List Nat :=
  let bytes := text.flatMap fun c => utf8Bytes c.toNat
  if backward then bytes.reverse else bytes

/-- The bytes of nodes that are all literals. -/
def literalTexts? (backward : Bool) (nodes : List Node) : Option (List (List Nat)) :=
  nodes.mapM fun
    | .literal text => some (bytesRead backward text)
    | _ => none

mutual

/-- The outline of the program for a node. Only the program that reads forward captures. -/
def Node.outline (backward : Bool) : Node → Outline
  | .empty | .look _ => .fixed 1 0
  | .literal text => .fixed (text.map fun c => utf8Size c.toNat).sum 0
  | .chars set =>
    if set.isAscii then .fixed 2 (set.ranges.length * ProgramSize.transitionRoom)
    else .chars (set.ranges.flatMap byteSequences)
  | .capture body =>
    if backward then body.outline backward else .capture (body.outline backward)
  | .loop least most _ body =>
    .loop least most (body.leastLength.any (0 < ·)) (body.outline backward)
  | .sequence parts =>
    let outlines := outlines backward parts
    .sequence (if backward then outlines.reverse else outlines)
  | .choice branches =>
    match literalTexts? backward branches with
    | some texts => .ofTexts texts
    | none => .choice (outlines backward branches)

/-- The outlines of the programs for nodes. -/
def outlines (backward : Bool) : List Node → List Outline
  | [] => []
  | node :: nodes => node.outline backward :: outlines backward nodes

end

/-- Lays out a part so many times, one after the other, after a part with a given end. -/
def layTimes (part : Assembly Exit) : Nat → Exit → Assembly Exit
  | 0, before => pure before
  | count + 1, before => do
    let exit ← part
    before.link
    layTimes part count exit

/-- Lays out a part so many times; none is a state that reads nothing. -/
def layExactly (part : Assembly Exit) (count : Nat) : Assembly Exit := do
  if count = 0 then
    addState
    pure .plain
  else layTimes part count .plain

/-- Lays out up to so many times a part, each of them behind a choice whether to leave. -/
def layUpTo (part : Assembly Exit) : Nat → Exit → Assembly Exit
  | 0, before => pure before
  | count + 1, before => do
    addState
    let exit ← part
    before.link
    addLinks 2
    layUpTo part count exit

/-- Lays out a part repeated. -/
def layLoop (least : Nat) (most : Option Nat) (consumes : Bool) (part : Assembly Exit) :
    Assembly Exit := do
  match most with
  | some most =>
    if least = 0 ∧ most = 1 then
      addState
      let exit ← part
      addState
      addLinks 2
      exit.link
      pure .plain
    else
      let before ← layExactly part least
      if least = most then pure before
      else
        addState
        let exit ← layUpTo part (most - least) before
        exit.link
        pure .plain
  | none =>
    if least = 0 then
      if consumes then
        addState
        let exit ← part
        addLinks 1
        exit.link
        pure .choice
      else
        let exit ← part
        let _ ← addStates 3 0
        exit.link
        addLinks 4
        pure .plain
    else
      let before ← layTimes part (least - 1) .plain
      let exit ← part
      addState
      before.link
      exit.link
      addLinks 1
      pure .choice

namespace Outline

mutual

/-- Lays out the states of an outline. -/
def lay (backward : Bool) : Outline → Assembly Exit
  | fixed states lists => do
    let _ ← addStates states lists
    pure .plain
  | chars sequences => do
    laySet backward sequences
    pure .plain
  | capture body => do
    addState
    let exit ← body.lay backward
    addState
    exit.link
    pure .plain
  | loop least most consumes body => layLoop least most consumes (body.lay backward)
  | sequence parts => layParts backward .plain parts
  | choice branches => do
    layBranches backward 0 branches
    pure .plain

/-- Lays out parts one after the other, after a part with a given end. -/
def layParts (backward : Bool) (before : Exit) : List Outline → Assembly Exit
  | [] => pure before
  | part :: parts => do
    let exit ← part.lay backward
    before.link
    layParts backward exit parts

/-- Lays out branches, some of which have been laid out. The choice between them and the state in
which they meet come after the second one. -/
def layBranches (backward : Bool) (done : Nat) : List Outline → Assembly Unit
  | [] => pure ()
  | branch :: branches => do
    let exit ← branch.lay backward
    if done = 1 then
      addState
      addState
    addLinks 1
    exit.link
    layBranches backward (done + 1) branches

end

end Outline

namespace Node

/-- Lays out the program for a node. It starts with a state that reads nothing or, unless every
match lies at the end of the text where reading starts, with a loop over all bytes; it ends with a
state for the match, and the whole match is captured. -/
def layProgram (backward : Bool) (node : Node) : Assembly Unit := do
  let isFixed := node.isFixedAt (if backward then .textEnd else .textStart) backward
  if isFixed then addState
  else
    let _ ← addStates 3 ProgramSize.transitionRoom
    addLinks 2
  let outline := node.outline backward
  let exit ← (if backward then outline else .capture outline).lay backward
  addState
  exit.link

/-- Whether a node is a choice between so many literals that they are looked for directly. -/
def isWordList : Node → Bool
  | .choice branches => 3000 ≤ branches.length && (literalTexts? false branches).isSome
  | _ => false

/-- Whether the programs for a node keep to the limit. Long lists of literals need none. -/
def checkSize (node : Node) : Except Fault Unit := do
  if !node.isWordList then
    let _ ← (layProgram false node).run {}
    let _ ← (layProgram true node).run {}

end Node

end Viewpoint.Pattern
