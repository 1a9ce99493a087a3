import Viewpoint.Unicode.CodeSet

/-!
# Characters as bytes

Texts are searched byte by byte, in the encoding of one to four bytes a character. The characters of
a range are those of a few sequences of byte ranges, each of which may be combined freely.

* `byteSequences` are the sequences of a range of code points, in increasing order.
-/

namespace Viewpoint.Pattern

/-- The bytes from a first to a last one. -/
structure ByteRange where
  /-- The smallest byte. -/
  first : Nat
  /-- The greatest byte. -/
  last : Nat
  deriving DecidableEq

/-- The bytes of a character. -/
def utf8Bytes (code : Nat) : List Nat :=
  if code < 0x80 then [code]
  else if code < 0x800 then [0xC0 + code / 0x40, trailing code]
  else if code < 0x10000 then [0xE0 + code / 0x1000, trailing (code / 0x40), trailing code]
  else [0xF0 + code / 0x40000, trailing (code / 0x1000), trailing (code / 0x40), trailing code]
where
  /-- The byte of the last six bits. -/
  trailing (bits : Nat) : Nat := 0x80 + bits % 0x40

/-- The characters with one, two, three and four bytes. The surrogates are no characters. -/
def encodedRanges : List CodeRange :=
  [⟨0, 0x7F⟩, ⟨0x80, 0x7FF⟩, ⟨0x800, 0xD7FF⟩, ⟨0xE000, 0xFFFF⟩, ⟨0x10000, 0x10FFFF⟩]

/-- Cuts a range so that each part lies in one block of the smallest size or consists of whole
blocks, and so on for the greater sizes. -/
def cutIntoBlocks (first last : Nat) : List Nat → List CodeRange
  | [] => [⟨first, last⟩]
  | size :: sizes =>
    if first / size = last / size then [⟨first, last⟩]
    else
      let start := if first % size = 0 then first else (first / size + 1) * size
      let before : List CodeRange := if first % size = 0 then [] else [⟨first, start - 1⟩]
      if start / size = last / size then before ++ [⟨start, last⟩]
      else if last % size = size - 1 then before ++ cutIntoBlocks start last sizes
      else
        let stop := last / size * size
        before ++ cutIntoBlocks start (stop - 1) sizes ++ [⟨stop, last⟩]

/-- The sequences of byte ranges of the characters of a range, in increasing order. -/
def byteSequences (range : CodeRange) : List (List ByteRange) :=
  (CodeSet.interRanges [range] encodedRanges).flatMap fun part =>
    if part.last < 0x80 then [[⟨part.first, part.last⟩]]
    else
      (cutIntoBlocks part.first part.last [0x40, 0x1000, 0x40000]).map fun block =>
        List.zipWith ByteRange.mk (utf8Bytes block.first) (utf8Bytes block.last)

end Viewpoint.Pattern
