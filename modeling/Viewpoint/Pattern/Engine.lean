/-!
# Pattern engines

Criteria may ask that a text matches a pattern. What texts are patterns and what they match is left
to an engine. All that is relied on is that it compiles a text or refuses it, that a pattern answers
for every text whether it is found there, and that it keeps the text that it is compiled from.

* `Pattern` is a compiled pattern.
* `PatternEngine` compiles patterns, and `Pattern.Fault` are the reasons why it may refuse a text.
-/

namespace Viewpoint

/-- A compiled pattern. -/
structure Pattern where
  /-- The text of the pattern. -/
  source : String
  /-- Whether some part of a text matches the pattern. -/
  isMatch : String → Bool

/-- Why a text is no pattern. -/
inductive Pattern.Fault where
  /-- A group is not closed. -/
  | groupUnclosed
  /-- A closing parenthesis has no opening one. -/
  | groupUnopened
  /-- A group name is empty, unfinished or has a character that names do not have. -/
  | groupName
  /-- Two groups have the same name. -/
  | groupNameTaken
  /-- Assertions about the text before or after a position are not supported. -/
  | lookAround
  /-- A group of flags is empty, unfinished, repeats a flag or ends with a minus. -/
  | flags
  /-- No flag has this letter. -/
  | unknownFlag (letter : Char)
  /-- A repetition has nothing to repeat. -/
  | nothingToRepeat
  /-- A count is missing, unfinished or too large to be read. -/
  | count
  /-- The greatest count is smaller than the least. -/
  | countOrder
  /-- A class is not closed. -/
  | classUnclosed
  /-- A range ends before it starts. -/
  | classRange
  /-- An end of a range is not a single character. -/
  | classRangeEnd
  /-- An escape in a class stands for no characters. -/
  | classEscape
  /-- The pattern ends within an escape. -/
  | escapeUnfinished
  /-- No escape has this letter. -/
  | unknownEscape (letter : Char)
  /-- References to groups are not supported. -/
  | backreference
  /-- A hexadecimal escape has other characters, is empty or names no character. -/
  | hexadecimal
  /-- No property has this name. -/
  | unknownProperty
  /-- Parts that match single bytes or need Unicode are not allowed where Unicode is off. -/
  | unicode
  /-- Terms are nested too deeply. -/
  | tooDeep
  /-- The program of the pattern is too large. -/
  | tooLarge
  deriving DecidableEq

/-- What compiles patterns. -/
class PatternEngine where
  /-- The pattern with a text, or why there is none. -/
  compile : String → Except Pattern.Fault Pattern
  /-- A pattern keeps the text that it is compiled from. -/
  source_of_compile : ∀ {text : String} {pattern : Pattern},
    compile text = .ok pattern → pattern.source = text

end Viewpoint
