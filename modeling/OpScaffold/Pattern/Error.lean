import OpScaffold.Pattern.Syntax
import OpScaffold.Text.Quoted

/-!
# OpScaffold.Pattern.Error

What can be wrong with a pattern. A fault is shown with its position in the pattern, and with line
and column too if the pattern has several lines.
-/

namespace OpScaffold.Pattern

/-- A fault in the wording of a pattern. -/
inductive Fault
  | danglingBackslash
  | missingName (what : Text)
  | unterminatedName (terminator : Char)
  | malformedName (name : Text)
  | unknownName (name : Text)
  | repeatedName (name : Text) (group previous : Nat)
  | incompleteEscape (escape : Text)
  | badEscape (escape : Text)
  | octalTooLarge (escape : Text)
  | missingBrace
  | unknownCharacter (name : Text)
  | openGroup
  | groupInLookbehind
  | noSuchGroup (n : Nat)
  | groupZero
  | unterminatedSet
  | badRange (low high : Text)
  | minimumAboveMaximum
  | nothingToRepeat
  | multipleRepeat
  | unexpectedEnd
  | unknownExtension (text : Text)
  | unterminatedComment
  | unterminatedGroup
  | unbalancedParenthesis
  | thirdBranch
  | lateFlags
  | localeFlag
  | rivalFlags
  | unknownFlag
  | flagsNotEnded
  | globalFlagOn
  | globalFlagOff
  | missingFlag
  | missingColon
  | characterSetOff
  | flagOnAndOff
  | variableLookbehind
  | repetitionInTemplate (greed : Greed)
  deriving DecidableEq, Repr

/-- The word for a kind of repetition. -/
def Greed.word : Greed → Text
  | .greedy => "MAX_REPEAT".toList
  | .lazy => "MIN_REPEAT".toList
  | .possessive => "POSSESSIVE_REPEAT".toList

/-- The text shown for a fault, without its position. -/
def Fault.message : Fault → Text
  | .danglingBackslash => "bad escape (end of pattern)".toList
  | .missingName what => "missing ".toList ++ what
  | .unterminatedName terminator =>
    "missing ".toList ++ [terminator] ++ ", unterminated name".toList
  | .malformedName name => "bad character in group name ".toList ++ name.quoted
  | .unknownName name => "unknown group name ".toList ++ name.quoted
  | .repeatedName name group previous =>
    "redefinition of group name ".toList ++ name.quoted ++ " as group ".toList
      ++ Text.ofNat group ++ "; was group ".toList ++ Text.ofNat previous
  | .incompleteEscape escape => "incomplete escape ".toList ++ escape
  | .badEscape escape => "bad escape ".toList ++ escape
  | .octalTooLarge escape =>
    "octal escape value ".toList ++ escape ++ " outside of range 0-0o377".toList
  | .missingBrace => "missing \x7b".toList
  | .unknownCharacter name => "undefined character name ".toList ++ name.quoted
  | .openGroup => "cannot refer to an open group".toList
  | .groupInLookbehind =>
    "cannot refer to group defined in the same lookbehind subpattern".toList
  | .noSuchGroup n => "invalid group reference ".toList ++ Text.ofNat n
  | .groupZero => "bad group number".toList
  | .unterminatedSet => "unterminated character set".toList
  | .badRange low high => "bad character range ".toList ++ low ++ ['-'] ++ high
  | .minimumAboveMaximum => "min repeat greater than max repeat".toList
  | .nothingToRepeat => "nothing to repeat".toList
  | .multipleRepeat => "multiple repeat".toList
  | .unexpectedEnd => "unexpected end of pattern".toList
  | .unknownExtension text => "unknown extension ".toList ++ text
  | .unterminatedComment => "missing ), unterminated comment".toList
  | .unterminatedGroup => "missing ), unterminated subpattern".toList
  | .unbalancedParenthesis => "unbalanced parenthesis".toList
  | .thirdBranch => "conditional backref with more than two branches".toList
  | .lateFlags => "global flags not at the start of the expression".toList
  | .localeFlag => "bad inline flags: cannot use 'L' flag with a str pattern".toList
  | .rivalFlags => "bad inline flags: flags 'a', 'u' and 'L' are incompatible".toList
  | .unknownFlag => "unknown flag".toList
  | .flagsNotEnded => "missing -, : or )".toList
  | .globalFlagOn => "bad inline flags: cannot turn on global flag".toList
  | .globalFlagOff => "bad inline flags: cannot turn off global flag".toList
  | .missingFlag => "missing flag".toList
  | .missingColon => "missing :".toList
  | .characterSetOff => "bad inline flags: cannot turn off flags 'a', 'u' and 'L'".toList
  | .flagOnAndOff => "bad inline flags: flag turned on and off".toList
  | .variableLookbehind => "look-behind requires fixed-width pattern".toList
  | .repetitionInTemplate greed =>
    "internal: unsupported template operator ".toList ++ greed.word

/-- How many digits a number may have. -/
def digitLimit : Nat := 4300

/-- Why a text is not a pattern. -/
inductive Refusal
  /-- A fault, at a position if it has one. -/
  | fault (f : Fault) (position : Option Nat)
  /-- Two character sets are asked for at once. -/
  | rivalCharacterSets
  /-- A number of repetitions is out of bounds. -/
  | tooManyRepetitions
  /-- A number of repetitions has too many digits to be read. -/
  | tooManyDigits (digits : Nat)
  /-- A lookbehind goes back too far. -/
  | distantLookbehind
  deriving DecidableEq, Repr

/-- A refused pattern. -/
structure Error where
  refusal : Refusal
  pattern : Text
  deriving DecidableEq, Repr

/-- The line of a position in a text, and its column there, both from one. -/
def lineAndColumn (t : Text) (position : Nat) : Nat × Nat :=
  let before := t.take position
  (before.count '\n' + 1, (before.reverse.takeWhile (· != '\n')).length + 1)

/-- The text shown for a refused pattern. -/
def Error.message (e : Error) : Text :=
  match e.refusal with
  | .fault f none => f.message
  | .fault f (some position) =>
    let (line, column) := lineAndColumn e.pattern position
    f.message ++ " at position ".toList ++ Text.ofNat position
      ++ (if e.pattern.contains '\n' then
            " (line ".toList ++ Text.ofNat line ++ ", column ".toList ++ Text.ofNat column
              ++ [')']
          else [])
  | .rivalCharacterSets => "ASCII and UNICODE flags are incompatible".toList
  | .tooManyRepetitions => "the repetition number is too large".toList
  | .tooManyDigits digits =>
    "Exceeds the limit (".toList ++ Text.ofNat digitLimit
      ++ " digits) for integer string conversion: value has ".toList ++ Text.ofNat digits
      ++ " digits; use sys.set_int_max_str_digits() to increase the limit".toList
  | .distantLookbehind => "invalid SRE code".toList

end OpScaffold.Pattern
