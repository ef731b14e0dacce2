import OpScaffold.Text.Case
import OpScaffold.Text.Blank
import OpScaffold.Text.Classes

/-!
# OpScaffold.Pattern.Syntax

Patterns as trees. A pattern tells which lines end a block; it has characters and sets of them,
sequences and alternatives, groups and references to them, conditions on the surrounding text,
and repetition.

The width of a pattern is the least and the greatest number of characters that it matches. A
condition on the text before a place needs a pattern of one fixed width.
-/

namespace OpScaffold.Pattern

/-- A setting of a pattern or of a part of it. -/
inductive Flag
  | ignoreCase
  | locale
  | multiline
  | dotAll
  | verbose
  | ascii
  | unicode
  | template
  deriving DecidableEq, Repr

/-- The settings in force. -/
abbrev Flags := List Flag

namespace Flag

/-- The flag that a letter switches. -/
def ofChar? : Char → Option Flag
  | 'i' => some .ignoreCase
  | 'L' => some .locale
  | 'm' => some .multiline
  | 's' => some .dotAll
  | 'x' => some .verbose
  | 'a' => some .ascii
  | 'u' => some .unicode
  | 't' => some .template
  | _ => none

/-- Whether the flag chooses a character set; a part of a pattern has one of these. -/
def isCharacterSet : Flag → Bool
  | .locale | .ascii | .unicode => true
  | _ => false

/-- Whether the flag holds for whole patterns only. -/
def isGlobal : Flag → Bool
  | .template => true
  | _ => false

end Flag

/-- The settings within a part that turns `on` and `off` some of them; a new character set
replaces the outer one. -/
def Flags.within (outer on off : Flags) : Flags :=
  let kept := if on.any Flag.isCharacterSet then outer.filter (!·.isCharacterSet) else outer
  (kept ++ on).filter (!off.contains ·)

/-- A class of characters with a letter of its own. -/
inductive CharClass
  | digit
  | blank
  | word
  deriving DecidableEq, Repr

/-- Whether a character belongs to a class, of ASCII characters only or of all. -/
def CharClass.contains (ascii : Bool) : CharClass → Char → Bool
  | .digit, c => if ascii then c.isDigit else isDecimalDigit c
  | .blank, c => if ascii then [9, 10, 11, 12, 13, 32].contains c.toNat else isBlank c
  | .word, c => if ascii then Text.isAsciiWord c || c == '_' else isWordChar c

/-- An item of a set of characters; characters are given by their codes. -/
inductive SetItem
  | code (n : Nat)
  | range (low high : Nat)
  | ofClass (c : CharClass) (negated : Bool)
  deriving DecidableEq, Repr

/-- A condition on a place in the text. -/
inductive Anchor
  | lineStart
  | lineEnd
  | textStart
  | textEnd
  | boundary
  | noBoundary
  deriving DecidableEq, Repr

/-- How a repetition tries its counts: from many to few, from few to many, or the most only. -/
inductive Greed
  | greedy
  | lazy
  | possessive
  deriving DecidableEq, Repr

/-- The least and the greatest number of characters that a pattern matches, both counted up to a
limit only. -/
structure Width where
  least : Nat
  greatest : Nat
  deriving DecidableEq, Repr

/-- The text that a condition looks at: the text ahead, or so many characters behind. -/
inductive Direction
  | ahead
  | behind (width : Width)
  deriving DecidableEq, Repr

/-- A pattern. -/
inductive Node
  /-- The empty text. -/
  | empty
  /-- Any character, a line feed only where the settings say so. -/
  | any
  /-- A character of the set, or one that is not in it. -/
  | set (negated : Bool) (items : List SetItem)
  | anchor (a : Anchor)
  | seq (first second : Node)
  | alt (first second : Node)
  /-- A group whose text is remembered under a number. -/
  | group (n : Nat) (body : Node)
  /-- A part with settings of its own. -/
  | scoped (on off : Flags) (body : Node)
  /-- A part that keeps its first match. -/
  | atomic (body : Node)
  /-- The text of a group of the given width, once more. -/
  | reference (n : Nat) (width : Width)
  /-- The one pattern if the group has matched, the other if it has not. -/
  | conditional (n : Nat) (yes no : Node)
  /-- A condition on the text ahead or behind. -/
  | look (direction : Direction) (negated : Bool) (body : Node)
  /-- A repetition; without `max` it has no upper bound. -/
  | iterate (greed : Greed) (min : Nat) (max : Option Nat) (body : Node)
  deriving DecidableEq, Repr

/-- A single character. -/
abbrev Node.code (n : Nat) : Node := .set false [.code n]

namespace Width

/-- The greatest number that is counted. -/
def limit : Nat := 0xffffffff

/-- A width of which both ends are counted. The least is kept below the limit, so a width that
reaches it counts as no fixed width. -/
def counted (least greatest : Nat) : Width := ⟨min least (limit - 1), min greatest limit⟩

/-- Whether there is one number of characters that the pattern matches. -/
def isFixed (w : Width) : Bool := w.least == w.greatest

/-- The width of one pattern behind another. -/
def add (a b : Width) : Width := counted (a.least + b.least) (a.greatest + b.greatest)

/-- The width of two alternatives. -/
def or (a b : Width) : Width := ⟨min a.least b.least, max a.greatest b.greatest⟩

/-- The width of a repetition. -/
def times (a : Width) (min : Nat) (max : Option Nat) : Width :=
  counted (a.least * min) <| match max with
    | some n => a.greatest * n
    | none => if a.greatest = 0 then 0 else limit

end Width

/-- The width of a pattern. -/
def Node.width : Node → Width
  | .empty | .anchor _ | .look _ _ _ => ⟨0, 0⟩
  | .any | .set _ _ => ⟨1, 1⟩
  | .seq first second => first.width.add second.width
  | .alt first second => first.width.or second.width
  | .group _ body | .scoped _ _ body | .atomic body => body.width
  | .reference _ width => width
  | .conditional _ yes no => yes.width.or no.width
  | .iterate _ min max body => body.width.times min max

/-- Patterns one behind the other. -/
def Node.sequence : List Node → Node
  | [] => .empty
  | [node] => node
  | node :: rest => .seq node (sequence rest)

end OpScaffold.Pattern
