import OpScaffold.Pattern.Source
import OpScaffold.Text.CharName

/-!
# OpScaffold.Pattern.Escape

Escapes: a backslash and a letter, digit or other character. Some stand for control characters or
classes of characters, some give a character by its code; a digit refers to a group, or gives a
code in octal digits. Any character but the ASCII letters and digits may be escaped to stand for
itself.
-/

namespace OpScaffold.Pattern

namespace Escape

/-- The control characters and the backslash. -/
def control? : Char → Option Nat
  | 'a' => some 7
  | 'b' => some 8
  | 'f' => some 12
  | 'n' => some 10
  | 'r' => some 13
  | 't' => some 9
  | 'v' => some 11
  | '\\' => some 92
  | _ => none

/-- The classes of characters. -/
def class? : Char → Option SetItem
  | 'd' => some (.ofClass .digit false)
  | 'D' => some (.ofClass .digit true)
  | 's' => some (.ofClass .blank false)
  | 'S' => some (.ofClass .blank true)
  | 'w' => some (.ofClass .word false)
  | 'W' => some (.ofClass .word true)
  | _ => none

/-- The conditions on a place. -/
def anchor? : Char → Option Anchor
  | 'A' => some .textStart
  | 'b' => some .boundary
  | 'B' => some .noBoundary
  | 'Z' => some .textEnd
  | _ => none

/-- Whether a character is an octal digit. -/
def isOctal (c : Char) : Bool := '0' ≤ c && c ≤ '7'

/-- Whether a character is a hexadecimal digit. -/
def isHex (c : Char) : Bool := c.isDigit || ('a' ≤ c && c ≤ 'f') || ('A' ≤ c && c ≤ 'F')

/-- The value of a digit of any base up to sixteen. -/
def digitValue (c : Char) : Nat :=
  if c.isDigit then c.toNat - 48 else if 97 ≤ c.toNat then c.toNat - 87 else c.toNat - 55

/-- The number that digits spell. -/
def value (base : Nat) (digits : Text) : Nat :=
  digits.foldl (fun n c => n * base + digitValue c) 0

/-- The greatest code that octal digits may give. -/
def octalLimit : Nat := 255

/-- A code in exactly `count` hexadecimal digits. -/
def hexCode (letter : Char) (count : Nat) : Reader Nat := do
  let digits ← Source.takeWhile isHex count
  let escape := '\\' :: letter :: digits
  if digits.length ≠ count then Source.fail (.incompleteEscape escape) escape.length
  else if 0x10ffff < value 16 digits then Source.fail (.badEscape escape) escape.length
  else return value 16 digits

/-- A character by its name, in braces. -/
def namedCode : Reader Nat := do
  if !(← Source.accept '{') then Source.fail .missingBrace 0
  else
    let name ← Source.nameUntil '}' "character name".toList
    match CharName.code? name with
    | some n => return n
    | none => Source.fail (.unknownCharacter name) (name.length + 4)

/-- A code in octal digits, which must not be too large. -/
def octalCode (digits : Text) : Reader Nat :=
  if octalLimit < value 8 digits then
    Source.fail (.octalTooLarge ('\\' :: digits)) (digits.length + 1)
  else return value 8 digits

/-- The code that an escape by `x`, `u`, `U` or `N` gives. -/
def code? (letter : Char) : Option (Reader Nat) :=
  match letter with
  | 'x' => some (hexCode 'x' 2)
  | 'u' => some (hexCode 'u' 4)
  | 'U' => some (hexCode 'U' 8)
  | 'N' => some namedCode
  | _ => none

/-- An escaped character that stands for itself. -/
def plainCode (c : Char) : Reader Nat :=
  if Text.isAsciiWord c then Source.fail (.badEscape ['\\', c]) 2 else return c.toNat

/-- An escape in a set of characters. -/
def inSet (c : Char) : Reader SetItem := do
  if let some n := control? c then return .code n
  else if let some item := class? c then return item
  else if let some code := code? c then return .code (← code)
  else if isOctal c then return .code (← octalCode (c :: (← Source.takeWhile isOctal 2)))
  else return .code (← plainCode c)

/-- What a digit behind a backslash turns out to be. -/
inductive Numbered
  | code (n : Nat)
  | group (n : Nat) (escapeLength : Nat)
  deriving DecidableEq, Repr

/-- An escape by a digit: a code if it starts with zero or has three octal digits, else the number
of a group in at most two digits. -/
def numbered (c : Char) : Reader Numbered := do
  if c = '0' then return .code (value 8 (← Source.takeWhile isOctal 2))
  else
    let second ← Source.takeWhile Char.isDigit 1
    let third ←
      if isOctal c && !second.isEmpty && second.all isOctal then Source.takeWhile isOctal 1
      else pure []
    if third.isEmpty then return .group (value 10 (c :: second)) (second.length + 2)
    else return .code (← octalCode (c :: second ++ third))

end Escape

end OpScaffold.Pattern
