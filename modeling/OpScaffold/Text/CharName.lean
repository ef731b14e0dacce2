import OpScaffold.Text.CharName.Aliases
import OpScaffold.Text.CharName.Alphabets
import OpScaffold.Text.CharName.Cuneiform
import OpScaffold.Text.CharName.EastAsian
import OpScaffold.Text.CharName.Hieroglyphs
import OpScaffold.Text.CharName.Historic
import OpScaffold.Text.CharName.Ideographs
import OpScaffold.Text.CharName.Notation
import OpScaffold.Text.CharName.Pictographs
import OpScaffold.Text.CharName.Scripts
import OpScaffold.Text.CharName.Symbols
import OpScaffold.Text.Ranges

/-!
# OpScaffold.Text.CharName

Characters by their names. Most names stand in tables and are found in either case. Names that
end in the number of their character follow from it, and names of Korean syllables from the letters
of the syllable.
-/

namespace OpScaffold.CharName

/-- All tables. -/
def tables : List (List NameRun) := [
  alphabetNames, symbolNames, aliasNames, scriptNames, eastAsianNames, historicNames,
  cuneiformNames, hieroglyphNames, ideographNames, notationNames, pictographNames]

/-- The number that upper case digits of base sixteen spell. -/
def hexNumber? (digits : Text) : Option Nat :=
  digits.foldl (fun n c =>
    if c.isDigit then n.map (· * 16 + (c.toNat - 48))
    else if 'A' ≤ c ∧ c ≤ 'F' then n.map (· * 16 + (c.toNat - 55))
    else none) (some 0)

/-- The characters of which the names end in their numbers. -/
def numberedNames : List (String × Ranges) := [
  ("CJK COMPATIBILITY IDEOGRAPH-", [(0xf900, 0xfa6d), (0xfa70, 0xfad9), (0x2f800, 0x2fa1d)]),
  ("KHITAN SMALL SCRIPT CHARACTER-", [(0x18b00, 0x18cd5)]),
  ("NUSHU CHARACTER-", [(0x1b170, 0x1b2fb)])]

/-- A character by a name that ends in its number, written without leading zeros. -/
def numbered? (name : Text) : Option Nat :=
  numberedNames.findSome? fun (head, ranges) => do
    let digits ← Text.dropHead? head.toList name
    let n ← hexNumber? digits
    if ranges.contains n && digits.head? != some '0' then some n else none

/-- The head of the names of ideographs. -/
def ideographHead : Text := "CJK UNIFIED IDEOGRAPH-".toList

/-- The ideographs. -/
def ideographRanges : Ranges := [
  (0x3400, 0x4dbf), (0x4e00, 0x9fff), (0x20000, 0x2a6df), (0x2a700, 0x2b738), (0x2b740, 0x2b81d),
  (0x2b820, 0x2cea1), (0x2ceb0, 0x2ebe0), (0x30000, 0x3134a)]

/-- An ideograph by its number, in four digits or five. -/
def ideograph? (digits : Text) : Option Nat := do
  let n ← hexNumber? digits
  if (digits.length == 4 || digits.length == 5) && ideographRanges.contains n then some n
  else none

/-- The head of the names of syllables. -/
def syllableHead : Text := "HANGUL SYLLABLE ".toList

/-- The letters that begin a syllable; one of them is silent. -/
def initials : List String := [
  "G", "GG", "N", "D", "DD", "R", "M", "B", "BB", "S", "SS", "", "J", "JJ", "C", "K", "T", "P",
  "H"]

/-- The vowels of syllables. -/
def vowels : List String := [
  "A", "AE", "YA", "YAE", "EO", "E", "YEO", "YE", "O", "WA", "WAE", "OE", "YO", "U", "WEO", "WE",
  "WI", "YU", "EU", "YI", "I"]

/-- The letters that end a syllable, if any does. -/
def finals : List String := [
  "", "G", "GG", "GS", "N", "NJ", "NH", "D", "L", "LG", "LM", "LB", "LS", "LT", "LP", "LH", "M",
  "B", "BS", "S", "SS", "NG", "J", "C", "K", "T", "P", "H"]

/-- The longest of the letters with which a text begins: its place in the list, and the rest. -/
def letter? (letters : List String) (t : Text) : Option (Nat × Text) :=
  let fits := letters.zipIdx.filterMap fun (letter, i) =>
    (Text.dropHead? letter.toList t).map fun rest => (i, rest)
  fits.foldl (fun best (i, rest) =>
    match best with
    | some (_, shortest) => if rest.length < shortest.length then some (i, rest) else best
    | none => some (i, rest)) none

/-- A syllable by its letters. -/
def syllable? (letters : Text) : Option Nat := do
  let (first, rest) ← letter? initials letters
  let (vowel, rest) ← letter? vowels rest
  let (last, rest) ← letter? finals rest
  if rest.isEmpty then
    some (0xac00 + (first * vowels.length + vowel) * finals.length + last)
  else none

/-- The code point of a character by its name. -/
def code? (name : Text) : Option Nat :=
  match Text.dropHead? syllableHead name, Text.dropHead? ideographHead name with
  | some letters, _ => syllable? letters
  | none, some digits => ideograph? digits
  | none, none =>
    let capital : Text := name.map Char.toUpper
    (numbered? capital).or
      (tables.findSome? fun runs => runs.findSome? (·.code? (capital.pieces ' ')))

end OpScaffold.CharName
