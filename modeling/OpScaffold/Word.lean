import OpScaffold.Text.Basic

/-!
# OpScaffold.Word

Occurrences of a token in a text, where the characters on both sides decide whether the token
stands there. Two boundaries are used: a registry word must not touch an ASCII letter or digit,
and an exemplar word must have one of the delimiters on either side.

A search runs from left to right and goes on behind the token that it found; the empty token is
found at every place where its boundary holds.
-/

namespace OpScaffold

/-- Which characters may stand before and after a token; `none` is the end of the text. -/
abbrev Boundary := Option Char → Option Char → Bool

namespace Boundary

/-- The boundary of a registered name: neither neighbour is an ASCII letter or digit, so a low
line separates words. -/
def word : Boundary := fun before after =>
  !(before.any Text.isAsciiWord) && !(after.any Text.isAsciiWord)

/-- The characters that delimit the exemplar's name in its source. -/
def delimiters : Text := ['"', ':', '(', ')', ' ', '_']

/-- The boundary of the exemplar's name: both neighbours exist and are delimiters. -/
def delimited : Boundary := fun before after =>
  before.any delimiters.contains && after.any delimiters.contains

/-- No condition. -/
def anywhere : Boundary := fun _ _ => true

end Boundary

/-- Whether `token` stands at the start of `text`, behind the character `before`. -/
def standsAt (boundary : Boundary) (token : Text) (before : Option Char) (text : Text) : Bool :=
  match Text.dropHead? token text with
  | some rest => boundary before rest.head?
  | none => false

/-- The occurrences in `text`, which starts at `position` behind the character `before`; the first
`skip` characters belong to the occurrence found last. -/
def occurrencesFrom (boundary : Boundary) (token : Text) :
    (before : Option Char) → (position skip : Nat) → (text : Text) → List (Nat × Nat)
  | before, position, 0, [] =>
    if standsAt boundary token before [] then [(position, position + token.length)] else []
  | _, _, _ + 1, [] => []
  | _, position, skip + 1, c :: text =>
    occurrencesFrom boundary token (some c) (position + 1) skip text
  | before, position, 0, c :: text =>
    if standsAt boundary token before (c :: text) then
      (position, position + token.length)
        :: occurrencesFrom boundary token (some c) (position + 1) (token.length - 1) text
    else occurrencesFrom boundary token (some c) (position + 1) 0 text

/-- The successive occurrences of a token, as start and end positions. -/
def occurrences (boundary : Boundary) (token text : Text) : List (Nat × Nat) :=
  occurrencesFrom boundary token none 0 0 text

/-- Whether the token occurs at all. -/
def occurs (boundary : Boundary) (token text : Text) : Bool :=
  !(occurrences boundary token text).isEmpty

/-- `replaceAll` on the rest of a text; the arguments are those of `occurrencesFrom`. -/
def replaceFrom (boundary : Boundary) (token replacement : Text) :
    (before : Option Char) → (skip : Nat) → (text : Text) → Text
  | before, 0, [] => if standsAt boundary token before [] then replacement else []
  | _, _ + 1, [] => []
  | _, skip + 1, c :: text => replaceFrom boundary token replacement (some c) skip text
  | before, 0, c :: text =>
    if standsAt boundary token before (c :: text) then
      replacement ++ (if token.isEmpty then [c] else [])
        ++ replaceFrom boundary token replacement (some c) (token.length - 1) text
    else c :: replaceFrom boundary token replacement (some c) 0 text

/-- The text with every successive occurrence of the token replaced. -/
def replaceAll (boundary : Boundary) (token replacement text : Text) : Text :=
  replaceFrom boundary token replacement none 0 text

end OpScaffold
