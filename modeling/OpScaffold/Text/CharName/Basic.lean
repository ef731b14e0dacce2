import OpScaffold.Text.Basic

/-!
# OpScaffold.Text.CharName.Basic

Tables of character names. The names of consecutive code points stand in one text. Each begins
with a lower case letter, which tells how many words the name shares with the one before it: `a`
none, `b` one, and so on; the other words follow. So `aDIGIT ZERO bONE bTWO` holds three names.
-/

namespace OpScaffold.CharName

/-- The names of consecutive code points from `first` on. -/
structure NameRun where
  first : Nat
  names : String
  deriving Repr

/-- A text cut before its lower case letters: what stands before the first of them, then for each
its rank in the alphabet and what follows it. -/
def cuts : Text → Text × List (Nat × Text)
  | [] => ([], [])
  | c :: t =>
    let (head, rest) := cuts t
    if c.isLower then ([], (c.toNat - 'a'.toNat, head) :: rest) else (c :: head, rest)

/-- The words of a text, which stand between blanks and line ends. -/
def words (t : Text) : List Text :=
  ((t.pieces '\n').flatMap (Text.pieces ' ')).filter (!·.isEmpty)

/-- Names in words, each given by the number of words that it shares with the one before it. -/
def shared (before : List Text) : List (Nat × Text) → List (List Text)
  | [] => []
  | (count, rest) :: more =>
    let name := before.take count ++ words rest
    name :: shared name more

/-- The names of a run, in words. -/
def NameRun.toList (run : NameRun) : List (List Text) := shared [] (cuts run.names.toList).2

/-- The code point of a name in a run. -/
def NameRun.code? (run : NameRun) (name : List Text) : Option Nat :=
  (run.toList.idxOf? name).map (run.first + ·)

end OpScaffold.CharName
