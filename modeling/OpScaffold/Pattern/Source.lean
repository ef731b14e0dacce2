import OpScaffold.Pattern.Error

/-!
# OpScaffold.Pattern.Source

The text of a pattern as it is read. It is read in tokens: a backslash together with the character
behind it, or any other character. A backslash at the very end is no token, and reading stops with
a fault as soon as it comes next, whatever the token before it is about to mean.
-/

namespace OpScaffold.Pattern

/-- A character, or a backslash and the character behind it. -/
abbrev Token := Text

/-- The tokens of a text; a backslash at its end stands alone. -/
def tokens : Text → List Token
  | [] => []
  | '\\' :: c :: rest => ['\\', c] :: tokens rest
  | c :: rest => [c] :: tokens rest

/-- The tokens that are still to be read, and the position of the first of them. -/
structure Source where
  position : Nat
  rest : List Token
  deriving DecidableEq, Repr

/-- An action that reads from a source, unless the pattern is refused. -/
abbrev Reader := StateT Source (Except Refusal)

/-- Whether a token is one character of a class. -/
def isOne (accepts : Char → Bool) : Token → Bool
  | [c] => accepts c
  | _ => false

namespace Source

/-- The source of a text, unless it is a backslash that escapes nothing. -/
def ofText (t : Text) : Except Refusal Source :=
  if t = ['\\'] then .error (.fault .danglingBackslash (some 0)) else .ok ⟨0, tokens t⟩

/-- Fails with a fault so many characters before the next token. -/
def fail {α : Type} (f : Fault) (back : Nat) : Reader α := fun s =>
  .error (.fault f (some (s.position - back)))

/-- Fails with a fault at a position. -/
def failAt {α : Type} (f : Fault) (position : Nat) : Reader α := fun _ =>
  .error (.fault f (some position))

/-- The next token, which is not read yet. -/
def peek : Reader (Option Token) := fun s => .ok (s.rest.head?, s)

/-- The position of the next token. -/
def here : Reader Nat := fun s => .ok (s.position, s)

/-- Reads a token. -/
def next : Reader (Option Token) := fun s =>
  match s.rest with
  | [] => .ok (none, s)
  | token :: rest =>
    let behind := s.position + token.length
    if rest = [['\\']] then .error (.fault .danglingBackslash (some behind))
    else .ok (some token, ⟨behind, rest⟩)

/-- Reads the given character if it comes next. -/
def accept (c : Char) : Reader Bool := do
  if (← peek) = some [c] then
    let _ ← next
    return true
  else return false

/-- Reads at most `count` characters of a class. -/
def takeWhile (accepts : Char → Bool) : (count : Nat) → Reader Text
  | 0 => return []
  | count + 1 => do
    match ← peek with
    | some token =>
      if isOne accepts token then
        let _ ← next
        return token ++ (← takeWhile accepts count)
      else return []
    | none => return []

/-- Reads tokens up to a character and that character; the tokens form the name of `what`. -/
def nameUntil (terminator : Char) (what : Text) : Reader Text := do
  go (← get).rest.length []
where
  /-- Reads on behind the part `name` of the name. -/
  go : Nat → Text → Reader Text
    | 0, name => finish name
    | fuel + 1, name => do
      match ← next with
      | none => finish name
      | some token =>
        if token = [terminator] then
          if name.isEmpty then fail (.missingName what) 1 else return name
        else go fuel (name ++ token)
  /-- The end of the pattern within the name. -/
  finish (name : Text) : Reader Text :=
    if name.isEmpty then fail (.missingName what) 0
    else fail (.unterminatedName terminator) name.length

end Source

end OpScaffold.Pattern
