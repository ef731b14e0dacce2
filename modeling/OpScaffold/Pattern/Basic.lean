import OpScaffold.Pattern.Group

/-!
# OpScaffold.Pattern.Basic

Patterns read from text. Tokens are read from left to right into a `Draft`; at the end every group
must be closed and every group that a condition names must exist, and lookbehinds must have a
fixed width.
-/

namespace OpScaffold

/-- A pattern with its settings. -/
structure Pattern where
  node : Pattern.Node
  flags : Pattern.Flags
  deriving DecidableEq, Repr

namespace Pattern

/-- From this number of repetitions on a count is refused. -/
def repetitionLimit : Nat := 0xffffffff

/-- From this number of characters on a lookbehind goes back too far. -/
def lookbehindLimit : Nat := 0x80000000

/-- Characters that blanks in a verbose pattern are. -/
def isSkipped (c : Char) : Bool := [9, 10, 11, 12, 13, 32].contains c.toNat

/-- Skips the rest of a line. -/
def skipLine : (fuel : Nat) → Reader Unit
  | 0 => return
  | fuel + 1 => do
    match ← Source.next with
    | none => return
    | some token => if token = ['\n'] then return else skipLine fuel

/-- An escape outside sets. -/
def escape (d : Draft) (c : Char) : Reader Item := do
  if let some anchor := Escape.anchor? c then
    return .one (.anchor anchor) .condition
  else if let some item := Escape.class? c then return .one (.set false [item])
  else if let some n := Escape.control? c then return .one (.code n)
  else if let some code := Escape.code? c then return .one (.code (← code))
  else if c.isDigit then
    match ← Escape.numbered c with
    | .code n => return .one (.code n)
    | .group n length =>
      if n < d.groups then d.reference n length
      else Source.fail (.noSuchGroup n) (length - 1)
  else return .one (.code (← Escape.plainCode c))

/-- The number that the digits of a repetition spell. -/
def count (digits : Text) : Reader Nat :=
  if digitLimit < digits.length then throw (.tooManyDigits digits.length)
  else
    let n := Escape.value 10 digits
    if repetitionLimit ≤ n then throw .tooManyRepetitions else return n

/-- The numbers of a repetition in braces, from behind the opening brace; without a closing brace
they are no repetition, and nothing is read. -/
def bounds : Reader (Option (Nat × Option Nat)) := do
  let start ← get
  let low ← Source.takeWhile Char.isDigit start.rest.length
  let comma ← Source.accept ','
  let high ← if comma then Source.takeWhile Char.isDigit start.rest.length else pure low
  if !(← Source.accept '}') then
    set start
    return none
  else
    let min ← count low
    let max ← count high
    if !high.isEmpty && max < min then Source.failAt .minimumAboveMaximum start.position
    else return some (min, if high.isEmpty then none else some max)

/-- How a repetition is tried, which a second mark behind the first one tells. -/
def greed : Reader Greed := do
  if ← Source.accept '?' then return .lazy
  else if ← Source.accept '+' then return .possessive
  else return .greedy

/-- Repeats the last item; `start` is the position of the repetition mark. -/
def iterateLast (d : Draft) (start min : Nat) (max : Option Nat) : Reader Draft := do
  match d.current.items with
  | [] => Source.failAt .nothingToRepeat start
  | item :: rest =>
    match item.repeatable with
    | .condition => Source.failAt .nothingToRepeat start
    | .repeated => Source.failAt .multipleRepeat start
    | .yes =>
      let item := Item.one (.iterate (← greed) min max (.sequence item.nodes)) .repeated
      return { d with current := { d.current with items := item :: rest } }

/-- An opening brace: a repetition, or the brace itself. -/
def brace (d : Draft) (start : Nat) : Reader Draft := do
  let literal := d.push (.one (.code '{'.toNat))
  if (← Source.peek) = some ['}'] then return literal
  else
    match ← bounds with
    | none => return literal
    | some (min, max) => iterateLast d start min max

/-- Adds the token at position `start`, which was just read. -/
def readToken (d : Draft) (start : Nat) (token : Token) : Reader Draft := do
  match token with
  | ['\\', c] => return d.push (← escape d c)
  | [c] =>
    if d.current.verbose && isSkipped c then return d
    else if d.current.verbose && c == '#' then do
      skipLine ((← get).rest.length + 1)
      return d
    else match c with
      | '[' => return d.push (.one (← CharSet.read))
      | '.' => return d.push (.one .any)
      | '^' => return d.push (.one (.anchor .lineStart) .condition)
      | '$' => return d.push (.one (.anchor .lineEnd) .condition)
      | '?' => iterateLast d start 0 (some 1)
      | '*' => iterateLast d start 0 none
      | '+' => iterateLast d start 1 none
      | '{' => brace d start
      | '(' => Group.read d start
      | _ => return d.push (.one (.code c.toNat))
  | _ => return d

/-- The first thing in a finished pattern that cannot be carried out. -/
def defect? (flags : Flags) : Node → Option Fault
  | .empty | .any | .set _ _ | .anchor _ | .reference _ _ => none
  | .seq first second | .alt first second | .conditional _ first second =>
    (defect? flags first).or (defect? flags second)
  | .group _ body | .scoped _ _ body | .atomic body | .look .ahead _ body => defect? flags body
  | .look (.behind width) _ body =>
    if width.isFixed then defect? flags body else some .variableLookbehind
  | .iterate greed _ _ body =>
    if flags.contains .template then some (.repetitionInTemplate greed) else defect? flags body

/-- Whether a lookbehind within a pattern goes back too far. -/
def looksTooFar : Node → Bool
  | .empty | .any | .set _ _ | .anchor _ | .reference _ _ => false
  | .seq first second | .alt first second | .conditional _ first second =>
    looksTooFar first || looksTooFar second
  | .group _ body | .scoped _ _ body | .atomic body | .look .ahead _ body
  | .iterate _ _ _ body => looksTooFar body
  | .look (.behind width) _ body => decide (lookbehindLimit ≤ width.least) || looksTooFar body

/-- The pattern of a draft with no open groups, at the end of its text or before a parenthesis
that closes nothing. -/
def complete (d : Draft) : Reader Pattern := do
  if d.flags.contains .ascii && d.flags.contains .unicode then throw .rivalCharacterSets
  else if (← Source.peek).isSome then Source.fail .unbalancedParenthesis 0
  else match d.mentions.find? fun (n, _) => d.groups ≤ n with
    | some (n, position) => Source.failAt (.noSuchGroup n) position
    | none =>
      let node := Node.ofBranches d.content
      match defect? d.flags node with
      | some fault => throw (.fault fault none)
      | none => if looksTooFar node then throw .distantLookbehind else return { node, flags := d.flags }

/-- Reads on from a draft; every step reads a token at least. -/
def readOn : (fuel : Nat) → Draft → Reader Pattern
  | 0, d => complete d
  | fuel + 1, d => do
    let start ← Source.here
    match ← Source.peek, d.outer with
    | none, [] => complete d
    | none, _ :: _ => Source.failAt .unterminatedGroup d.current.start
    | some [')'], [] => complete d
    | some [')'], frame :: outer =>
      let _ ← Source.next
      readOn fuel (d.leave frame outer)
    | some ['|'], _ =>
      match d.current.opening, d.current.branches with
      | .conditional _, _ :: _ => Source.failAt .thirdBranch start
      | _, _ =>
        let _ ← Source.next
        readOn fuel d.endBranch
    | some token, _ =>
      let _ ← Source.next
      readOn fuel (← readToken d start token)

/-- The pattern that a text spells. -/
def ofText (text : Text) : Except Error Pattern :=
  let result := do
    let source ← Source.ofText text
    (readOn (source.rest.length + 1) {}).run source
  match result with
  | .ok (pattern, _) => .ok pattern
  | .error refusal => .error ⟨refusal, text⟩

end Pattern

end OpScaffold
