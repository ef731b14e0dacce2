import OpScaffold.Pattern.Escape

/-!
# OpScaffold.Pattern.CharSet

Sets of characters in brackets: single characters, ranges and classes. A closing bracket that
comes first stands for itself, and so does a hyphen that has no character on one of its sides.
-/

namespace OpScaffold.Pattern

namespace CharSet

/-- The item that a token of a set stands for. -/
def item (token : Token) : Reader SetItem :=
  match token with
  | ['\\', c] => Escape.inSet c
  | c :: _ => return .code c.toNat
  | [] => return .code 0

/-- The range between two items that stand for single characters; the tokens are shown if it is
refused. -/
def range (low high : SetItem) (lowToken highToken : Token) : Reader SetItem :=
  let refuse := Source.fail (.badRange lowToken highToken) (lowToken.length + 1 + highToken.length)
  match low, high with
  | .code m, .code n => if n < m then refuse else return .range m n
  | _, _ => refuse

/-- The items up to the closing bracket. `start` is the position of the opening bracket, and
`isFirst` tells that no item was read yet. -/
def items (start : Nat) : (fuel : Nat) → (isFirst : Bool) → Reader (List SetItem)
  | 0, _ => Source.failAt .unterminatedSet start
  | fuel + 1, isFirst => do
    match ← Source.next with
    | none => Source.failAt .unterminatedSet start
    | some token =>
      if token = [']'] ∧ isFirst = false then return []
      else
        let low ← item token
        if ← Source.accept '-' then
          match ← Source.next with
          | none => Source.failAt .unterminatedSet start
          | some highToken =>
            if highToken = [']'] then return [low, .code '-'.toNat]
            else
              let high ← item highToken
              let joined ← range low high token highToken
              return joined :: (← items start fuel false)
        else return low :: (← items start fuel false)

/-- The set behind an opening bracket; an item counts once. -/
def read : Reader Node := do
  let start := (← Source.here) - 1
  let negated ← Source.accept '^'
  return .set negated (← items start (← get).rest.length.succ true).eraseDups

end CharSet

end OpScaffold.Pattern
