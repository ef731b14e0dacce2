import OpScaffold.Text.Classes
import OpScaffold.Template.Error

/-!
# OpScaffold.Template.Number

Numbers in templates: indices, widths and precisions. The decimal digits of every script count,
and a number beyond 2^63 - 1 is refused as soon as a digit takes it there.
-/

namespace OpScaffold.Template

/-- The largest number that a template may name. -/
def numberLimit : Nat := 0x7fffffffffffffff

/-- Reads the digits at the start of `t` behind digits worth `value`, and returns the number and
the rest. -/
def readDigits (value : Nat) : Text → Except Malformed (Nat × Text)
  | [] => .ok (value, [])
  | c :: t =>
    match decimalDigit? c with
    | none => .ok (value, c :: t)
    | some d =>
      if numberLimit < value * 10 + d then .error .tooManyDigits
      else readDigits (value * 10 + d) t

/-- Reads a number at the start of `t`, if one stands there. -/
def readNumber (t : Text) : Except Malformed (Option Nat × Text) :=
  if t.head?.any isDecimalDigit then
    (readDigits 0 t).map fun (n, rest) => (some n, rest)
  else .ok (none, t)

/-- The number that `t` is, if it consists of digits. -/
def wholeNumber (t : Text) : Except Malformed (Option Nat) :=
  (readNumber t).map fun (n, rest) => if rest.isEmpty then n else none

end OpScaffold.Template
