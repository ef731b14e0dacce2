import OpScaffold.Text.Blank
import OpScaffold.Text.Case

/-!
# OpScaffold.Variant

A variant is a unary operator to be added, with the two spellings under which it is registered:
its name and the capitals of its name.
-/

namespace OpScaffold

/-- Why a text is not the name of an operator. -/
inductive NameError
  /-- Nothing but white space. -/
  | empty
  /-- Not a lower case letter followed by lower case letters and digits. -/
  | malformed (name : Text)
  /-- The input ended before a name was given. -/
  | missing
  deriving DecidableEq, Repr

/-- The text shown for a rejected name. -/
def NameError.message : NameError → Text
  | .empty => "name of the new unary function is empty".toList
  | .malformed name =>
    "'".toList ++ name
      ++ "' is not a valid name: use lowercase alphanumeric starting with a letter".toList
  | .missing => "no name given".toList

/-- The spellings of an operator. -/
structure Variant where
  name : Text
  upper : Text
  deriving DecidableEq, Repr

namespace Variant

/-- A lower case ASCII letter. -/
def isNameStart (c : Char) : Bool := c.isLower

/-- A lower case ASCII letter or digit. -/
def isNameChar (c : Char) : Bool := c.isLower || c.isDigit

/-- Whether a text is an operator name: a lower case letter, then lower case letters and digits. -/
def isName : Text → Bool
  | [] => false
  | c :: rest => isNameStart c && rest.all isNameChar

/-- The variant of a name. -/
def derive (name : Text) : Except NameError Variant :=
  if (Text.trim name).isEmpty then .error .empty
  else if isName name then .ok ⟨name, Text.upper name⟩
  else .error (.malformed name)

/-- A derived variant has the given name, which is well-formed, and its capitals. -/
theorem derive_eq_ok {name : Text} {v : Variant} (h : derive name = .ok v) :
    isName name = true ∧ v = ⟨name, Text.upper name⟩ := by
  unfold derive at h
  split at h
  · cases h
  · split at h
    · next hn => cases h; exact ⟨hn, rfl⟩
    · cases h

end Variant

end OpScaffold
