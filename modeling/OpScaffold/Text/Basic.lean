/-!
# OpScaffold.Text.Basic

Text is a list of characters (code points). Positions and widths count characters; bytes occur
only where a file is read or written (`OpScaffold.Text.Utf8`). Surrogates are no characters: they
occur in the raw texts that are to be written to files (`OpScaffold.Text.Raw`), and nowhere else.
-/

namespace OpScaffold

/-- A text: its characters in order. -/
abbrev Text := List Char

namespace Text

/-- A natural number in decimal. -/
def ofNat (n : Nat) : Text := (toString n).toList

/-- An integer in decimal, negative numbers with a leading minus sign. -/
def ofInt : Int → Text
  | .ofNat n => ofNat n
  | .negSucc n => '-' :: ofNat (n + 1)

/-- The digits of `n` in base sixteen, lower case, without leading zeros. -/
def hex (n : Nat) : Text := Nat.toDigits 16 n

/-- The digits of `n` in base sixteen, padded with zeros to at least `width` digits. -/
def hexPadded (width n : Nat) : Text :=
  List.replicate (width - (hex n).length) '0' ++ hex n

/-- Texts joined with a separator between neighbours. -/
def join (separator : Text) (parts : List Text) : Text := separator.intercalate parts

/-- The pieces of a text between separators; there is always at least one. -/
def pieces (separator : Char) : Text → List Text
  | [] => [[]]
  | c :: t =>
    if c = separator then [] :: pieces separator t
    else match pieces separator t with
      | [] => [[c]]
      | piece :: rest => (c :: piece) :: rest

theorem pieces_ne_nil (separator : Char) (t : Text) : pieces separator t ≠ [] := by
  fun_induction pieces separator t <;> simp_all

/-- Nothing is lost between the pieces. -/
@[simp] theorem join_pieces (separator : Char) (t : Text) :
    join [separator] (pieces separator t) = t := by
  fun_induction pieces separator t with
  | case1 => rfl
  | case2 t ih =>
    obtain ⟨piece, rest, h⟩ := List.exists_cons_of_ne_nil (pieces_ne_nil separator t)
    simp_all [join, List.intercalate]
  | case3 c t _ h => exact absurd h (pieces_ne_nil separator t)
  | case4 c t _ piece rest h ih => cases rest <;> simp_all [join, List.intercalate]

/-- Whether `c` is an ASCII letter or digit. -/
def isAsciiWord (c : Char) : Bool := c.isAlphanum

/-- The rest of `text` after `head`, if `text` begins with `head`. -/
def dropHead? : (head text : Text) → Option Text
  | [], text => some text
  | _ :: _, [] => none
  | h :: head, c :: text => if h = c then dropHead? head text else none

/-- `dropHead?` succeeds exactly on the texts that begin with `head`. -/
theorem dropHead?_eq_some_iff {head text rest : Text} :
    dropHead? head text = some rest ↔ text = head ++ rest := by
  induction head generalizing text with
  | nil => simp [dropHead?, eq_comm]
  | cons h head ih =>
    cases text with
    | nil => simp [dropHead?]
    | cons c text =>
      by_cases hc : h = c
      · subst hc; simp [dropHead?, ih]
      · simp [dropHead?, hc, Ne.symm hc]

end Text

end OpScaffold
