import OpScaffold.Exemplar

/-!
# OpScaffold.Proofs.Template.Symbol

Templates that have no fields but the plain ones for the two spellings of a variant. Such a
template is a sequence of symbols, each of which is written in one way (`Symbol.written`) and read
back as one piece (`pieces_written`), so rendering spells symbol after symbol and never fails
(`render_written`).
-/

namespace OpScaffold.Template

/-- A character that stands for itself, or a field for one of the spellings of a variant. -/
inductive Symbol
  | char (c : Char)
  | name
  | upper
  deriving DecidableEq, Repr

namespace Symbol

/-- A symbol as it is written in a template: braces that are characters are doubled. -/
def written : Symbol → Text
  | .char c => if c = '{' ∨ c = '}' then [c, c] else [c]
  | .name => Exemplar.nameField
  | .upper => Exemplar.upperField

theorem written_char (c : Char) :
    (char c).written = if c = '{' ∨ c = '}' then [c, c] else [c] := rfl

/-- The piece as which a symbol is read. -/
def piece : Symbol → Piece
  | .char c => .char c
  | .name => .field { path := "name".toList }
  | .upper => .field { path := "NAME".toList }

/-- What is shown for a symbol. -/
def spelled (v : Variant) : Symbol → Text
  | .char c => [c]
  | .name => v.name
  | .upper => v.upper

end Symbol

variable {v : Variant} {symbols : List Symbol}

/-- A template in symbols. -/
def written (symbols : List Symbol) : Text := symbols.flatMap Symbol.written

/-- What symbols show for a variant. -/
def spelled (v : Variant) (symbols : List Symbol) : Text := symbols.flatMap (Symbol.spelled v)

@[simp] theorem written_nil : written [] = [] := rfl

@[simp] theorem written_cons (s : Symbol) (rest : List Symbol) :
    written (s :: rest) = s.written ++ written rest := List.flatMap_cons

@[simp] theorem written_append (s t : List Symbol) : written (s ++ t) = written s ++ written t :=
  List.flatMap_append

@[simp] theorem spelled_nil : spelled v [] = [] := rfl

@[simp] theorem spelled_cons (s : Symbol) (rest : List Symbol) :
    spelled v (s :: rest) = s.spelled v ++ spelled v rest := List.flatMap_cons

@[simp] theorem spelled_append (s t : List Symbol) :
    spelled v (s ++ t) = spelled v s ++ spelled v t := List.flatMap_append

/-- Characters show themselves. -/
@[simp] theorem spelled_map_char (t : Text) : spelled v (t.map Symbol.char) = t := by
  induction t with
  | nil => rfl
  | cons c t ih => rw [List.map_cons, spelled_cons, ih]; rfl

/-! ## Reading and rendering -/

theorem pieces_written_append (s : Symbol) (t : Text) :
    pieces (s.written ++ t) = s.piece :: pieces t := by
  cases s with
  | char c =>
    by_cases ho : c = '{'
    · subst ho; exact pieces_openBraces t
    · by_cases hc : c = '}'
      · subst hc; exact pieces_closeBraces t
      · rw [Symbol.written_char, if_neg (not_or.2 ⟨ho, hc⟩)]
        exact pieces_cons ho hc t
  | name => rfl
  | upper => rfl

/-- A template in symbols is read back symbol by symbol. -/
theorem pieces_written (symbols : List Symbol) :
    pieces (written symbols) = symbols.map Symbol.piece := by
  induction symbols with
  | nil => rfl
  | cons s rest ih => rw [written_cons, pieces_written_append, ih, List.map_cons]

theorem expandPiece_piece (inner : Text → Except Error Text) (s : Symbol) :
    expandPiece v inner s.piece = .ok (s.spelled v) := by
  cases s <;> rfl

theorem expandPieces_map_piece (inner : Text → Except Error Text) (symbols : List Symbol) :
    expandPieces v inner (symbols.map Symbol.piece) = .ok (spelled v symbols) := by
  induction symbols with
  | nil => rfl
  | cons s rest ih => rw [List.map_cons, expandPieces, expandPiece_piece, ih]; rfl

/-- A text that is read as symbols is rendered, and shows them. -/
theorem render_of_pieces {template : Text} (h : pieces template = symbols.map Symbol.piece) :
    render template v = .ok (spelled v symbols) := by
  rw [render, expand, h, expandPieces_map_piece]

/-- A template in symbols is rendered, whatever they are. -/
theorem render_written (v : Variant) (symbols : List Symbol) :
    render (written symbols) v = .ok (spelled v symbols) := render_of_pieces (pieces_written symbols)

/-! ## Characters of what is shown -/

/-- Whether a symbol is a character of some kind. -/
def Symbol.holds (p : Char → Bool) : Symbol → Bool
  | .char c => p c
  | .name | .upper => false

/-- Whether the spellings of a variant have no characters of some kind. -/
structure Avoids (v : Variant) (p : Char → Bool) : Prop where
  name : ∀ c ∈ v.name, p c = false
  upper : ∀ c ∈ v.upper, p c = false

/-- Characters before the first separator belong to the first piece. -/
theorem splitOnP_append {p : Char → Bool} {u : Text} (hu : ∀ c ∈ u, p c = false) (t : Text) :
    (u ++ t).splitOnP p = (t.splitOnP p).modifyHead (u ++ ·) := by
  induction u with
  | nil =>
    rw [List.nil_append]
    cases t.splitOnP p <;> rfl
  | cons c u ih =>
    rw [List.cons_append, List.splitOnP_cons_eq_if_modifyHead, if_neg (by simp [hu c]),
      ih fun d hd => hu d (by simp [hd]), List.modifyHead_modifyHead]
    rfl

namespace Avoids

variable {p : Char → Bool} {s : Symbol} (h : Avoids v p)

include h

theorem spelled_symbol (hs : s.holds p = false) : ∀ c ∈ s.spelled v, p c = false := by
  cases s with
  | char c => simpa [Symbol.spelled, Symbol.holds] using hs
  | name => exact h.name
  | upper => exact h.upper

theorem countP_spelled (symbols : List Symbol) :
    (spelled v symbols).countP p = symbols.countP (Symbol.holds p) := by
  induction symbols with
  | nil => rfl
  | cons s rest ih =>
    have hs : (s.spelled v).countP p = if s.holds p then 1 else 0 := by
      cases hs : s.holds p with
      | false => exact List.countP_eq_zero.2 fun c hc => by simp [h.spelled_symbol hs c hc]
      | true =>
        cases s with
        | char c => simpa [Symbol.spelled, Symbol.holds] using hs
        | name => cases hs
        | upper => cases hs
    rw [spelled_cons, List.countP_append, ih, hs, List.countP_cons, Nat.add_comm]

/-- Symbols of which none is such a character show none. -/
theorem spelled_symbols (hs : ∀ s ∈ symbols, s.holds p = false) :
    ∀ c ∈ spelled v symbols, p c = false := by
  have hnone : symbols.countP (Symbol.holds p) = 0 :=
    List.countP_eq_zero.2 fun s hm => by simp [hs s hm]
  have hcount := h.countP_spelled symbols
  rw [hnone, List.countP_eq_zero] at hcount
  simpa using hcount

/-- What is shown is split as the symbols are. -/
theorem splitOnP_spelled (symbols : List Symbol) :
    (spelled v symbols).splitOnP p =
      (symbols.splitOnP (Symbol.holds p)).map (spelled v) := by
  induction symbols with
  | nil => rfl
  | cons s rest ih =>
    rw [spelled_cons, List.splitOnP_cons_eq_if_modifyHead]
    split
    · next hs =>
      cases s with
      | char c =>
        have hc : p c = true := hs
        have hcons := List.splitOnP_cons_eq_if_modifyHead (p := p) c (spelled v rest)
        rw [if_pos hc, ih] at hcons
        exact hcons
      | name => cases hs
      | upper => cases hs
    · next hs =>
      rw [Bool.not_eq_true] at hs
      rw [splitOnP_append (h.spelled_symbol hs), ih]
      cases rest.splitOnP (Symbol.holds p) with
      | nil => rfl
      | cons first more => rfl

end Avoids

end OpScaffold.Template
