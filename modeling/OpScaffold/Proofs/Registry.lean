import OpScaffold.Proofs.HostFile.Extension
import OpScaffold.Proofs.Template.Symbol
import OpScaffold.Proofs.Variant
import OpScaffold.Registry.Default
import OpScaffold.Registry.Validation

/-!
# OpScaffold.Proofs.Registry

The lines that the entries of the crate add. They are told by the symbols of their templates
(`Entry.render_eq`), and whatever variant they are for, in its host file they are no anchors and do
not end a block (`clean_snippet`). Their words are the spellings of the variant and a few words of
the templates (`mem_words_snippet`).
-/

namespace OpScaffold

open Template

/-! ## Entries with plain templates -/

namespace Template

/-- The symbol that is read as a piece. -/
def Piece.symbol? : Piece → Option Symbol
  | .char c => some (.char c)
  | piece =>
    if piece = Symbol.name.piece then some .name
    else if piece = Symbol.upper.piece then some .upper
    else none

/-- The symbols of a template that has no other fields. -/
def symbolsOf (template : Text) : List Symbol := (pieces template).filterMap Piece.symbol?

/-- The characters among symbols. -/
def charsOf (symbols : List Symbol) : Text :=
  symbols.filterMap fun s => match s with
    | .char c => some c
    | .name | .upper => none

end Template

namespace Entry

/-- The lines of a template in symbols. -/
def rows (e : Entry) : List (List Symbol) := (symbolsOf e.template).splitOnP (· == .char '\n')

/-- The lines that register a variant. -/
def snippet (e : Entry) (v : Variant) : List Text := e.rows.map (spelled v)

end Entry

theorem Text.pieces_eq_splitOnP (c : Char) (t : Text) : t.pieces c = t.splitOnP (· == c) := by
  fun_induction Text.pieces c t with
  | case1 => rfl
  | case2 t ih => rw [List.splitOnP_cons_eq_if_modifyHead, ih, if_pos (by simp)]
  | case3 d t _ h => exact absurd h (Text.pieces_ne_nil c t)
  | case4 d t hd piece rest h ih =>
    rw [List.splitOnP_cons_eq_if_modifyHead, ← ih, h, if_neg (by simpa using hd)]
    rfl

namespace Registry

/-- The words of the templates of the crate that could be names or capitals of names. -/
def ownWords : List Text :=
  ["fn".toList, "self".toList, "impl".toList, "unary".toList, "float".toList, "core".toList,
    "op".toList]

end Registry

namespace Entry

variable {e : Entry} {row : List Symbol} {name l token : Text} {v : Variant}

/-- A line in symbols that is taken for nothing else in the host file of its entry: it has no
white space at its ends, no line break, not as many blanks as the anchor, and more characters than
the pattern that ends the block. Its words are spellings or cannot be any. -/
structure IsPlainRow (e : Entry) (row : List Symbol) : Prop where
  first : row.head?.any (!·.holds isBlank) = true
  last : row.getLast?.any (!·.holds isBlank) = true
  unbroken : ∀ s ∈ row, s.holds isLineBreak = false
  anchor : row.countP (Symbol.holds isBlank) ≠ e.anchor.countP isBlank
  stop : e.blockEnd = none ∨ 2 < row.length
  words : ∀ word ∈ row.splitOnP (Symbol.holds fun c => !Text.isAsciiWord c),
    word = [.name] ∨ word = [.upper] ∨ word = (charsOf word).map .char ∧
      (Registry.ownWords.contains (Text.lowerAscii (charsOf word)) = true ∨
        Variant.isName (Text.lowerAscii (charsOf word)) = false)

instance (e : Entry) (row : List Symbol) : Decidable (e.IsPlainRow row) :=
  decidable_of_iff (_ ∧ _ ∧ _ ∧ _ ∧ _ ∧ _)
    ⟨fun ⟨h₁, h₂, h₃, h₄, h₅, h₆⟩ => ⟨h₁, h₂, h₃, h₄, h₅, h₆⟩,
      fun h => ⟨h.first, h.last, h.unbroken, h.anchor, h.stop, h.words⟩⟩

/-- An entry whose template has plain fields alone and plain lines. -/
structure IsPlain (e : Entry) : Prop where
  pieces : Template.pieces e.template = (symbolsOf e.template).map Symbol.piece
  rows : ∀ row ∈ e.rows, e.IsPlainRow row

instance (e : Entry) : Decidable e.IsPlain :=
  decidable_of_iff (_ ∧ _) ⟨fun ⟨h₁, h₂⟩ => ⟨h₁, h₂⟩, fun h => ⟨h.pieces, h.rows⟩⟩

theorem avoids (hv : Variant.derive name = .ok v) {p : Char → Bool}
    (hp : ∀ c, Text.isAsciiWord c = true → p c = false) : Avoids v p :=
  ⟨fun c hc => hp c ((Variant.isWord_of_derive hv (.inl rfl)).2 c hc),
    fun c hc => hp c ((Variant.isWord_of_derive hv (.inr rfl)).2 c hc)⟩

theorem avoids_isBlank (hv : Variant.derive name = .ok v) : Avoids v isBlank :=
  avoids hv fun _ => Text.forall_isAsciiWord (fun c => isBlank c = false) (by decide)

theorem avoids_isLineBreak (hv : Variant.derive name = .ok v) : Avoids v isLineBreak :=
  avoids hv fun _ => Text.forall_isAsciiWord (fun c => isLineBreak c = false) (by decide)

/-- The lines of a plain template are those that register the variant. -/
theorem IsPlain.render_eq (he : e.IsPlain) (hv : Variant.derive name = .ok v) :
    e.render v = .ok (e.snippet v) := by
  have hline : Avoids v (· == '\n') := avoids hv fun _ =>
    Text.forall_isAsciiWord (fun c => (c == '\n') = false) (by decide)
  have hholds : (Symbol.holds (· == '\n')) = (· == Symbol.char '\n') := by
    funext s
    cases s <;> simp [Symbol.holds]
  rw [render, render_of_pieces he.pieces, Except.map, Text.pieces_eq_splitOnP,
    hline.splitOnP_spelled, hholds]
  rfl

theorem spelled_symbol_ne_nil (hv : Variant.derive name = .ok v) (s : Symbol) :
    s.spelled v ≠ [] := by
  cases s with
  | char c => exact List.cons_ne_nil _ _
  | name => exact (Variant.isWord_of_derive hv (.inl rfl)).1
  | upper => exact (Variant.isWord_of_derive hv (.inr rfl)).1

theorem length_le_spelled (hv : Variant.derive name = .ok v) (row : List Symbol) :
    row.length ≤ (spelled v row).length := by
  induction row with
  | nil => exact Nat.le_refl 0
  | cons s rest ih =>
    have hs := List.length_pos_of_ne_nil (spelled_symbol_ne_nil hv s)
    rw [spelled_cons, List.length_append, List.length_cons]
    omega

namespace IsPlainRow

variable (hrow : e.IsPlainRow row) (hv : Variant.derive name = .ok v)

include hrow hv

theorem isBlank_head : ∀ c ∈ (spelled v row).head?, isBlank c = false := by
  intro c hc
  obtain ⟨s, hs, hblank⟩ := (Option.any_eq_true ..).1 hrow.first
  obtain ⟨rest, rfl⟩ := List.head?_eq_some_iff.1 hs
  rw [spelled_cons, List.head?_append_of_ne_nil _ (spelled_symbol_ne_nil hv s)] at hc
  exact (avoids_isBlank hv).spelled_symbol (by simpa using hblank) c (List.mem_of_head? hc)

theorem isBlank_getLast : ∀ c ∈ (spelled v row).getLast?, isBlank c = false := by
  intro c hc
  obtain ⟨s, hs, hblank⟩ := (Option.any_eq_true ..).1 hrow.last
  obtain ⟨front, rfl⟩ := List.getLast?_eq_some_iff.1 hs
  rw [spelled_append, spelled_cons, spelled_nil, List.append_nil,
    List.getLast?_append_of_ne_nil _ (spelled_symbol_ne_nil hv s)] at hc
  exact (avoids_isBlank hv).spelled_symbol (by simpa using hblank) c (List.mem_of_getLast? hc)

theorem trim_eq : (spelled v row).trim = spelled v row :=
  Text.trim_eq_self (hrow.isBlank_head hv) (hrow.isBlank_getLast hv)

theorem isBlankText_eq : (spelled v row).isBlankText = false := by
  obtain ⟨s, hs, -⟩ := (Option.any_eq_true ..).1 hrow.first
  obtain ⟨rest, rfl⟩ := List.head?_eq_some_iff.1 hs
  obtain ⟨c, more, hc⟩ := List.exists_cons_of_ne_nil (spelled_symbol_ne_nil hv s)
  have hhead := hrow.isBlank_head hv c (by simp [hc])
  rw [Text.isBlankText, List.all_eq_false]
  exact ⟨c, by simp [hc], by simp [hhead]⟩

end IsPlainRow

theorem IsPlain.exists_row (he : e.IsPlain) (hl : l ∈ e.snippet v) :
    ∃ row, e.IsPlainRow row ∧ l = spelled v row := by
  obtain ⟨row, hrow, rfl⟩ := List.mem_map.1 hl
  exact ⟨row, he.rows row hrow, rfl⟩

/-- The words of the new lines are the spellings of the variant, and words that cannot be spellings
of others. -/
theorem IsPlain.mem_words (he : e.IsPlain) (hv : Variant.derive name = .ok v)
    (hl : l ∈ e.snippet v) (ht : token ∈ l.words) :
    token = v.name ∨ token = v.upper ∨ Text.lowerAscii token ∈ Registry.ownWords ∨
      Variant.isName (Text.lowerAscii token) = false := by
  obtain ⟨row, hrow, rfl⟩ := he.exists_row hl
  have hword : Avoids v fun c => !Text.isAsciiWord c := avoids hv fun c hc => by simp [hc]
  rw [Text.words, hword.splitOnP_spelled] at ht
  obtain ⟨word, hw, rfl⟩ := List.mem_map.1 ht
  rcases hrow.words word hw with rfl | rfl | ⟨heq, hown⟩
  · exact .inl (List.append_nil _)
  · exact .inr (.inl (List.append_nil _))
  · rw [heq, spelled_map_char]
    exact .inr (.inr (hown.imp_left List.contains_iff_mem.1))

end Entry

namespace Registry

variable {e : Entry} {name t : Text} {v : Variant}

theorem isPlain_of_mem_standard (he : e ∈ standard) : e.IsPlain := by
  have hall : ∀ e ∈ standard, e.IsPlain := by decide +kernel
  exact hall e he

/-- The pattern that ends the blocks of the crate. -/
def slashes : Pattern :=
  ⟨.seq (.set false [.code '/'.toNat]) (.set false [.code '/'.toNat]), []⟩

theorem ofText_slashes : Pattern.ofText "//".toList = .ok slashes := rfl

theorem length_step? {p q : Pattern.Place} {accepts : Char → Bool}
    (h : p.step? accepts = some q) : p.ahead.length = q.ahead.length + 1 := by
  unfold Pattern.Place.step? at h
  split at h
  · cases h
  · next c rest hahead =>
    split at h <;> cases h
    rw [hahead, List.length_cons]

/-- The pattern matches texts of two characters alone. -/
theorem length_of_matchesAll_slashes (h : slashes.matchesAll t = true) : t.length = 2 := by
  rw [Pattern.matchesAll, Bool.and_eq_true, Option.isSome_iff_exists] at h
  obtain ⟨-, q, hq⟩ := h
  obtain ⟨p₁, h₁, hq⟩ := Option.bind_eq_some_iff.1 hq
  obtain ⟨p₂, h₂, hq⟩ := Option.bind_eq_some_iff.1 hq
  have hlength : t.length = p₂.ahead.length + 1 + 1 :=
    (length_step? h₁).trans (by rw [length_step? h₂])
  split at hq
  · next hend => rw [hlength, List.isEmpty_iff.1 hend, List.length_nil]
  · cases hq

/-- No line of more than two characters ends a block. -/
theorem stop_of_mem_standard (he : e ∈ standard) {stop : Option Pattern}
    (hstop : e.stop? = .ok stop) (ht : e.blockEnd = none ∨ 2 < t.length) :
    stop.any (·.matchesAll t) = false := by
  have hall : ∀ e ∈ standard, e.blockEnd = none ∨ e.blockEnd = some "//".toList := by decide
  rcases hall e he with hend | hend
  · rw [Entry.stop?, Entry.stopText?, hend] at hstop
    cases hstop
    rfl
  · have htext : e.stopText? = some "//".toList := by rw [Entry.stopText?, hend]; rfl
    rw [Entry.stop?, htext] at hstop
    dsimp only at hstop
    rw [ofText_slashes] at hstop
    cases hstop
    rw [Option.any_some, Bool.eq_false_iff]
    intro hm
    have hlength := length_of_matchesAll_slashes hm
    rcases ht with hnone | ht
    · rw [hend] at hnone
      cases hnone
    · omega

theorem validate_standard : validate standard = .ok () := by decide +kernel

/-- The lines of an entry are rendered for every variant. -/
theorem render_standard (he : e ∈ standard) (hv : Variant.derive name = .ok v) :
    e.render v = .ok (e.snippet v) := (isPlain_of_mem_standard he).render_eq hv

/-- The new lines are taken for nothing else in the host file of their entry. -/
theorem clean_snippet (he : e ∈ standard) (hv : Variant.derive name = .ok v) :
    HostFile.Clean [e] e (e.snippet v) := by
  have hplain := isPlain_of_mem_standard he
  refine ⟨Entry.render_ne_nil (render_standard he hv), fun l hl => ?_,
    fun stop hstop l hl => ?_, fun l hl e' he' => ?_⟩
  · obtain ⟨row, hrow, rfl⟩ := hplain.exists_row hl
    exact ⟨hrow.isBlankText_eq hv, (Entry.avoids_isLineBreak hv).spelled_symbols hrow.unbroken⟩
  · obtain ⟨row, hrow, rfl⟩ := hplain.exists_row hl
    rw [hrow.trim_eq hv]
    have hlength := Entry.length_le_spelled hv row
    exact stop_of_mem_standard he hstop (hrow.stop.imp_right fun h => by omega)
  · obtain ⟨row, hrow, rfl⟩ := hplain.exists_row hl
    obtain rfl := List.mem_singleton.1 he'
    rw [hrow.trim_eq hv]
    intro heq
    have hcount := (Entry.avoids_isBlank hv).countP_spelled row
    rw [heq] at hcount
    exact hrow.anchor hcount.symm

/-- The lines for one variant do not have the spellings of another one whose name is not one of
the words of the templates. -/
theorem not_mem_words_snippet {name' : Text} {v' : Variant} (he : e ∈ standard)
    (hv : Variant.derive name = .ok v) (hv' : Variant.derive name' = .ok v') (hne : name ≠ name')
    (hown : name' ∉ ownWords) {l : Text} (hl : l ∈ e.snippet v) :
    v'.name ∉ l.words ∧ v'.upper ∉ l.words := by
  have hnot {spelling : Text} (hs : spelling = v'.name ∨ spelling = v'.upper) :
      spelling ∉ l.words := by
    intro hm
    have hlower := Variant.lowerAscii_of_derive hv' hs
    have hwords := (isPlain_of_mem_standard he).mem_words hv hl hm
    rw [hlower, ← or_assoc] at hwords
    rcases hwords with hsame | hmem | hname
    · exact hne ((Variant.lowerAscii_of_derive hv hsame).symm.trans hlower)
    · exact hown hmem
    · rw [(Variant.derive_eq_ok hv').1] at hname
      cases hname
  exact ⟨hnot (.inl rfl), hnot (.inr rfl)⟩

end Registry

end OpScaffold
