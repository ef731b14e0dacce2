import Mathlib.Data.List.Infix
import OpScaffold.Proofs.Template.Mark
import OpScaffold.Proofs.Variant

/-!
# OpScaffold.Proofs.Exemplar

The template that an exemplar's source stands for is a template in symbols (`template_eq`), so it
can be rendered for every variant. Its tokens are marked one after another, but they do not get in
each other's way: what is shown is the source with its words substituted in one pass from left to
right (`spelled_symbols`).
-/

namespace OpScaffold

/-- No delimiter is a letter or a digit. -/
theorem Text.not_mem_delimiters {c : Char} (hc : isAsciiWord c = true) : c ∉ Boundary.delimiters :=
  forall_isAsciiWord (· ∉ Boundary.delimiters) (by decide) hc

namespace Template

variable {boundary : Boundary} {token : Text} {replacement : List Symbol} {before : Option Symbol}

/-! ## Where a token is marked -/

@[simp] theorem map_char_prefix_iff {s t : Text} :
    s.map Symbol.char <+: t.map Symbol.char ↔ s <+: t :=
  List.prefix_map_iff_of_injective fun _ _ h => Symbol.char.inj h

/-- Between delimiters a word marks symbols where it stands with a delimiter behind it. -/
theorem marksAt_delimited_iff {word : Text} {symbols : List Symbol} :
    marksAt .delimited word before symbols = true ↔
      (∃ c ∈ before.map Symbol.last, c ∈ Boundary.delimiters) ∧
        ∃ d ∈ Boundary.delimiters, (word ++ [d]).map Symbol.char <+: symbols := by
  have hbehind : (∃ d ∈ Boundary.delimiters, (word ++ [d]).map Symbol.char <+: symbols) ↔
      word.map Symbol.char <+: symbols ∧
        ∃ d ∈ (symbols.drop word.length).head?.map Symbol.first, d ∈ Boundary.delimiters := by
    constructor
    · rintro ⟨d, hd, rest, rfl⟩
      refine ⟨⟨.char d :: rest, by simp⟩, d, ?_, hd⟩
      simp [Symbol.first]
    · rintro ⟨⟨rest, rfl⟩, d, hd, hmem⟩
      rw [List.drop_left' (List.length_map _)] at hd
      obtain ⟨s, hs, rfl⟩ := Option.map_eq_some_iff.1 hd
      obtain ⟨tail, rfl⟩ : ∃ tail, rest = s :: tail := List.head?_eq_some_iff.1 hs
      cases s with
      | char c => exact ⟨c, hmem, tail, by simp⟩
      | name => exact absurd hmem (by decide)
      | upper => exact absurd hmem (by decide)
  rw [hbehind, marksAt, Bool.and_eq_true, List.isPrefixOf_iff_prefix, delimited_eq_true_iff]
  exact and_left_comm

/-- Without a boundary a token marks symbols where they begin with it. -/
theorem marksAt_anywhere_iff {symbols : List Symbol} :
    marksAt .anywhere token before symbols = true ↔ token.map Symbol.char <+: symbols := by
  simp [marksAt, Boundary.anywhere]

/-- A field is no part of a token. -/
theorem not_marksAt_field (ht : token ≠ []) {s : Symbol} (hs : ∀ c, s ≠ .char c)
    (rest : List Symbol) : ¬ marksAt boundary token before (s :: rest) := by
  obtain ⟨c, token', rfl⟩ := List.exists_cons_of_ne_nil ht
  simp [marksAt, (hs c).symm]

/-! ## Marking part by part -/

theorem mark_cons_of_not_marksAt {s : Symbol} {rest : List Symbol}
    (h : ¬ marksAt boundary token before (s :: rest)) :
    mark boundary token replacement before (s :: rest) =
      s :: mark boundary token replacement (some s) rest := by
  rw [mark, if_neg h]

/-- A token that is found is replaced. -/
theorem mark_of_marksAt (ht : token ≠ []) {rest : List Symbol}
    (h : marksAt boundary token before (token.map Symbol.char ++ rest)) :
    mark boundary token replacement before (token.map Symbol.char ++ rest) =
      replacement ++ mark boundary token replacement (token.getLast?.map Symbol.char) rest := by
  obtain ⟨c, token', rfl⟩ := List.exists_cons_of_ne_nil ht
  rw [List.map_cons, List.cons_append] at h ⊢
  rw [mark, if_pos h, List.length_cons, Nat.add_sub_cancel, List.drop_left' (List.length_map _)]

/-- Whether no occurrence of a token begins in a text, whatever stands behind the text. -/
def Apart (token t : Text) : Prop := ∀ k < t.length, ¬ token <+: t.drop k ∧ ¬ t.drop k <+: token

instance (token t : Text) : Decidable (Apart token t) := inferInstanceAs (Decidable (∀ _, _))

theorem Apart.drop {t : Text} (h : Apart token t) (n : Nat) : Apart token (t.drop n) := by
  intro k hk
  rw [List.length_drop] at hk
  rw [List.drop_drop]
  exact h (n + k) (by omega)

/-- Nothing begins with a token and with a text apart from it. -/
theorem Apart.not_prefix {t text : Text} (h : Apart token t) (ht : t ≠ []) (htext : t <+: text) :
    ¬ token <+: text := by
  intro hp
  obtain ⟨hfull, hpart⟩ := h 0 (List.length_pos_iff.2 ht)
  exact (List.prefix_or_prefix_of_prefix hp htext).elim hfull hpart

theorem Apart.not_prefix_symbols {t : Text} {symbols : List Symbol} (h : Apart token t)
    (ht : t ≠ []) (htext : t.map Symbol.char <+: symbols) :
    ¬ token.map Symbol.char <+: symbols := by
  intro hp
  obtain ⟨hfull, hpart⟩ := h 0 (List.length_pos_iff.2 ht)
  rcases List.prefix_or_prefix_of_prefix hp htext with hin | hout
  · exact hfull (map_char_prefix_iff.1 hin)
  · exact hpart (map_char_prefix_iff.1 hout)

/-- Characters among which no token begins are kept. -/
theorem mark_append_of_apart {t : Text} (ht : t ≠ []) (h : Apart token t) (rest : List Symbol) :
    mark boundary token replacement before (t.map Symbol.char ++ rest) =
      t.map Symbol.char ++
        mark boundary token replacement (t.getLast?.map Symbol.char) rest := by
  induction t generalizing before with
  | nil => exact absurd rfl ht
  | cons c t ih =>
    have hno : ¬ marksAt boundary token before (.char c :: (t.map Symbol.char ++ rest)) := by
      rw [marksAt, Bool.and_eq_true, List.isPrefixOf_iff_prefix]
      rintro ⟨hp, -⟩
      exact h.not_prefix_symbols (by simp) (List.prefix_append ((c :: t).map Symbol.char) rest) hp
    rw [List.map_cons, List.cons_append, mark_cons_of_not_marksAt hno]
    by_cases hnil : t = []
    · subst hnil; rfl
    · rw [ih hnil (h.drop 1), List.getLast?_cons_of_ne_nil hnil]
      rfl

/-- Where a replacement begins with a field, characters behind it were there before. -/
theorem prefix_of_prefix_mark {s : Symbol} (hs : ∀ c, s ≠ .char c) {symbols : List Symbol}
    {t : Text} (h : t.map Symbol.char <+: mark boundary token (s :: replacement) before symbols) :
    t.map Symbol.char <+: symbols := by
  induction t generalizing before symbols with
  | nil => simp
  | cons c t ih =>
    cases symbols with
    | nil => rwa [mark] at h
    | cons s' rest =>
      rw [mark] at h
      split at h
      · exact absurd (List.cons_prefix_cons.1 h).1.symm (hs c)
      · obtain ⟨hc, ht⟩ := List.cons_prefix_cons.1 h
        exact List.cons_prefix_cons.2 ⟨hc, ih ht⟩

end Template

namespace Exemplar

open Template

/-! ## The template in symbols -/

variable {e v : Variant}

/-- Symbols with the name of an exemplar marked. -/
def markName (e : Variant) : Option Symbol → List Symbol → List Symbol :=
  mark .delimited e.name [.name]

/-- Symbols with the capitals of an exemplar marked. -/
def markUpper (e : Variant) : Option Symbol → List Symbol → List Symbol :=
  mark .delimited e.upper [.upper]

/-- Symbols with the places marked where a rank is taken from an exemplar's number. -/
def markRank (e : Variant) : Option Symbol → List Symbol → List Symbol :=
  mark .anywhere (e.upper ++ rankSuffix) (.upper :: rankSuffix.map Symbol.char)

/-- Symbols with both words marked, one after the other. -/
def markWords (e : Variant) (b₁ b₂ : Option Symbol) (symbols : List Symbol) : List Symbol :=
  markUpper e b₂ (markName e b₁ symbols)

/-- Symbols with all of these marked, one after another. Each search has its own symbol before the
start. -/
def marks (e : Variant) (b₁ b₂ b₃ : Option Symbol) (symbols : List Symbol) : List Symbol :=
  markRank e b₃ (markUpper e b₂ (markName e b₁ symbols))

/-- The symbols of a source's template. -/
def symbols (e : Variant) (source : Text) : List Symbol :=
  marks e none none none (source.map Symbol.char)

/-- Spellings that are not empty and have no braces. -/
structure Plain (e : Variant) : Prop where
  name : e.name ≠ [] ∧ ∀ c ∈ e.name, c ≠ '{' ∧ c ≠ '}'
  upper : e.upper ≠ [] ∧ ∀ c ∈ e.upper, c ≠ '{' ∧ c ≠ '}'

theorem clear_delimited {word : Text} (h : word ≠ [] ∧ ∀ c ∈ word, c ≠ '{' ∧ c ≠ '}') :
    Clear .delimited word where
  ne_nil := h.1
  plain := h.2
  outside := .inl fun c hc after => by simp [Boundary.delimited, hc]

/-- The characters behind the capitals are no braces. -/
theorem forall_rankSuffix : ∀ c ∈ rankSuffix, c ≠ '{' ∧ c ≠ '}' :=
  List.all_iff_forall_prop.1 (by decide)

theorem Plain.clear_rank (h : Plain e) : Clear .anywhere (e.upper ++ rankSuffix) where
  ne_nil := by simp [h.upper.1]
  plain c hc := (List.mem_append.1 hc).elim (h.upper.2 c) (forall_rankSuffix c)
  outside := .inr (List.mem_append_right _ (by decide))

theorem escapeBraces_eq (source : Text) :
    escapeBraces source = written (source.map Symbol.char) := by
  rw [written, List.flatMap_map]
  rfl

/-- The template of a source is the text of its symbols. -/
theorem template_eq (h : Plain e) (source : Text) :
    template source e = written (symbols e source) := by
  have hname : nameField = written [.name] := rfl
  have hupper : upperField = written [.upper] := rfl
  have hrank : rankTemplate = written (.upper :: rankSuffix.map Symbol.char) := by
    rw [written_cons, written_map_char forall_rankSuffix]
    rfl
  unfold template symbols marks markRank markUpper markName
  rw [escapeBraces_eq, hname, hupper, hrank]
  dsimp only
  rw [(clear_delimited h.name).replaceAll_written, (clear_delimited h.upper).replaceAll_written,
    h.clear_rank.replaceAll_written]

/-- The template of a source is rendered for every variant. -/
theorem render_template (h : Plain e) (source : Text) (v : Variant) :
    render (template source e) v = .ok (spelled v (symbols e source)) := by
  rw [template_eq h, render_written]

/-! ## One pass -/

/-- Whether a word stands at the start of a text with a delimiter on either side; `before` is the
character before the text. -/
def Delimited (word : Text) (before : Option Char) (text : Text) : Prop :=
  (∃ c ∈ before, c ∈ Boundary.delimiters) ∧ ∃ d ∈ Boundary.delimiters, word ++ [d] <+: text

instance (word : Text) (before : Option Char) (text : Text) :
    Decidable (Delimited word before text) :=
  decidable_of_iff (before.any (· ∈ Boundary.delimiters) = true ∧
    Boundary.delimiters.any (fun d => (word ++ [d]).isPrefixOf text) = true)
    (by simp [Delimited, Option.any_eq_true])

theorem Delimited.exists_tail {word text : Text} {before : Option Char}
    (h : Delimited word before text) :
    ∃ d ∈ Boundary.delimiters, ∃ tail, text = word ++ d :: tail := by
  obtain ⟨-, d, hd, tail, rfl⟩ := h
  exact ⟨d, hd, tail, by simp⟩

/-- A text with the words of the variant `e` replaced by those of `v` in one pass: a delimited name,
delimited capitals, and capitals where a rank is taken. All else is copied. -/
def substitute (e v : Variant) : (before : Option Char) → Text → Text
  | _, [] => []
  | before, c :: text =>
    if Delimited e.name before (c :: text) then
      v.name ++ substitute e v e.name.getLast? (text.drop (e.name.length - 1))
    else if Delimited e.upper before (c :: text) then
      v.upper ++ substitute e v e.upper.getLast? (text.drop (e.upper.length - 1))
    else if e.upper ++ rankSuffix <+: c :: text then
      v.upper ++ rankSuffix ++ substitute e v (e.upper ++ rankSuffix).getLast?
        (text.drop ((e.upper ++ rankSuffix).length - 1))
    else c :: substitute e v (some c) text
termination_by _ text => text.length

/-- Spellings of which none begins inside another. -/
structure Separate (e : Variant) : Prop extends Plain e where
  inner : ∀ c ∈ e.name, c ∉ Boundary.delimiters
  upper_apart : Apart e.name e.upper
  rank_apart : Apart e.name (e.upper ++ rankSuffix)
  tail_apart : Apart e.upper (e.upper ++ rankSuffix).tail

theorem separate_standard : Separate standard.variant where
  name := ⟨by decide, List.all_iff_forall_prop.1 (by decide)⟩
  upper := ⟨by decide, List.all_iff_forall_prop.1 (by decide)⟩
  inner := List.all_iff_forall_prop.1 (by decide)
  upper_apart := by decide
  rank_apart := by decide
  tail_apart := by decide

theorem drop_of_cons_eq_append {word text rest : Text} {c : Char} (hword : word ≠ [])
    (h : c :: text = word ++ rest) : text.drop (word.length - 1) = rest := by
  obtain ⟨d, word', rfl⟩ := List.exists_cons_of_ne_nil hword
  rw [List.cons_append, List.cons.injEq] at h
  rw [h.2, List.length_cons, Nat.add_sub_cancel, List.drop_left]

/-! ## The marks at one place -/

variable {before : Option Char} {b₁ b₂ b₃ : Option Symbol}

theorem map_last_map_char (o : Option Char) : (o.map Symbol.char).map Symbol.last = o := by
  cases o <;> rfl

/-- In characters a word is marked where it is delimited. -/
theorem marksAt_map_char_iff {word text : Text} (hb : b₁.map Symbol.last = before) :
    marksAt .delimited word b₁ (text.map Symbol.char) = true ↔ Delimited word before text := by
  rw [marksAt_delimited_iff, hb]
  simp only [map_char_prefix_iff]
  rfl

/-- A place where a rank is taken from an operator's number. -/
def rankPlace (e : Variant) : Text := e.upper ++ rankSuffix

theorem rank_ne_nil : e.upper ++ rankSuffix ≠ [] := List.append_ne_nil_of_right_ne_nil _ (by decide)

theorem markWords_name (hupper : e.upper ≠ []) (hname : e.name ≠ []) {rest : List Symbol}
    (hm : marksAt .delimited e.name b₁ (e.name.map Symbol.char ++ rest)) :
    markWords e b₁ b₂ (e.name.map Symbol.char ++ rest) =
      .name :: markWords e (e.name.getLast?.map Symbol.char) (some .name) rest := by
  unfold markWords markName
  rw [mark_of_marksAt hname hm, List.singleton_append, markUpper,
    mark_cons_of_not_marksAt (not_marksAt_field hupper (by simp) _)]

theorem markWords_upper (hupper : e.upper ≠ []) (hname : e.name ≠ [])
    (hinner : ∀ c ∈ e.name, c ∉ Boundary.delimiters) (hapart : Apart e.name e.upper)
    (hb : ∃ c ∈ b₂.map Symbol.last, c ∈ Boundary.delimiters) {d : Char}
    (hd : d ∈ Boundary.delimiters) (tail : Text) :
    markWords e b₁ b₂ ((e.upper ++ d :: tail).map Symbol.char) =
      .upper :: markWords e (e.upper.getLast?.map Symbol.char) (e.upper.getLast?.map Symbol.char)
        ((d :: tail).map Symbol.char) := by
  have hbehind : ¬ marksAt .delimited e.name (e.upper.getLast?.map Symbol.char)
      ((d :: tail).map Symbol.char) := by
    rw [marksAt_map_char_iff (map_last_map_char _)]
    rintro ⟨-, d', -, hp⟩
    obtain ⟨x, name', hx⟩ := List.exists_cons_of_ne_nil hname
    rw [hx] at hp
    obtain ⟨rfl, -⟩ := List.cons_prefix_cons.1 hp
    exact hinner x (by simp [hx]) hd
  have hm : marksAt .delimited e.upper b₂ (e.upper.map Symbol.char ++
      markName e (e.upper.getLast?.map Symbol.char) ((d :: tail).map Symbol.char)) := by
    rw [marksAt_delimited_iff]
    refine ⟨hb, d, hd, ?_⟩
    rw [List.map_cons, markName, mark_cons_of_not_marksAt hbehind, List.map_append,
      List.prefix_append_right_inj]
    exact ⟨_, rfl⟩
  unfold markWords
  rw [List.map_append, markName, mark_append_of_apart hupper hapart, ← markName, markUpper,
    mark_of_marksAt hupper hm, List.singleton_append]

/-- What the search for the capitals would find behind the one for the name stands in the symbols
themselves. -/
theorem markWords_cons {s : Symbol} {rest : List Symbol}
    (hname : ¬ marksAt .delimited e.name b₁ (s :: rest))
    (hupper : ¬ marksAt .delimited e.upper b₂ (s :: rest)) :
    markWords e b₁ b₂ (s :: rest) = s :: markWords e (some s) (some s) rest := by
  have hone : markName e b₁ (s :: rest) = s :: markName e (some s) rest :=
    mark_cons_of_not_marksAt hname
  have htwo : ¬ marksAt .delimited e.upper b₂ (markName e b₁ (s :: rest)) := by
    rw [marksAt_delimited_iff] at hupper ⊢
    rintro ⟨hb, d, hd, hp⟩
    exact hupper ⟨hb, d, hd, prefix_of_prefix_mark (by simp) hp⟩
  unfold markWords
  rw [hone] at htwo ⊢
  exact mark_cons_of_not_marksAt htwo

theorem marks_name (h : Separate e) {rest : List Symbol}
    (hm : marksAt .delimited e.name b₁ (e.name.map Symbol.char ++ rest)) :
    marks e b₁ b₂ b₃ (e.name.map Symbol.char ++ rest) =
      .name :: marks e (e.name.getLast?.map Symbol.char) (some .name) (some .name) rest := by
  rw [marks, ← markWords, markWords_name h.upper.1 h.name.1 hm]
  exact mark_cons_of_not_marksAt (not_marksAt_field rank_ne_nil (by simp) _)

theorem marks_upper (h : Separate e) (hb : ∃ c ∈ b₂.map Symbol.last, c ∈ Boundary.delimiters)
    {d : Char} (hd : d ∈ Boundary.delimiters) (tail : Text) :
    marks e b₁ b₂ b₃ ((e.upper ++ d :: tail).map Symbol.char) =
      .upper :: marks e (e.upper.getLast?.map Symbol.char) (e.upper.getLast?.map Symbol.char)
        (some .upper) ((d :: tail).map Symbol.char) := by
  rw [marks, ← markWords, markWords_upper h.upper.1 h.name.1 h.inner h.upper_apart hb hd]
  exact mark_cons_of_not_marksAt (not_marksAt_field rank_ne_nil (by simp) _)

theorem marks_rank (h : Separate e) (hb : ¬ ∃ c ∈ b₂.map Symbol.last, c ∈ Boundary.delimiters)
    (rest : List Symbol) :
    let last := (e.upper ++ rankSuffix).getLast?.map Symbol.char
    marks e b₁ b₂ b₃ ((e.upper ++ rankSuffix).map Symbol.char ++ rest) =
      .upper :: (rankSuffix.map Symbol.char ++ marks e last last last rest) := by
  intro last
  obtain ⟨x, place, hplace⟩ := List.exists_cons_of_ne_nil (rank_ne_nil (e := e))
  have hne : place ≠ [] := by
    intro hnil
    have hsuffix : rankSuffix.length = 12 := by decide
    have hlength := congrArg List.length hplace
    rw [hnil, List.length_append, hsuffix, List.length_singleton] at hlength
    omega
  have hlast : place.getLast?.map Symbol.char = last := by
    rw [← List.getLast?_cons_of_ne_nil hne, ← hplace]
  have hno (symbols : List Symbol) : ¬ marksAt .delimited e.upper b₂ symbols := fun hm =>
    hb (marksAt_delimited_iff.1 hm).1
  have htail := h.tail_apart
  rw [hplace, List.tail_cons] at htail
  have hupper (symbols : List Symbol) :
      markUpper e b₂ ((e.upper ++ rankSuffix).map Symbol.char ++ symbols) =
        (e.upper ++ rankSuffix).map Symbol.char ++ markUpper e last symbols := by
    rw [hplace, List.map_cons, List.cons_append, markUpper, mark_cons_of_not_marksAt (hno _),
      mark_append_of_apart hne htail, hlast, List.cons_append]
  unfold marks
  rw [markName, mark_append_of_apart rank_ne_nil h.rank_apart, hupper, markRank,
    mark_of_marksAt rank_ne_nil (marksAt_anywhere_iff.2 (List.prefix_append _ _)), List.cons_append]

theorem marks_char {c : Char} {text : Text} (hb₁ : b₁.map Symbol.last = before)
    (hb₂ : (∃ c ∈ b₂.map Symbol.last, c ∈ Boundary.delimiters) →
      ∃ c ∈ before, c ∈ Boundary.delimiters)
    (hname : ¬ Delimited e.name before (c :: text))
    (hupper : ¬ Delimited e.upper before (c :: text))
    (hplace : ¬ e.upper ++ rankSuffix <+: c :: text) :
    marks e b₁ b₂ b₃ ((c :: text).map Symbol.char) =
      .char c :: marks e (some (.char c)) (some (.char c)) (some (.char c))
        (text.map Symbol.char) := by
  have hno₁ := mt (marksAt_map_char_iff hb₁).1 hname
  have hno₂ : ¬ marksAt .delimited e.upper b₂ ((c :: text).map Symbol.char) := by
    rw [marksAt_delimited_iff]
    rintro ⟨hb, d, hd, hp⟩
    exact hupper ⟨hb₂ hb, d, hd, map_char_prefix_iff.1 hp⟩
  have hwords := markWords_cons hno₁ hno₂
  have hno₃ : ¬ marksAt .anywhere (e.upper ++ rankSuffix) b₃
      (markWords e b₁ b₂ ((c :: text).map Symbol.char)) := by
    rw [marksAt_anywhere_iff]
    intro hp
    have hp' := prefix_of_prefix_mark (by simp) hp
    exact hplace (map_char_prefix_iff.1 (prefix_of_prefix_mark (by simp) hp'))
  rw [List.map_cons, hwords] at hno₃
  rw [marks, ← markWords, List.map_cons, hwords]
  exact mark_cons_of_not_marksAt hno₃

/-- The three searches do not get in each other's way: to mark one token after another is to
substitute all of them at once. What the second search has before it need not be what the first one
has, a name that was marked in its place, but then neither is a delimiter. -/
theorem spelled_marks (h : Separate e) (v : Variant) (before : Option Char) (text : Text)
    (hb₁ : b₁.map Symbol.last = before)
    (hb₂ : (∃ c ∈ b₂.map Symbol.last, c ∈ Boundary.delimiters) ↔
      ∃ c ∈ before, c ∈ Boundary.delimiters) :
    spelled v (marks e b₁ b₂ b₃ (text.map Symbol.char)) = substitute e v before text := by
  fun_induction substitute e v before text generalizing b₁ b₂ b₃ with
  | case1 => simp [marks, markName, markUpper, markRank, mark]
  | case2 before c text hname ih =>
    have hm := (marksAt_map_char_iff hb₁).2 hname
    obtain ⟨d, -, tail, hrest⟩ := hname.exists_tail
    rw [drop_of_cons_eq_append h.name.1 hrest] at ih ⊢
    rw [hrest, List.map_append] at hm ⊢
    rw [marks_name h hm, spelled_cons]
    refine congrArg (v.name ++ ·) (ih (map_last_map_char _) (iff_of_false ?_ ?_))
    · rintro ⟨c, hc, hmem⟩
      cases hc
      exact absurd hmem (by decide)
    · rintro ⟨c, hc, hmem⟩
      exact h.inner c (List.mem_of_getLast? hc) hmem
  | case3 before c text hname hupper ih =>
    obtain ⟨d, hd, tail, hrest⟩ := hupper.exists_tail
    rw [drop_of_cons_eq_append h.upper.1 hrest] at ih ⊢
    rw [hrest, marks_upper h (hb₂.2 hupper.1) hd, spelled_cons]
    exact congrArg (v.upper ++ ·) (ih (map_last_map_char _) (by rw [map_last_map_char]))
  | case4 before c text hname hupper hplace ih =>
    obtain ⟨rest, hrest⟩ := hplace
    have hbefore : ¬ ∃ c ∈ b₂.map Symbol.last, c ∈ Boundary.delimiters := by
      have hlow : ['_'] <+: rankSuffix := by decide
      refine fun hb => hupper ⟨hb₂.1 hb, '_', by decide, ?_⟩
      rw [← hrest, List.append_assoc, List.prefix_append_right_inj]
      exact hlow.trans (List.prefix_append _ _)
    rw [drop_of_cons_eq_append rank_ne_nil hrest.symm] at ih ⊢
    rw [← hrest, List.map_append, marks_rank h hbefore, spelled_cons, spelled_append,
      spelled_map_char, List.append_assoc]
    exact congrArg (fun t => v.upper ++ (rankSuffix ++ t))
      (ih (map_last_map_char _) (by rw [map_last_map_char]))
  | case5 before c text hname hupper hplace ih =>
    rw [marks_char hb₁ hb₂.1 hname hupper hplace, spelled_cons]
    exact congrArg ([c] ++ ·) (ih rfl (by simp [Symbol.last]))

/-- **Substitution.** For every source and every variant the template made after the exemplar of the
crate is rendered, and shows the source with the exemplar's words substituted in one pass. -/
theorem render_template_standard (source : Text) (v : Variant) :
    render (template source standard.variant) v =
      .ok (substitute standard.variant v none source) := by
  rw [render_template separate_standard.toPlain, symbols,
    spelled_marks separate_standard v none source rfl Iff.rfl]

/-- Braces are copied, neighbours share their delimiter, and a rank is taken behind a letter too. -/
example : substitute standard.variant ⟨"cos".toList, "COS".toList⟩ none
    "\x7b sin_SIN \x7d xSIN_OP as usize, sin".toList =
      "\x7b cos_COS \x7d xCOS_OP as usize, sin".toList := by
  decide +kernel

end Exemplar

end OpScaffold
