import OpScaffold.Word

/-!
# OpScaffold.Proofs.Word

Searching for a token and replacing it. A search finds a token if it stands anywhere (`occurs_iff`).
With the boundary of registered names it finds the words of a text, which are its runs of ASCII
letters and digits (`occurs_word_iff`).
-/

namespace OpScaffold

variable {boundary : Boundary} {token text : Text}

/-! ## Searching -/

/-- A token stands where a text begins with it, between characters that its boundary admits. -/
theorem standsAt_eq (before : Option Char) (text : Text) :
    standsAt boundary token before text =
      (token.isPrefixOf text && boundary before (text.drop token.length).head?) := by
  unfold standsAt
  cases h : Text.dropHead? token text with
  | some rest => simp [Text.dropHead?_eq_some_iff.1 h]
  | none =>
    have hno : ¬ token <+: text := by
      rintro ⟨rest, hrest⟩
      rw [Text.dropHead?_eq_some_iff.2 hrest.symm] at h
      cases h
    rw [Bool.eq_false_iff.2 (mt List.isPrefixOf_iff_prefix.1 hno), Bool.false_and]

/-- A token stands at the start of the texts that begin with it, between admitted neighbours. -/
theorem standsAt_iff {before : Option Char} : standsAt boundary token before text = true ↔
    ∃ back, text = token ++ back ∧ boundary before back.head? = true := by
  rw [standsAt_eq, Bool.and_eq_true, List.isPrefixOf_iff_prefix]
  constructor
  · rintro ⟨⟨back, rfl⟩, hb⟩
    rw [List.drop_left] at hb
    exact ⟨back, rfl, hb⟩
  · rintro ⟨back, rfl, hb⟩
    rw [List.drop_left]
    exact ⟨List.prefix_append _ _, hb⟩

/-- Whether a token stands behind the characters `front` of a text; the character `before` stands
before the text. -/
def Stands (boundary : Boundary) (token : Text) (before : Option Char) (front text : Text) : Prop :=
  ∃ back, text = front ++ token ++ back ∧ boundary (front.getLast?.or before) back.head? = true

theorem stands_nil {before : Option Char} :
    Stands boundary token before [] text ↔ standsAt boundary token before text = true :=
  standsAt_iff.symm

theorem stands_cons {before : Option Char} {c d : Char} {front : Text} :
    Stands boundary token before (d :: front) (c :: text) ↔
      c = d ∧ Stands boundary token (some c) front text := by
  have hlast : ((d :: front).getLast?).or before = front.getLast?.or (some d) := by
    rw [List.getLast?_cons]
    cases front.getLast? <;> rfl
  unfold Stands
  rw [hlast]
  constructor
  · rintro ⟨back, heq, hb⟩
    obtain ⟨rfl, rfl⟩ := List.cons.inj heq
    exact ⟨rfl, back, rfl, hb⟩
  · rintro ⟨rfl, back, rfl, hb⟩
    exact ⟨back, rfl, hb⟩

/-- A search that starts at no token finds one if it stands at one of the places to come. -/
theorem occurrencesFrom_ne_nil_iff (before : Option Char) (position : Nat) (text : Text) :
    occurrencesFrom boundary token before position 0 text ≠ [] ↔
      ∃ front, Stands boundary token before front text := by
  induction text generalizing before position with
  | nil =>
    have hnil (front : Text) : Stands boundary token before front [] → front = [] := by
      rintro ⟨back, heq, -⟩
      exact (List.append_eq_nil_iff.1 (List.append_eq_nil_iff.1 heq.symm).1).1
    rw [occurrencesFrom]
    constructor
    · intro h
      exact ⟨[], stands_nil.2 (by simpa using h)⟩
    · rintro ⟨front, hs⟩
      obtain rfl := hnil front hs
      simp [stands_nil.1 hs]
  | cons c text ih =>
    have hsplit : (∃ front, Stands boundary token before front (c :: text)) ↔
        standsAt boundary token before (c :: text) = true ∨
          ∃ front, Stands boundary token (some c) front text := by
      constructor
      · rintro ⟨_ | ⟨d, front⟩, hs⟩
        · exact .inl (stands_nil.1 hs)
        · exact .inr ⟨front, (stands_cons.1 hs).2⟩
      · rintro (hs | ⟨front, hs⟩)
        · exact ⟨[], stands_nil.2 hs⟩
        · exact ⟨c :: front, stands_cons.2 ⟨rfl, hs⟩⟩
    rw [occurrencesFrom, hsplit, ← ih (some c) (position + 1)]
    split
    · next h => simp [h]
    · next h => simp [h]

/-- A token occurs in a text if it stands anywhere in it. -/
theorem occurs_iff : occurs boundary token text = true ↔
    ∃ front back, text = front ++ token ++ back ∧ boundary front.getLast? back.head? = true := by
  have h : occurrences boundary token text ≠ [] ↔ _ := occurrencesFrom_ne_nil_iff none 0 text
  simp only [Stands, Option.or_none] at h
  rw [← h, occurs]
  simp

/-! ## Replacing -/

/-- The characters of an occurrence that was found are passed over. -/
theorem replaceFrom_skip (replacement : Text) {c : Char} (skipped text : Text) :
    replaceFrom boundary token replacement (some c) skipped.length (skipped ++ text) =
      replaceFrom boundary token replacement (some ((c :: skipped).getLast (by simp))) 0 text := by
  induction skipped generalizing c with
  | nil => rfl
  | cons d rest ih => exact ih

/-- A token that is found is replaced. -/
theorem replaceFrom_of_standsAt (replacement : Text) (ht : token ≠ []) {before : Option Char}
    (h : standsAt boundary token before (token ++ text) = true) :
    replaceFrom boundary token replacement before 0 (token ++ text) =
      replacement ++ replaceFrom boundary token replacement token.getLast? 0 text := by
  obtain ⟨c, token', rfl⟩ := List.exists_cons_of_ne_nil ht
  rw [List.cons_append] at h ⊢
  rw [replaceFrom, if_pos h, List.length_cons, Nat.add_sub_cancel, replaceFrom_skip,
    List.isEmpty_cons, if_neg Bool.false_ne_true, List.append_nil,
    List.getLast?_eq_some_getLast (List.cons_ne_nil c token')]

/-- A character at which the token does not stand is kept. -/
theorem replaceFrom_cons_of_not_standsAt (replacement : Text) {before : Option Char} {c : Char}
    {text : Text} (h : standsAt boundary token before (c :: text) = false) :
    replaceFrom boundary token replacement before 0 (c :: text) =
      c :: replaceFrom boundary token replacement (some c) 0 text := by
  rw [replaceFrom, if_neg (by simp [h])]

/-- Characters are kept if the token stands nowhere behind the first of them. -/
theorem replaceFrom_append_of_not_standsAt (replacement : Text) {c : Char} {kept text : Text}
    (h : ∀ u d w, c :: kept = u ++ d :: w → w ≠ [] →
      standsAt boundary token (some d) (w ++ text) = false) :
    replaceFrom boundary token replacement (some c) 0 (kept ++ text) =
      kept ++
        replaceFrom boundary token replacement (some ((c :: kept).getLast (by simp))) 0 text := by
  induction kept generalizing c with
  | nil => rfl
  | cons d rest ih =>
    have hd := h [] c (d :: rest) rfl (by simp)
    refine (replaceFrom_cons_of_not_standsAt replacement hd).trans (congrArg (d :: ·) ?_)
    exact ih fun u e w hw => h (c :: u) e w (by rw [hw]; rfl)

/-! ## Words -/

/-- The words of a text: its runs of ASCII letters and digits, empty ones between separators
included. -/
def Text.words (t : Text) : List Text := t.splitOnP fun c => !Text.isAsciiWord c

namespace Text

/-- A text that is a word. -/
theorem words_of_isWord (h : ∀ c ∈ text, isAsciiWord c = true) : text.words = [text] :=
  List.splitOnP_eq_singleton fun c hc => by simp [h c hc]

/-- The words on both sides of a separator. -/
theorem words_append_cons (t : Text) {c : Char} (h : isAsciiWord c = false) (u : Text) :
    words (t ++ c :: u) = words t ++ words u := List.splitOnP_append_cons t u (by simp [h])

theorem words_nil : words [] = [[]] := words_of_isWord (by simp)

/-- Separators before a text add no word to it but empty ones. -/
theorem mem_words_append_left {u : Text} (hu : ∀ c ∈ u, isAsciiWord c = false) (ht : token ≠ []) :
    token ∈ words (u ++ text) ↔ token ∈ words text := by
  induction u with
  | nil => rfl
  | cons c u ih =>
    have hcons := words_append_cons [] (hu c (by simp)) (u ++ text)
    rw [List.nil_append] at hcons
    rw [List.cons_append, hcons, words_nil, List.singleton_append, List.mem_cons,
      or_iff_right ht, ih fun d hd => hu d (by simp [hd])]

/-- Separators behind a text add no word to it but empty ones. -/
theorem mem_words_append_right {u : Text} (hu : ∀ c ∈ u, isAsciiWord c = false) (ht : token ≠ []) :
    token ∈ words (text ++ u) ↔ token ∈ words text := by
  cases u with
  | nil => rw [List.append_nil]
  | cons c u =>
    have hrest : token ∈ words (u ++ []) ↔ token ∈ words [] :=
      mem_words_append_left (fun d hd => hu d (by simp [hd])) ht
    rw [List.append_nil, words_nil, List.mem_singleton, iff_false_right ht] at hrest
    rw [words_append_cons _ (hu c (by simp)), List.mem_append, or_iff_left hrest]

end Text

theorem word_eq_true_iff {before after : Option Char} :
    Boundary.word before after = true ↔
      (∀ c ∈ before, Text.isAsciiWord c = false) ∧ ∀ c ∈ after, Text.isAsciiWord c = false := by
  cases before <;> cases after <;> simp [Boundary.word]

theorem delimited_eq_true_iff {before after : Option Char} :
    Boundary.delimited before after = true ↔
      (∃ c ∈ before, c ∈ Boundary.delimiters) ∧ ∃ c ∈ after, c ∈ Boundary.delimiters := by
  cases before <;> cases after <;> simp [Boundary.delimited]

/-- Between separators the search finds the words of a text. -/
theorem occurs_word_iff (h : ∀ c ∈ token, Text.isAsciiWord c = true) :
    occurs .word token text = true ↔ token ∈ text.words := by
  rw [occurs_iff]
  constructor
  · rintro ⟨front, back, rfl, hb⟩
    obtain ⟨hbefore, hafter⟩ := word_eq_true_iff.1 hb
    have hfront : token ∈ (front ++ token).words := by
      rcases List.eq_nil_or_concat front with rfl | ⟨front, c, rfl⟩
      · rw [List.nil_append, Text.words_of_isWord h]
        exact List.mem_singleton_self _
      · rw [List.concat_eq_append, List.append_assoc, List.singleton_append,
          Text.words_append_cons _ (hbefore c (by simp)), Text.words_of_isWord h]
        simp
    cases back with
    | nil => rwa [List.append_nil]
    | cons c back =>
      rw [Text.words_append_cons _ (hafter c (by simp))]
      exact List.mem_append_left _ hfront
  · intro hm
    induction hn : text.length using Nat.strongRecOn generalizing text with
    | ind n ih =>
    by_cases hall : ∀ c ∈ text, Text.isAsciiWord c = true
    · rw [Text.words_of_isWord hall, List.mem_singleton] at hm
      exact ⟨[], [], by simp [hm], rfl⟩
    · -- the first separator ends the first word
      obtain ⟨first, c, rest, rfl, hfirst, hc⟩ : ∃ first c rest, text = first ++ c :: rest ∧
          (∀ d ∈ first, Text.isAsciiWord d = true) ∧ Text.isAsciiWord c = false := by
        have hsome : (text.find? fun c => !Text.isAsciiWord c).isSome = true := by
          simpa using hall
        obtain ⟨c, hfind⟩ := Option.isSome_iff_exists.1 hsome
        obtain ⟨hc, first, rest, htext, hfirst⟩ := List.find?_eq_some_iff_append.1 hfind
        exact ⟨first, c, rest, htext, by simpa using hfirst, by simpa using hc⟩
      rw [Text.words_append_cons _ hc, Text.words_of_isWord hfirst, List.singleton_append,
        List.mem_cons] at hm
      rcases hm with rfl | hm
      · exact ⟨[], c :: rest, rfl, word_eq_true_iff.2 ⟨by simp, by simpa using hc⟩⟩
      · obtain ⟨front, back, rfl, hb⟩ := ih rest.length (by simp [← hn]; omega) hm rfl
        refine ⟨first ++ c :: front, back, by simp, word_eq_true_iff.2 ⟨?_, ?_⟩⟩
        · rw [List.getLast?_append, List.getLast?_cons]
          have hbefore := (word_eq_true_iff.1 hb).1
          cases hlast : front.getLast? with
          | none => simpa using hc
          | some d => simpa [hlast] using hbefore
        · exact (word_eq_true_iff.1 hb).2

end OpScaffold
