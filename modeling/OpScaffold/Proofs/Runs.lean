import Mathlib.Data.Bool.AllAny
import OpScaffold.Proofs.Word

/-!
# OpScaffold.Proofs.Runs

What a search finds. It goes on behind the token that it found, so it could pass over one that
begins inside. But where no occurrence begins behind a character of the token, the search finds the
token wherever it stands (`Solid.mem_occurrencesFrom_iff`). The boundaries of names are of this
kind, and with them these places are maximal runs of characters (`occurrences_enumerate_runs`).
-/

namespace OpScaffold

variable {boundary : Boundary} {token text : Text}

/-! ## One step of a search -/

/-- The characters of an occurrence that was found are passed over. -/
theorem occurrencesFrom_skip {c : Char} (position : Nat) (skipped text : Text) :
    occurrencesFrom boundary token (some c) position skipped.length (skipped ++ text) =
      occurrencesFrom boundary token (some ((c :: skipped).getLast (by simp)))
        (position + skipped.length) 0 text := by
  induction skipped generalizing c position with
  | nil => rfl
  | cons d rest ih =>
    have hposition : position + (d :: rest).length = position + 1 + rest.length := by
      rw [List.length_cons]
      omega
    rw [hposition]
    exact ih (position + 1)

/-- A token that is found is listed, and the search goes on behind it. -/
theorem occurrencesFrom_of_standsAt (ht : token ≠ []) {before : Option Char} (position : Nat)
    (h : standsAt boundary token before (token ++ text) = true) :
    occurrencesFrom boundary token before position 0 (token ++ text) =
      (position, position + token.length) ::
        occurrencesFrom boundary token token.getLast? (position + token.length) 0 text := by
  obtain ⟨c, token', rfl⟩ := List.exists_cons_of_ne_nil ht
  have hposition : position + (c :: token').length = position + 1 + token'.length := by
    rw [List.length_cons]
    omega
  rw [List.cons_append] at h ⊢
  rw [occurrencesFrom, if_pos h, List.length_cons, Nat.add_sub_cancel, occurrencesFrom_skip,
    ← List.length_cons, hposition, List.getLast?_eq_some_getLast (List.cons_ne_nil c token')]

/-- A search finds the token at the start of a text or passes over the first character, and goes on
behind that. -/
@[elab_as_elim]
theorem occurrencesFrom_induction
    {motive : Option Char → Nat → Text → List (Nat × Nat) → Prop} (boundary : Boundary)
    (ht : token ≠ []) (nil : ∀ before position, motive before position [] [])
    (found : ∀ before position rest, standsAt boundary token before (token ++ rest) = true →
      motive token.getLast? (position + token.length) rest
        (occurrencesFrom boundary token token.getLast? (position + token.length) 0 rest) →
      motive before position (token ++ rest) ((position, position + token.length) ::
        occurrencesFrom boundary token token.getLast? (position + token.length) 0 rest))
    (passed : ∀ before position c rest, standsAt boundary token before (c :: rest) = false →
      motive (some c) (position + 1) rest
        (occurrencesFrom boundary token (some c) (position + 1) 0 rest) →
      motive before position (c :: rest)
        (occurrencesFrom boundary token (some c) (position + 1) 0 rest))
    (before : Option Char) (position : Nat) (text : Text) :
    motive before position text (occurrencesFrom boundary token before position 0 text) := by
  induction hn : text.length using Nat.strongRecOn generalizing before position text with
  | ind n ih =>
  have hlength : 0 < token.length := List.length_pos_iff.2 ht
  cases text with
  | nil =>
    have hno : standsAt boundary token before [] ≠ true := by
      rw [ne_eq, standsAt_iff]
      rintro ⟨back, heq, -⟩
      exact ht (List.append_eq_nil_iff.1 heq.symm).1
    rw [occurrencesFrom, if_neg hno]
    exact nil before position
  | cons c text =>
    rw [List.length_cons] at hn
    by_cases h : standsAt boundary token before (c :: text) = true
    · obtain ⟨rest, heq, -⟩ := standsAt_iff.1 h
      have hless : rest.length < n := by
        have htext := congrArg List.length heq
        rw [List.length_cons, List.length_append] at htext
        omega
      rw [heq] at h ⊢
      rw [occurrencesFrom_of_standsAt ht position h]
      exact found before position rest h (ih _ hless _ _ _ rfl)
    · rw [occurrencesFrom, if_neg h]
      exact passed before position c text (by simpa using h) (ih _ (by omega) _ _ _ rfl)

/-! ## Where a token is found -/

/-- A token that has a character, and none behind which the token may stand. -/
structure Solid (boundary : Boundary) (token : Text) : Prop where
  ne_nil : token ≠ []
  apart : ∀ c ∈ token, ∀ after, boundary (some c) after = false

theorem solid_word (ht : token ≠ []) (h : ∀ c ∈ token, Text.isAsciiWord c = true) :
    Solid .word token where
  ne_nil := ht
  apart c hc after := by simp [Boundary.word, h c hc]

theorem solid_delimited (ht : token ≠ []) (h : ∀ c ∈ token, c ∉ Boundary.delimiters) :
    Solid .delimited token where
  ne_nil := ht
  apart c hc after := by simp [Boundary.delimited, h c hc]

namespace Solid

variable {before : Option Char} {position : Nat} {span : Nat × Nat}

/-- Where the token stands at the start of a text, it does not stand again before its end. -/
theorem stands_append_iff (h : Solid boundary token) {front rest : Text}
    (hs : standsAt boundary token before (token ++ rest) = true) :
    Stands boundary token before front (token ++ rest) ↔
      front = [] ∨ ∃ more, front = token ++ more ∧
        Stands boundary token token.getLast? more rest := by
  obtain ⟨last, hlast⟩ : ∃ last, token.getLast? = some last :=
    ⟨_, List.getLast?_eq_some_getLast h.ne_nil⟩
  have hbehind (more : Text) :
      (token ++ more).getLast?.or before = more.getLast?.or token.getLast? := by
    rw [List.getLast?_append, hlast, Option.or_assoc, Option.some_or]
  constructor
  · rintro ⟨back, heq, hb⟩
    rw [List.append_assoc] at heq
    rcases List.append_eq_append_iff.1 heq with ⟨more, rfl, hrest⟩ | ⟨more, htoken, -⟩
    · rw [hbehind] at hb
      exact .inr ⟨more, rfl, back, by rw [hrest, List.append_assoc], hb⟩
    · rcases List.eq_nil_or_concat front with rfl | ⟨init, c, rfl⟩
      · exact .inl rfl
      · -- the occurrence would begin behind a character of the token
        have hc : c ∈ token := by simp [htoken]
        rw [List.concat_eq_append, List.getLast?_concat, Option.some_or, h.apart c hc] at hb
        cases hb
  · rintro (rfl | ⟨more, rfl, back, rfl, hb⟩)
    · exact stands_nil.2 hs
    · exact ⟨back, by simp, by rwa [hbehind]⟩

/-- The search finds the token wherever it stands. -/
theorem mem_occurrencesFrom_iff (h : Solid boundary token) :
    span ∈ occurrencesFrom boundary token before position 0 text ↔
      ∃ front, Stands boundary token before front text ∧
        span = (position + front.length, position + front.length + token.length) := by
  induction before, position, text using occurrencesFrom_induction boundary h.ne_nil with
  | nil before position =>
    refine iff_of_false List.not_mem_nil ?_
    rintro ⟨front, ⟨back, heq, -⟩, -⟩
    exact h.ne_nil (List.append_eq_nil_iff.1 (List.append_eq_nil_iff.1 heq.symm).1).2
  | found before position rest hs ih =>
    have hlength (more : Text) :
        position + token.length + more.length = position + (token ++ more).length := by
      rw [List.length_append, Nat.add_assoc]
    rw [List.mem_cons, ih]
    constructor
    · rintro (rfl | ⟨more, hmore, rfl⟩)
      · exact ⟨[], stands_nil.2 hs, rfl⟩
      · exact ⟨token ++ more, (h.stands_append_iff hs).2 (.inr ⟨more, rfl, hmore⟩), by rw [hlength]⟩
    · rintro ⟨front, hfront, rfl⟩
      rcases (h.stands_append_iff hs).1 hfront with rfl | ⟨more, rfl, hmore⟩
      · exact .inl rfl
      · exact .inr ⟨more, hmore, by rw [hlength]⟩
  | passed before position c rest hs ih =>
    have hlength (front : Text) : position + 1 + front.length = position + (c :: front).length := by
      rw [List.length_cons]
      omega
    rw [ih]
    constructor
    · rintro ⟨front, hfront, rfl⟩
      exact ⟨c :: front, stands_cons.2 ⟨rfl, hfront⟩, by rw [hlength]⟩
    · rintro ⟨_ | ⟨d, front⟩, hfront, rfl⟩
      · rw [stands_nil.1 hfront] at hs
        cases hs
      · obtain ⟨rfl, hrest⟩ := stands_cons.1 hfront
        exact ⟨front, hrest, by rw [hlength]⟩

/-- Behind a character of the token, what is found begins further on. -/
theorem lt_of_mem_occurrencesFrom (h : Solid boundary token) {c : Char} (hc : c ∈ token)
    (hm : span ∈ occurrencesFrom boundary token (some c) position 0 text) : position < span.1 := by
  obtain ⟨front, ⟨back, -, hb⟩, rfl⟩ := h.mem_occurrencesFrom_iff.1 hm
  cases front with
  | nil =>
    rw [List.getLast?_nil, Option.none_or, h.apart c hc] at hb
    cases hb
  | cons d front =>
    rw [List.length_cons]
    omega

/-- The token is found in order, and no two of its occurrences touch. -/
theorem pairwise_occurrencesFrom (h : Solid boundary token) (before : Option Char) (position : Nat)
    (text : Text) :
    (occurrencesFrom boundary token before position 0 text).Pairwise fun a b => a.2 < b.1 := by
  induction before, position, text using occurrencesFrom_induction boundary h.ne_nil with
  | nil before position => exact .nil
  | found before position rest hs ih =>
    refine List.pairwise_cons.2 ⟨fun span hspan => ?_, ih⟩
    rw [List.getLast?_eq_some_getLast h.ne_nil] at hspan
    exact h.lt_of_mem_occurrencesFrom (List.getLast_mem h.ne_nil) hspan
  | passed before position c rest hs ih => exact ih

end Solid

/-! ## Positions -/

variable {start stop : Nat}

theorem append_extract_append (h : start ≤ stop) (text : Text) :
    text.take start ++ text.extract start stop ++ text.drop stop = text := by
  have hdrop : text.drop stop = (text.drop start).drop (stop - start) := by
    rw [List.drop_drop, Nat.add_sub_cancel' h]
  rw [hdrop, List.append_assoc, List.extract_eq_take_drop, List.take_append_drop,
    List.take_append_drop]

theorem lt_of_extract_ne_nil (h : text.extract start stop ≠ []) : start < stop := by
  refine Nat.lt_of_not_le fun hle => h ?_
  rw [List.extract_eq_take_drop, Nat.sub_eq_zero_of_le hle, List.take_zero]

/-- The positions at which a search finds the token. -/
theorem Solid.mem_occurrences_iff (h : Solid boundary token) :
    (start, stop) ∈ occurrences boundary token text ↔
      stop ≤ text.length ∧ text.extract start stop = token ∧
        boundary (text.take start).getLast? (text.drop stop).head? = true := by
  rw [occurrences, h.mem_occurrencesFrom_iff]
  constructor
  · rintro ⟨front, ⟨back, rfl, hb⟩, hspan⟩
    rw [Nat.zero_add, Prod.mk.injEq, ← List.length_append] at hspan
    obtain ⟨rfl, rfl⟩ := hspan
    rw [Option.or_none] at hb
    refine ⟨by simp, by simp, ?_⟩
    rwa [List.drop_left, List.append_assoc, List.take_left]
  · rintro ⟨hstop, rfl, hb⟩
    have hlt := lt_of_extract_ne_nil h.ne_nil
    have htext := append_extract_append (Nat.le_of_lt hlt) text
    refine ⟨text.take start, ⟨text.drop stop, htext.symm, by rwa [Option.or_none]⟩, ?_⟩
    have hstart : (text.take start).length = start := List.length_take_of_le (by omega)
    have hlength : (text.extract start stop).length = stop - start := by
      rw [List.extract_eq_take_drop, List.length_take_of_le (by rw [List.length_drop]; omega)]
    rw [hstart, hlength, Nat.zero_add, Nat.add_sub_cancel' (Nat.le_of_lt hlt)]

/-! ## What is replaced -/

/-- A text with its parts at some spans replaced; the text begins at `position`. -/
def replaceSpans (replacement : Text) : (position : Nat) → List (Nat × Nat) → Text → Text
  | _, [], text => text
  | position, (start, stop) :: spans, text =>
    text.take (start - position) ++ replacement
      ++ replaceSpans replacement stop spans (text.drop (stop - position))

/-- A character before all spans is kept. -/
theorem replaceSpans_cons (replacement : Text) {position : Nat} {spans : List (Nat × Nat)}
    (h : ∀ span ∈ spans, position < span.1 ∧ position < span.2) (c : Char) (text : Text) :
    replaceSpans replacement position spans (c :: text) =
      c :: replaceSpans replacement (position + 1) spans text := by
  cases spans with
  | nil => rfl
  | cons span spans =>
    obtain ⟨start, stop⟩ := span
    obtain ⟨hstart, hstop⟩ := h (start, stop) List.mem_cons_self
    have htake : start - position = start - (position + 1) + 1 := by omega
    have hdrop : stop - position = stop - (position + 1) + 1 := by omega
    rw [replaceSpans, replaceSpans, htake, hdrop, List.take_succ_cons, List.drop_succ_cons]
    rfl

/-- What is replaced is what a search finds. -/
theorem Solid.replaceFrom_eq (h : Solid boundary token) (replacement : Text)
    (before : Option Char) (position : Nat) (text : Text) :
    replaceFrom boundary token replacement before 0 text =
      replaceSpans replacement position
        (occurrencesFrom boundary token before position 0 text) text := by
  induction before, position, text using occurrencesFrom_induction boundary h.ne_nil with
  | nil before position =>
    have hno : standsAt boundary token before [] = false := by
      simpa [standsAt_eq] using fun hnil => absurd hnil h.ne_nil
    rw [replaceFrom, hno]
    rfl
  | found before position rest hs ih =>
    rw [replaceFrom_of_standsAt replacement h.ne_nil hs, ih, replaceSpans, Nat.sub_self,
      Nat.add_sub_cancel_left, List.take_zero, List.nil_append, List.drop_left]
  | passed before position c rest hs ih =>
    rw [replaceFrom_cons_of_not_standsAt replacement hs, ih, replaceSpans_cons]
    intro span hspan
    obtain ⟨front, -, rfl⟩ := h.mem_occurrencesFrom_iff.1 hspan
    dsimp only
    omega

/-! ## Runs -/

/-- A maximal run of characters of a class, from position `start` up to `stop`: all of them are of
the class, and the characters right before and behind them are not. -/
structure IsRun (p : Char → Bool) (text : Text) (start stop : Nat) : Prop where
  nonempty : start < stop
  bound : stop ≤ text.length
  inside : ∀ c ∈ text.extract start stop, p c = true
  before : ∀ c ∈ (text.take start).getLast?, p c = false
  after : ∀ c ∈ (text.drop stop).head?, p c = false

/-- Spans that are all those with a property and no others, in their order; no two of them touch. -/
structure Enumerates (spans : List (Nat × Nat)) (P : Nat → Nat → Prop) : Prop where
  ordered : spans.Pairwise fun a b => a.2 < b.1
  mem_iff : ∀ start stop, (start, stop) ∈ spans ↔ P start stop

/-- **Runs.** A word of letters and digits is found at the maximal runs of letters and digits that
spell it, and a name without delimiters at the maximal runs of other characters than delimiters that
spell it and have a delimiter on either side: at all of these, in their order, and nowhere else, so
none is missed for a delimiter that it shares with another one. It is these runs that are replaced
where a name is replaced. -/
theorem occurrences_enumerate_runs (text : Text) :
    (∀ token : Text, token ≠ [] → (∀ c ∈ token, Text.isAsciiWord c = true) →
      Enumerates (occurrences .word token text) fun start stop =>
        IsRun Text.isAsciiWord text start stop ∧ text.extract start stop = token) ∧
    ∀ token : Text, token ≠ [] → (∀ c ∈ token, c ∉ Boundary.delimiters) →
      (Enumerates (occurrences .delimited token text) fun start stop =>
        IsRun (fun c => !Boundary.delimiters.contains c) text start stop ∧
          text.extract start stop = token ∧
          (∃ c ∈ (text.take start).getLast?, c ∈ Boundary.delimiters) ∧
          ∃ c ∈ (text.drop stop).head?, c ∈ Boundary.delimiters) ∧
      ∀ replacement, replaceAll .delimited token replacement text =
        replaceSpans replacement 0 (occurrences .delimited token text) text := by
  constructor
  · intro token ht hword
    have hsolid := solid_word ht hword
    refine ⟨hsolid.pairwise_occurrencesFrom none 0 text, fun start stop => ?_⟩
    rw [hsolid.mem_occurrences_iff, word_eq_true_iff]
    constructor
    · rintro ⟨hstop, rfl, hbefore, hafter⟩
      exact ⟨⟨lt_of_extract_ne_nil ht, hstop, hword, hbefore, hafter⟩, rfl⟩
    · rintro ⟨hrun, rfl⟩
      exact ⟨hrun.bound, rfl, hrun.before, hrun.after⟩
  · intro token ht hname
    have hsolid := solid_delimited ht hname
    refine ⟨⟨hsolid.pairwise_occurrencesFrom none 0 text, fun start stop => ?_⟩,
      fun replacement => hsolid.replaceFrom_eq replacement none 0 text⟩
    rw [hsolid.mem_occurrences_iff, delimited_eq_true_iff]
    constructor
    · rintro ⟨hstop, rfl, ⟨b, hb, hbmem⟩, a, ha, hamem⟩
      refine ⟨⟨lt_of_extract_ne_nil ht, hstop, ?_, ?_, ?_⟩, rfl, ⟨b, hb, hbmem⟩, a, ha, hamem⟩
      · simpa using hname
      · intro c hc
        obtain rfl := Option.mem_unique hb hc
        simpa using hbmem
      · intro c hc
        obtain rfl := Option.mem_unique ha hc
        simpa using hamem
    · rintro ⟨hrun, hspelled, hbefore, hafter⟩
      exact ⟨hrun.bound, hspelled, hbefore, hafter⟩

/-- A token that overlaps itself: it is found between low lines and, as a word, at the end of the
text, but not inside a longer run. -/
theorem occurrences_enumerate_runs_adjacent :
    let text := "_aa_aa(aaa) aa".toList
    let token := "aa".toList
    token ≠ [] ∧ (∀ c ∈ token, Text.isAsciiWord c = true) ∧
      (∀ c ∈ token, c ∉ Boundary.delimiters) ∧
      occurrences .word token text = [(1, 3), (4, 6), (12, 14)] ∧
      IsRun Text.isAsciiWord text 12 14 ∧
      occurrences .delimited token text = [(1, 3), (4, 6)] ∧
      IsRun (fun c => !Boundary.delimiters.contains c) text 4 6 ∧
      replaceAll .delimited token "b".toList text = "_b_b(aaa) aa".toList := by
  intro text token
  have hne : token ≠ [] := by decide
  have hword : ∀ c ∈ token, Text.isAsciiWord c = true := List.all_iff_forall_prop.1 (by decide)
  have hname : ∀ c ∈ token, c ∉ Boundary.delimiters := List.all_iff_forall_prop.1 (by decide)
  have hwords : occurrences .word token text = [(1, 3), (4, 6), (12, 14)] := by decide
  have hnames : occurrences .delimited token text = [(1, 3), (4, 6)] := by decide
  obtain ⟨hfirst, hsecond⟩ := occurrences_enumerate_runs text
  obtain ⟨hdelimited, hreplace⟩ := hsecond token hne hname
  have hlast := ((hfirst token hne hword).mem_iff 12 14).1 (by rw [hwords]; decide)
  have hadjacent := (hdelimited.mem_iff 4 6).1 (by rw [hnames]; decide)
  refine ⟨hne, hword, hname, hwords, hlast.1, hnames, hadjacent.1, ?_⟩
  rw [hreplace, hnames]
  rfl

end OpScaffold
