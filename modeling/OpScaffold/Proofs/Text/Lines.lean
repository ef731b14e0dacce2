import Mathlib.Data.List.DropRight
import Mathlib.Data.List.TakeWhile
import OpScaffold.Text.Blank
import OpScaffold.Text.Lines

/-!
# OpScaffold.Proofs.Text.Lines

Texts that are broken by LF and CR LF alone. Their lines are full, save for the last one, which may
be open (`WellLined`), and lines of this kind are read back from their text (`lines_flatten`). What
counts of a line, its indentation and what is left of it without the white space around it, does not
depend on its newline sequence.
-/

namespace OpScaffold.Text

variable {t line : Text} {lines : List Text}

/-! ## Lines -/

/-- Whether a text has no line break. -/
def Unbroken (t : Text) : Prop := ∀ c ∈ t, isLineBreak c = false

instance (t : Text) : Decidable (Unbroken t) :=
  decidable_of_iff (t.all fun c => !isLineBreak c) (by simp [Unbroken])

/-- The newline sequences LF and CR LF. -/
def IsNewline (t : Text) : Prop := t = ['\n'] ∨ t = ['\r', '\n']

/-- Whether a line ends in LF or CR LF and has no other break. -/
def IsFull (line : Text) : Prop :=
  ∃ body newline, Unbroken body ∧ IsNewline newline ∧ line = body ++ newline

/-- Whether a line has no end. -/
def IsOpen (line : Text) : Prop := line ≠ [] ∧ Unbroken line

/-- Whether a text has no breaks but LF and CR LF. -/
def BreaksPlainly (t : Text) : Prop := ∀ line ∈ t.lines, IsFull line ∨ IsOpen line

/-- Lines as a text has them that breaks plainly: the last one may be open, all others are full. -/
inductive WellLined : List Text → Prop
  | nil : WellLined []
  | last {line : Text} : IsOpen line → WellLined [line]
  | cons {line : Text} {rest : List Text} : IsFull line → WellLined rest → WellLined (line :: rest)

theorem Unbroken.append {u : Text} (ht : Unbroken t) (hu : Unbroken u) : Unbroken (t ++ u) :=
  fun c hc => (List.mem_append.1 hc).elim (ht c) (hu c)

theorem Unbroken.cons {c : Char} (hc : isLineBreak c = false) (ht : Unbroken t) :
    Unbroken (c :: t) := by
  intro d hd
  rcases List.mem_cons.1 hd with rfl | hd
  · exact hc
  · exact ht d hd

theorem lines_cons_of_not_break {c : Char} (hc : isLineBreak c = false) {first : Text}
    {rest : List Text} (h : Text.lines t = first :: rest) :
    Text.lines (c :: t) = (c :: first) :: rest := by
  have hne : c ≠ '\r' := by rintro rfl; revert hc; decide
  rw [Text.lines]
  · rw [if_neg (by simp [hc]), h]
  · exact fun _ hcr _ => hne hcr

/-- A full line is the first line of a text that begins with it. -/
theorem IsFull.lines_append (h : IsFull line) (t : Text) :
    Text.lines (line ++ t) = line :: Text.lines t := by
  obtain ⟨body, newline, hbody, hnl, rfl⟩ := h
  induction body with
  | nil => rcases hnl with rfl | rfl <;> rfl
  | cons c body ih =>
    exact lines_cons_of_not_break (hbody c (by simp)) (ih fun d hd => hbody d (by simp [hd]))

theorem IsOpen.lines_eq (h : IsOpen line) : Text.lines line = [line] := by
  obtain ⟨hne, hline⟩ := h
  induction line with
  | nil => exact absurd rfl hne
  | cons c line ih =>
    have hc := hline c (by simp)
    cases line with
    | nil =>
      rw [Text.lines, if_neg (by simp [hc])]
      · rfl
      · exact fun _ _ h => nomatch h
    | cons d rest =>
      exact lines_cons_of_not_break hc (ih (by simp) fun e he => hline e (by simp [he]))

/-- Lines of this kind are read back from their text. -/
theorem WellLined.lines_flatten (h : WellLined lines) : Text.lines lines.flatten = lines := by
  induction h with
  | nil => rfl
  | last hl => rw [List.flatten_singleton, hl.lines_eq]
  | cons hl _ ih => rw [List.flatten_cons, hl.lines_append, ih]

/-- A line that is full or has no end is so without its first character. -/
theorem isFull_or_isOpen_of_cons {c : Char} (hc : isLineBreak c = false) (hne : line ≠ [])
    (h : IsFull (c :: line) ∨ IsOpen (c :: line)) : IsFull line ∨ IsOpen line := by
  rcases h with ⟨body, newline, hbody, hnl, heq⟩ | ho
  · cases body with
    | nil =>
      rw [List.nil_append] at heq
      rcases hnl with rfl | rfl <;> cases heq <;> cases hc
    | cons d body =>
      obtain ⟨rfl, rfl⟩ := List.cons.inj heq
      exact .inl ⟨body, newline, fun e he => hbody e (by simp [he]), hnl, rfl⟩
  · exact .inr ⟨hne, fun e he => ho.2 e (by simp [he])⟩

theorem WellLined.cons_char {c : Char} (hc : isLineBreak c = false)
    (h : WellLined (line :: lines)) : WellLined ((c :: line) :: lines) := by
  cases h with
  | last ho => exact .last ⟨List.cons_ne_nil _ _, ho.2.cons hc⟩
  | cons hf hr =>
    obtain ⟨body, newline, hbody, hnl, rfl⟩ := hf
    exact .cons ⟨c :: body, newline, hbody.cons hc, hnl, rfl⟩ hr

/-- The lines of a text that breaks plainly are of this kind. -/
theorem BreaksPlainly.wellLined (h : BreaksPlainly t) : WellLined t.lines := by
  unfold BreaksPlainly at h
  fun_induction Text.lines t with
  | case1 => exact .nil
  | case2 t ih =>
    refine .cons ⟨[], _, by simp [Unbroken], .inr rfl, rfl⟩ (ih fun l hl => h l (by simp [hl]))
  | case3 c t _ hc ih =>
    refine .cons ((h [c] (by simp)).resolve_right fun ho => ?_) (ih fun l hl => h l (by simp [hl]))
    rw [ho.2 c (by simp)] at hc
    cases hc
  | case4 c t _ hc hnil =>
    exact .last ⟨by simp, by simpa [Unbroken] using hc⟩
  | case5 c t _ hc first rest hlines ih =>
    rw [Bool.not_eq_true] at hc
    have hne : first ≠ [] := ne_nil_of_mem_lines (t := t) (by simp [hlines])
    have hfirst := isFull_or_isOpen_of_cons hc hne (h (c :: first) (by simp))
    rw [hlines] at ih
    refine (ih fun l hl => ?_).cons_char hc
    rcases List.mem_cons.1 hl with rfl | hl
    · exact hfirst
    · exact h l (by simp [hl])

theorem WellLined.of_append {more : List Text} (h : WellLined (lines ++ more)) : WellLined more := by
  induction lines with
  | nil => exact h
  | cons line rest ih =>
    rw [List.cons_append] at h
    generalize hlines : rest ++ more = tail at h
    cases h with
    | last =>
      obtain ⟨-, rfl⟩ := List.append_eq_nil_iff.1 hlines
      exact .nil
    | cons _ hr => exact ih (hlines ▸ hr)

/-- Lines before others are full. -/
theorem WellLined.isFull {more : List Text} (h : WellLined (lines ++ more)) (hm : more ≠ []) :
    ∀ line ∈ lines, IsFull line := by
  induction lines with
  | nil => simp
  | cons line rest ih =>
    rw [List.cons_append] at h
    generalize hlines : rest ++ more = tail at h
    cases h with
    | last => exact absurd (List.append_eq_nil_iff.1 hlines).2 hm
    | cons hf hr =>
      intro l hl
      rcases List.mem_cons.1 hl with rfl | hl
      · exact hf
      · exact ih (hlines ▸ hr) l hl

/-- Full lines may stand before any others. -/
theorem WellLined.append {more : List Text} (h : ∀ line ∈ lines, IsFull line)
    (hm : WellLined more) : WellLined (lines ++ more) := by
  induction lines with
  | nil => exact hm
  | cons line rest ih => exact .cons (h line (by simp)) (ih fun l hl => h l (by simp [hl]))

theorem WellLined.isFull_or_isOpen (h : WellLined lines) :
    ∀ line ∈ lines, IsFull line ∨ IsOpen line := by
  induction h with
  | nil => simp
  | last ho => simpa using .inr ho
  | cons hf _ ih =>
    intro l hl
    rcases List.mem_cons.1 hl with rfl | hl
    · exact .inl hf
    · exact ih l hl

theorem WellLined.breaksPlainly (h : WellLined lines) : BreaksPlainly lines.flatten := by
  rw [BreaksPlainly, h.lines_flatten]
  exact h.isFull_or_isOpen

/-! ## Ends of lines -/

/-- A line ends in a newline sequence if its last character is one of theirs. -/
theorem isTerminated_iff : isTerminated line = true ↔ ∃ c ∈ line.getLast?, c = '\n' ∨ c = '\r' := by
  rcases List.eq_nil_or_concat line with rfl | ⟨u, c, rfl⟩
  · simp [isTerminated, terminator]
  · unfold isTerminated terminator
    rw [List.concat_eq_append, List.reverse_append, List.reverse_singleton, List.singleton_append,
      List.getLast?_concat]
    split <;> simp_all

theorem not_isTerminated_of_unbroken (h : Unbroken line) : isTerminated line = false := by
  rw [Bool.eq_false_iff, ne_eq, isTerminated_iff]
  rintro ⟨c, hc, rfl | rfl⟩
  · exact absurd (h _ (List.mem_of_getLast? hc)) (by decide)
  · exact absurd (h _ (List.mem_of_getLast? hc)) (by decide)

theorem IsFull.isTerminated (h : IsFull line) : isTerminated line = true := by
  obtain ⟨body, newline, -, rfl | rfl, rfl⟩ := h <;> simp [isTerminated_iff]

/-- A line feed ends a line by itself unless CR stands before it. -/
theorem terminator_append_newline (h : t.getLast? ≠ some '\r') :
    terminator (t ++ ['\n']) = ['\n'] := by
  rcases List.eq_nil_or_concat t with rfl | ⟨u, c, rfl⟩
  · rfl
  · have hc : c ≠ '\r' := by simpa using h
    unfold terminator
    rw [List.concat_eq_append, List.reverse_append, List.reverse_append]
    simp [hc]

theorem IsFull.isNewline (h : IsFull line) : IsNewline (terminator line) := by
  obtain ⟨body, newline, hbody, rfl | rfl, rfl⟩ := h
  · refine .inl (terminator_append_newline fun hlast => ?_)
    exact absurd (hbody '\r' (List.mem_of_getLast? hlast)) (by decide)
  · exact .inr (by simp [terminator])

/-! ## White space around a line -/

theorem trim_append_of_blank {blank : Text} (h : ∀ c ∈ blank, isBlank c = true) (t : Text) :
    trim (t ++ blank) = trim t := by
  unfold trim trimLeft trimRight
  rw [List.dropWhile_append]
  split
  · next hnil =>
    rw [List.isEmpty_iff.1 hnil, List.dropWhile_eq_nil_iff.2 h]
  · rw [List.reverse_append, List.dropWhile_append_of_pos fun c hc => h c (List.mem_reverse.1 hc)]

theorem trim_blank_append {blank : Text} (h : ∀ c ∈ blank, isBlank c = true) (t : Text) :
    trim (blank ++ t) = trim t := by
  unfold trim trimLeft
  rw [List.dropWhile_append_of_pos h]

/-- A text that neither begins nor ends in white space. -/
theorem trim_eq_self (hfirst : ∀ c ∈ t.head?, isBlank c = false)
    (hlast : ∀ c ∈ t.getLast?, isBlank c = false) : trim t = t := by
  have hleft : trimLeft t = t := by
    cases t with
    | nil => rfl
    | cons c t => exact List.dropWhile_cons_of_neg (by simp [hfirst c rfl])
  rcases List.eq_nil_or_concat t with rfl | ⟨u, c, rfl⟩
  · rfl
  · rw [List.concat_eq_append] at hlast hleft ⊢
    rw [trim, hleft, trimRight, List.reverse_append, List.reverse_singleton, List.singleton_append,
      List.dropWhile_cons_of_neg (by simp [hlast c (by simp)]), List.reverse_cons,
      List.reverse_reverse]

/-- What is left of a text without the white space at its ends is part of it. -/
theorem isInfix_trim (t : Text) : trim t <:+: t :=
  (List.rdropWhile_prefix isBlank (trimLeft t)).isInfix.trans (List.dropWhile_suffix isBlank).isInfix

/-- White space is taken away at once. -/
theorem trim_trim (t : Text) : trim (trim t) = trim t := by
  refine trim_eq_self (fun c hc => ?_) fun c hc => ?_
  · -- the first character is that of the text without its leading white space
    obtain ⟨rest, hrest⟩ : trim t <+: trimLeft t := List.rdropWhile_prefix isBlank _
    have hhead := List.head?_dropWhile_not isBlank t
    rw [← trimLeft, ← hrest, List.head?_append, Option.mem_def.1 hc] at hhead
    exact hhead
  · have hne : trim t ≠ [] := fun hnil => by rw [hnil] at hc; cases hc
    rw [List.getLast?_eq_some_getLast hne, Option.mem_some] at hc
    exact hc ▸ Bool.eq_false_iff.2 (List.rdropWhile_last_not isBlank (trimLeft t) hne)

theorem isBlank_of_isLineBreak {c : Char} (h : isLineBreak c = true) : isBlank c = true := by
  simp only [isLineBreak, isBlank, Bool.or_eq_true, Bool.and_eq_true, decide_eq_true_eq,
    beq_iff_eq] at h ⊢
  omega

/-- A line has its break at its end. -/
theorem exists_body_of_mem_lines (h : line ∈ Text.lines t) :
    ∃ body tail, Unbroken body ∧ (∀ c ∈ tail, isLineBreak c = true) ∧ line = body ++ tail := by
  fun_induction Text.lines t generalizing line with
  | case1 => cases h
  | case2 t ih =>
    rcases List.mem_cons.1 h with rfl | h
    · have htail : ∀ c ∈ ['\r', '\n'], isLineBreak c = true :=
        List.forall_mem_cons.2 ⟨by decide, List.forall_mem_singleton.2 (by decide)⟩
      exact ⟨[], ['\r', '\n'], by simp [Unbroken], htail, rfl⟩
    · exact ih h
  | case3 c t _ hc ih =>
    rcases List.mem_cons.1 h with rfl | h
    · exact ⟨[], [c], by simp [Unbroken], by simpa using hc, rfl⟩
    · exact ih h
  | case4 c t _ hc _ =>
    obtain rfl := List.mem_singleton.1 h
    exact ⟨[c], [], by simpa [Unbroken] using hc, by simp, rfl⟩
  | case5 c t _ hc first rest hlines ih =>
    rw [hlines] at ih
    rcases List.mem_cons.1 h with rfl | h
    · obtain ⟨body, tail, hbody, htail, rfl⟩ := ih List.mem_cons_self
      exact ⟨c :: body, tail, hbody.cons (by simpa using hc), htail, rfl⟩
    · exact ih (List.mem_cons_of_mem _ h)

/-- A line without the white space at its ends has no break. -/
theorem unbroken_trim (h : line ∈ Text.lines t) : Unbroken line.trim := by
  obtain ⟨body, tail, hbody, htail, rfl⟩ := exists_body_of_mem_lines h
  rw [trim_append_of_blank fun c hc => isBlank_of_isLineBreak (htail c hc)]
  exact fun c hc => hbody c ((isInfix_trim body).subset hc)

theorem isBlankText_append_of_blank {blank : Text} (h : ∀ c ∈ blank, isBlank c = true) (t : Text) :
    isBlankText (t ++ blank) = isBlankText t := by
  have hblank : blank.all isBlank = true := List.all_eq_true.2 h
  rw [isBlankText, List.all_append, hblank, Bool.and_true, isBlankText]

theorem indent_append {u : Text} (h : indent u = []) (t : Text) : indent (t ++ u) = indent t := by
  unfold indent at h ⊢
  rw [List.takeWhile_append]
  split
  · next hall => rw [h, List.append_nil, (List.takeWhile_prefix _).eq_of_length hall]
  · rfl

end OpScaffold.Text
