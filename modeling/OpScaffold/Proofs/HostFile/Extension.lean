import OpScaffold.Proofs.HostFile.Append
import OpScaffold.Proofs.HostFile.Layout
import OpScaffold.Proofs.Word

/-!
# OpScaffold.Proofs.HostFile.Extension

A host file with lines appended at all its points is read back as it is (`parse_extend`): it has the
same plain lines, and its points are the extended ones. For that its text must break by LF and CR LF
alone, and the new lines must not be taken for something else (`Clean`).
-/

namespace OpScaffold

open Text

/-- Whether a property of lines does not see what newline characters stand at their ends. -/
def EndsDoNotCount {α : Type} (f : Text → α) : Prop :=
  ∀ line tail : Text, (∀ c ∈ tail, c = '\n' ∨ c = '\r') → f (line ++ tail) = f line

namespace EndsDoNotCount

theorem isBlank_of_mem {tail : Text} (h : ∀ c ∈ tail, c = '\n' ∨ c = '\r') :
    ∀ c ∈ tail, isBlank c = true := by
  intro c hc
  rcases h c hc with rfl | rfl <;> decide

theorem trim : EndsDoNotCount Text.trim :=
  fun line _ h => trim_append_of_blank (isBlank_of_mem h) line

theorem indent : EndsDoNotCount Text.indent := by
  intro line tail h
  refine indent_append ?_ line
  cases tail with
  | nil => rfl
  | cons c tail =>
    rcases h c (by simp) with rfl | rfl <;> rfl

theorem continues (width : Nat) (stop : Option Pattern) :
    EndsDoNotCount (Block.continues width stop) := by
  intro line tail h
  unfold Block.continues
  rw [isBlankText_append_of_blank (isBlank_of_mem h), indent line tail h, trim line tail h]

/-- Words that are not empty do not end in newline characters. -/
theorem mem_words {token : Text} (ht : token ≠ []) :
    EndsDoNotCount fun line => token ∈ line.words := by
  intro line tail h
  refine propext (mem_words_append_right (fun c hc => ?_) ht)
  rcases h c hc with rfl | rfl <;> decide

end EndsDoNotCount

namespace ExtensionPoint

variable {p : ExtensionPoint} {snippet : List Text} {line : Text}

/-! ## The lines of an extended point -/

theorem newlineOf_chars (anchorLine : Text) : ∀ c ∈ newlineOf anchorLine, c = '\n' ∨ c = '\r' := by
  rcases newlineOf_cases anchorLine with h | h | h <;> simp [h]

theorem lines_eq_dropLast (p : ExtensionPoint) : p.lines = p.lines.dropLast ++ [p.lastLine] := by
  rcases List.eq_nil_or_concat p.block with hb | ⟨front, last, hb⟩
  · simp [lines, lastLine, hb]
  · rw [List.concat_eq_append] at hb
    rw [lastLine_of_block hb, lines, hb, ← List.cons_append, List.dropLast_concat]

theorem lines_close (p : ExtensionPoint) :
    p.close.lines = p.lines.dropLast ++ [p.lastLine ++ p.newline] := by
  rcases List.eq_nil_or_concat p.block with hb | ⟨front, last, hb⟩
  · simp [close, lines, lastLine, hb]
  · rw [List.concat_eq_append] at hb
    rw [lastLine_of_block hb, close_of_block hb, lines, lines, hb, ← List.cons_append,
      ← List.cons_append, List.dropLast_concat]

/-- An extended point has its old lines, of which the last one may be closed, and the new lines. -/
theorem lines_append (p : ExtensionPoint) (snippet : List Text) :
    (p.append snippet).lines = p.lines.dropLast ++
      (p.lastLine ++ if p.isOpen then p.newline else []) :: p.newLines p.isOpen snippet := by
  cases h : p.isOpen with
  | false =>
    have hlines : (p.append snippet).lines = p.lines ++ p.newLines false snippet := by
      rw [append_of_not_isOpen h]; rfl
    rw [hlines, lines_eq_dropLast, List.dropLast_concat]
    simp
  | true =>
    have hlines : (p.append snippet).lines = p.close.lines ++ p.newLines true snippet := by
      rw [append_of_isOpen h]; rfl
    rw [hlines, lines_close]
    simp

theorem map_lines_append {α : Type} {f : Text → α} (hf : EndsDoNotCount f) (p : ExtensionPoint)
    (snippet : List Text) :
    (p.append snippet).lines.map f = p.lines.map f ++ (p.newLines p.isOpen snippet).map f := by
  have hlast : f (p.lastLine ++ if p.isOpen then p.newline else []) = f p.lastLine := by
    split
    · exact hf _ _ (newlineOf_chars _)
    · rw [List.append_nil]
  rw [lines_append, lines_eq_dropLast p]
  simp [hlast]

/-- The new lines show what those of the snippet show with the indentation before them. -/
theorem map_newLines {α : Type} {f : Text → α} (hf : EndsDoNotCount f) (p : ExtensionPoint)
    (isLast : Bool) (snippet : List Text) :
    (p.newLines isLast snippet).map f = snippet.map fun l => f (p.indented l) := by
  have hend (l : Text) : f (p.indented l ++ p.newline) = f (p.indented l) :=
    hf _ _ (newlineOf_chars _)
  rcases List.eq_nil_or_concat snippet with rfl | ⟨front, last, rfl⟩
  · rfl
  · rw [List.concat_eq_append, newLines_append p isLast (List.cons_ne_nil _ _), newLines_false,
      newLines]
    cases isLast <;> simp [hend]

theorem exists_of_mem_newLines {α : Type} {f : Text → α} (hf : EndsDoNotCount f) {isLast : Bool}
    (h : line ∈ p.newLines isLast snippet) : ∃ l ∈ snippet, f line = f (p.indented l) := by
  have hm := List.mem_map_of_mem (f := f) h
  rw [map_newLines hf] at hm
  obtain ⟨l, hl, heq⟩ := List.mem_map.1 hm
  exact ⟨l, hl, heq.symm⟩

/-- What a line shows without its end, the anchor line of an extended point shows as before. -/
theorem anchorLine_append {α : Type} {f : Text → α} (hf : EndsDoNotCount f) (p : ExtensionPoint)
    (snippet : List Text) : f (p.append snippet).anchorLine = f p.anchorLine :=
  (List.cons.inj (map_lines_append hf p snippet)).1

/-- The lines in the block of an extended point show what those before show, or new lines. -/
theorem forall_block_append {α : Type} {f : Text → α} (hf : EndsDoNotCount f) {P : α → Prop}
    (hold : ∀ l ∈ p.block, P (f l)) (hnew : ∀ l ∈ p.newLines p.isOpen snippet, P (f l)) :
    ∀ l ∈ (p.append snippet).block, P (f l) := by
  intro l hl
  have hm := List.mem_map_of_mem (f := f) hl
  rw [(List.cons.inj (map_lines_append hf p snippet)).2] at hm
  rcases List.mem_append.1 hm with hm | hm
  · obtain ⟨l', hl', heq⟩ := List.mem_map.1 hm
    exact heq ▸ hold l' hl'
  · obtain ⟨l', hl', heq⟩ := List.mem_map.1 hm
    exact heq ▸ hnew l' hl'

theorem append_entry (p : ExtensionPoint) (snippet : List Text) :
    (p.append snippet).entry = p.entry := by
  cases h : p.isOpen with
  | false => rw [append_of_not_isOpen h]
  | true =>
    rw [append_of_isOpen h]
    unfold close
    dsimp only
    split <;> rfl

end ExtensionPoint

namespace HostFile

variable {path text : Text} {lines : List Text} {entries : List Entry} {e : Entry}
  {parts : List Part} {p : ExtensionPoint} {snippet : List Text} {f : Entry → List Text}

/-! ## Snippets that are not taken for something else -/

/-- New lines of an entry that continue its block and are no anchors. -/
structure Clean (entries : List Entry) (e : Entry) (snippet : List Text) : Prop where
  ne_nil : snippet ≠ []
  line : ∀ l ∈ snippet, l.isBlankText = false ∧ Unbroken l
  stop : ∀ stop, e.stop? = .ok stop → ∀ l ∈ snippet, stop.any (·.matchesAll l.trim) = false
  anchor : ∀ l ∈ snippet, ∀ e' ∈ entries, l.trim ≠ e'.anchor

/-- Clean lines can be appended as they are. -/
theorem Clean.isSnippet (h : Clean entries e snippet) : ExtensionPoint.IsSnippet snippet where
  ne_nil := h.ne_nil
  plain l hl := ⟨fun hm => absurd ((h.line l hl).2 _ hm) (by decide),
    fun hm => absurd ((h.line l hl).2 _ hm) (by decide)⟩

theorem isIndent (line : Text) : ∀ c ∈ line.indent, c = ' ' ∨ c = '\t' := fun c hc => by
  simpa using List.mem_takeWhile_imp hc

theorem Clean.indented_eq (h : Clean entries e snippet) {l : Text} (hl : l ∈ snippet) :
    p.indented l = p.indent ++ l := by
  have hne : l ≠ [] := by
    rintro rfl
    exact absurd (h.line _ hl).1 (by decide)
  rw [ExtensionPoint.indented, if_neg (by simpa using hne)]

theorem trim_indented {l : Text} : (p.indent ++ l).trim = l.trim := by
  refine trim_blank_append (fun c hc => ?_) l
  rcases isIndent _ c hc with rfl | rfl <;> decide

/-- The new lines continue the block. -/
theorem Clean.continues (h : Clean entries e snippet) {stop : Option Pattern}
    (hstop : e.stop? = .ok stop) {isLast : Bool} {line : Text}
    (hline : line ∈ p.newLines isLast snippet) :
    Block.continues p.indent.length stop line = true := by
  obtain ⟨l, hl, heq⟩ := ExtensionPoint.exists_of_mem_newLines
    (EndsDoNotCount.continues p.indent.length stop) hline
  have hindent : (p.indent ++ l).indent = p.indent ++ l.indent :=
    List.takeWhile_append_of_pos fun c hc => by rcases isIndent _ c hc with rfl | rfl <;> rfl
  have hblank : (p.indent ++ l).isBlankText = false := by
    rw [isBlankText, List.all_append, ← isBlankText, ← isBlankText, (h.line l hl).1, Bool.and_false]
  rw [heq, h.indented_eq hl, Block.continues, hblank, hindent, trim_indented, h.stop stop hstop l hl]
  simp

/-- The new lines are no anchors. -/
theorem Clean.trim_ne (h : Clean entries e snippet) {isLast : Bool} {line : Text}
    (hline : line ∈ p.newLines isLast snippet) : ∀ e' ∈ entries, line.trim ≠ e'.anchor := by
  obtain ⟨l, hl, heq⟩ := ExtensionPoint.exists_of_mem_newLines EndsDoNotCount.trim hline
  rw [heq, h.indented_eq hl, trim_indented]
  exact h.anchor l hl

/-! ## The lines of an extended host file -/

/-- The lines of a part. -/
def partLines : Part → List Text
  | .line t => [t]
  | .point p => p.lines

/-- A part with lines appended if it is a point. -/
def extendPart (f : Entry → List Text) : Part → Part
  | .line t => .line t
  | .point p => .point (p.append (f p.entry))

/-- A host file with lines appended at all its points. -/
def extend (f : Entry → List Text) (h : HostFile) : HostFile :=
  { h with parts := h.parts.map (extendPart f) }

theorem render_eq_flatten (h : HostFile) : h.render = (h.parts.flatMap partLines).flatten := by
  rw [render, List.flatMap_def, List.flatMap_def, List.flatten_flatten, List.map_map]
  congr 2
  funext part
  cases part <;> simp [Part.text, partLines]

theorem Layout.lines_eq (h : Layout entries lines parts) : lines = parts.flatMap partLines := by
  induction h with
  | nil => rfl
  | line _ _ ih => rw [List.flatMap_cons, ← ih]; rfl
  | point _ _ _ _ _ _ _ ih => rw [List.flatMap_cons, ← ih]; rfl

theorem Layout.entry_mem (h : Layout entries lines parts) (hp : .point p ∈ parts) :
    p.entry ∈ entries := by
  induction h with
  | nil => cases hp
  | line _ _ ih => exact ih (by simpa using hp)
  | point he _ _ _ _ _ _ ih =>
    rcases List.mem_cons.1 hp with hp | hp
    · cases hp; exact he
    · exact ih hp

/-- The first line of an extended host file is the old one, save for its end. -/
theorem map_head?_extend {α : Type} {g : Text → α} (hg : EndsDoNotCount g) (f : Entry → List Text)
    (parts : List Part) :
    ((parts.map (extendPart f)).flatMap partLines).head?.map g =
      (parts.flatMap partLines).head?.map g := by
  cases parts with
  | nil => rfl
  | cons part rest =>
    cases part with
    | line t => rfl
    | point p =>
      have hmap := ExtensionPoint.map_lines_append hg p (f p.entry)
      have hhead := congrArg List.head? hmap
      simpa [partLines, extendPart, ExtensionPoint.lines] using hhead

/-- Every anchor is found as often as before. -/
theorem anchorCount_extend (hc : ∀ p, .point p ∈ parts → Clean entries p.entry (f p.entry))
    (he : e ∈ entries) :
    anchorCount ((parts.map (extendPart f)).flatMap partLines) e =
      anchorCount (parts.flatMap partLines) e := by
  induction parts with
  | nil => rfl
  | cons part rest ih =>
    have hrest := ih fun p hp => hc p (by simp [hp])
    unfold anchorCount at hrest ⊢
    rw [List.map_cons, List.flatMap_cons, List.flatMap_cons, List.countP_append,
      List.countP_append, hrest]
    congr 1
    cases part with
    | line t => rfl
    | point p =>
      have hmap := ExtensionPoint.map_lines_append EndsDoNotCount.trim p (f p.entry)
      have hcount : ∀ ls : List Text, ls.countP (fun l => decide (l.trim = e.anchor)) =
          (ls.map Text.trim).countP (· = e.anchor) := fun ls => by
        rw [List.countP_map]; rfl
      have hnone : ((p.newLines p.isOpen (f p.entry)).map Text.trim).countP (· = e.anchor) = 0 := by
        rw [List.countP_eq_zero]
        intro t ht
        obtain ⟨l, hl, rfl⟩ := List.mem_map.1 ht
        simpa using (hc p (by simp)).trim_ne hl e he
      change (p.append (f p.entry)).lines.countP _ = p.lines.countP _
      rw [hcount, hcount, hmap, List.countP_append, hnone, Nat.add_zero]

theorem isNewline_newline (h : IsFull p.anchorLine ∨ IsOpen p.anchorLine) : IsNewline p.newline := by
  unfold ExtensionPoint.newline ExtensionPoint.newlineOf
  split
  · next hterm =>
    refine (h.resolve_right fun ho => ?_).isNewline
    rw [not_isTerminated_of_unbroken ho.2] at hterm
    cases hterm
  · exact .inl rfl

theorem Clean.unbroken_indented (h : Clean entries e snippet) {l : Text} (hl : l ∈ snippet) :
    Unbroken (p.indented l) := by
  rw [h.indented_eq hl]
  refine Unbroken.append (fun c hc => ?_) (h.line l hl).2
  rcases isIndent _ c hc with rfl | rfl <;> decide

/-- A new line without an end. -/
theorem Clean.isOpen_indented (h : Clean entries e snippet) {l : Text} (hl : l ∈ snippet) :
    IsOpen (p.indented l) := by
  refine ⟨?_, h.unbroken_indented hl⟩
  have hblank := (h.line l hl).1
  rw [h.indented_eq hl]
  refine List.append_ne_nil_of_right_ne_nil _ ?_
  rintro rfl
  cases hblank

/-- New lines are full, save for the last one at an open end. -/
theorem Clean.isFull_newLines (h : Clean entries e snippet) (hn : IsNewline p.newline)
    {front : List Text} (hf : ∀ l ∈ front, l ∈ snippet) :
    ∀ line ∈ p.newLines false front, IsFull line := by
  intro line hline
  rw [ExtensionPoint.newLines_false] at hline
  obtain ⟨l, hl, rfl⟩ := List.mem_map.1 hline
  exact ⟨_, _, h.unbroken_indented (hf l hl), hn, rfl⟩

/-- An open end is that of the file. -/
theorem unbroken_lastLine {more : List Text} (hw : WellLined (p.lines ++ more))
    (hopen : p.isOpen = true) : more = [] ∧ Unbroken p.lastLine := by
  have hlast : p.lastLine ∈ p.lines := by rw [p.lines_eq_dropLast]; simp
  have hnot : ¬ IsFull p.lastLine := fun hf => by
    simp [ExtensionPoint.isOpen, hf.isTerminated] at hopen
  refine ⟨by_contra fun hne => hnot (hw.isFull hne _ hlast), ?_⟩
  exact ((hw.isFull_or_isOpen _ (List.mem_append_left _ hlast)).resolve_left hnot).2

/-- Before an end that is not open all lines are full. -/
theorem isFull_lines {more : List Text} (hw : WellLined (p.lines ++ more))
    (hopen : p.isOpen = false) : ∀ line ∈ p.lines, IsFull line := by
  by_cases hne : more = []
  · rw [hne, List.append_nil, p.lines_eq_dropLast] at hw
    rw [p.lines_eq_dropLast, List.forall_mem_append, List.forall_mem_singleton]
    refine ⟨hw.isFull (List.cons_ne_nil _ _), ?_⟩
    refine (hw.isFull_or_isOpen p.lastLine (by simp)).resolve_right fun ho => ?_
    simp [ExtensionPoint.isOpen, not_isTerminated_of_unbroken ho.2] at hopen
  · exact hw.isFull hne

/-- The lines of an extended point are full, save for the last one at an open end. -/
theorem wellLined_lines_append {more more' : List Text} (h : Clean entries e snippet)
    (hw : WellLined (p.lines ++ more)) (hmore : WellLined more') (hnil : more = [] → more' = []) :
    WellLined ((p.append snippet).lines ++ more') := by
  have hn : IsNewline p.newline :=
    isNewline_newline (hw.isFull_or_isOpen _ (by simp [ExtensionPoint.lines]))
  rw [ExtensionPoint.lines_append]
  cases hopen : p.isOpen with
  | true =>
    obtain ⟨hnone, ho⟩ := unbroken_lastLine hw hopen
    rw [hnil hnone, List.append_nil, if_pos rfl]
    rw [hnone, List.append_nil, p.lines_eq_dropLast] at hw
    obtain ⟨front, last, rfl⟩ : ∃ front last, snippet = front ++ [last] := by
      rcases List.eq_nil_or_concat snippet with rfl | ⟨front, last, rfl⟩
      · exact absurd rfl h.ne_nil
      · exact ⟨front, last, List.concat_eq_append⟩
    rw [ExtensionPoint.newLines_true_concat]
    refine .append (hw.isFull (List.cons_ne_nil _ _)) (.cons ⟨_, _, ho, hn, rfl⟩ ?_)
    exact .append (h.isFull_newLines hn fun l hl => by simp [hl])
      (.last (h.isOpen_indented (by simp)))
  | false =>
    have hfull := isFull_lines hw hopen
    rw [p.lines_eq_dropLast] at hfull
    rw [if_neg Bool.false_ne_true, List.append_nil, List.append_cons, List.append_assoc]
    exact .append hfull (.append (h.isFull_newLines hn fun _ hl => hl) hmore)

theorem flatMap_partLines_ne_nil (h : parts ≠ []) : parts.flatMap partLines ≠ [] := by
  obtain ⟨part, rest, rfl⟩ := List.exists_cons_of_ne_nil h
  cases part <;> simp [partLines, ExtensionPoint.lines]

/-- The lines of an extended host file are full, save perhaps for the last one. -/
theorem wellLined_extend (hw : WellLined (parts.flatMap partLines))
    (hc : ∀ p, .point p ∈ parts → Clean entries p.entry (f p.entry)) :
    WellLined ((parts.map (extendPart f)).flatMap partLines) := by
  induction parts with
  | nil => exact .nil
  | cons part rest ih =>
    rw [List.flatMap_cons] at hw
    have hrest := ih hw.of_append fun p hp => hc p (by simp [hp])
    rw [List.map_cons, List.flatMap_cons]
    have hnil : rest.flatMap partLines = [] → (rest.map (extendPart f)).flatMap partLines = [] := by
      intro h
      obtain rfl : rest = [] := by
        by_contra hne
        exact flatMap_partLines_ne_nil hne h
      rfl
    cases part with
    | line t =>
      by_cases hne : rest.flatMap partLines = []
      · rw [hnil hne]
        rwa [hne] at hw
      · exact .append (hw.isFull hne) hrest
    | point p => exact wellLined_lines_append (hc p (by simp)) hw hrest hnil

/-- The parts of an extended host file are laid out as those before. -/
theorem Layout.extend (h : Layout entries lines parts)
    (hc : ∀ p, .point p ∈ parts → Clean entries p.entry (f p.entry)) :
    Layout entries ((parts.map (extendPart f)).flatMap partLines) (parts.map (extendPart f)) := by
  induction h with
  | nil => exact .nil
  | line hplain _ ih => exact .line hplain (ih fun p hp => hc p (by simp [hp]))
  | @point e line stop block rest parts he hline hstop hblock hnext hplain hlayout ih =>
    have hrest := ih fun p hp => hc p (by simp [hp])
    have hclean := hc ⟨e, line, block⟩ (by simp)
    rw [hlayout.lines_eq] at hnext
    have hcontinues := EndsDoNotCount.continues line.indent.length stop
    have hblock' := ExtensionPoint.forall_block_append (p := ⟨e, line, block⟩) (P := (· = true))
      hcontinues hblock fun _ hl => hclean.continues hstop hl
    have hplain' := ExtensionPoint.forall_block_append (p := ⟨e, line, block⟩)
      (P := fun t => ∀ e' ∈ entries, t ≠ e'.anchor) EndsDoNotCount.trim hplain
      fun _ hl => hclean.trim_ne hl
    have htrim := ExtensionPoint.anchorLine_append EndsDoNotCount.trim ⟨e, line, block⟩ (f e)
    have hindent := ExtensionPoint.anchorLine_append EndsDoNotCount.indent ⟨e, line, block⟩ (f e)
    have hentry := ExtensionPoint.append_entry ⟨e, line, block⟩ (f e)
    change Layout entries (((⟨e, line, block⟩ : ExtensionPoint).append (f e)).lines ++
      (parts.map (extendPart f)).flatMap partLines)
      (.point ((⟨e, line, block⟩ : ExtensionPoint).append (f e)) :: parts.map (extendPart f))
    generalize (⟨e, line, block⟩ : ExtensionPoint).append (f e) = q at *
    obtain ⟨e', line', block'⟩ := q
    obtain rfl : e' = e := hentry
    refine .point he (htrim.trans hline) hstop ?_ ?_ hplain' hrest
    · rw [hindent]
      exact hblock'
    · rw [hindent]
      intro l hl
      have hhead := map_head?_extend hcontinues f parts
      rw [Option.mem_def.1 hl] at hhead
      obtain ⟨l', hl', heq⟩ := Option.map_eq_some_iff.1 hhead.symm
      rw [← heq]
      exact hnext l' hl'

/-- The lines of an extended host file are those of its extended parts. -/
theorem lines_render_extend {host : HostFile} (h : parse path text entries = .ok host)
    (hplain : BreaksPlainly text) (hc : ∀ e ∈ entries, Clean entries e (f e)) :
    (host.extend f).render.lines = (host.parts.map (extendPart f)).flatMap partLines ∧
      WellLined (host.extend f).render.lines := by
  obtain ⟨-, -, hlayout⟩ := parse_eq_ok_iff.1 h
  have hw := wellLined_extend (f := f) (hlayout.lines_eq ▸ hplain.wellLined)
    fun p hp => hc _ (hlayout.entry_mem hp)
  have hlines : (host.extend f).render.lines =
      (host.parts.map (extendPart f)).flatMap partLines := by
    rw [render_eq_flatten]
    exact hw.lines_flatten
  exact ⟨hlines, hlines ▸ hw⟩

/-- **Reading what was extended.** A host file with clean lines appended at all its points is read
back as it is. -/
theorem parse_extend {host : HostFile} (h : parse path text entries = .ok host)
    (hplain : BreaksPlainly text) (hc : ∀ e ∈ entries, Clean entries e (f e)) :
    BreaksPlainly (host.extend f).render ∧
      parse path (host.extend f).render entries = .ok (host.extend f) := by
  obtain ⟨hloc, hpath, hlayout⟩ := parse_eq_ok_iff.1 h
  have hclean : ∀ p, .point p ∈ host.parts → Clean entries p.entry (f p.entry) :=
    fun p hp => hc _ (hlayout.entry_mem hp)
  obtain ⟨hlines, hw⟩ := lines_render_extend h hplain hc
  refine ⟨hw.isFull_or_isOpen, parse_eq_ok_iff.2 ⟨⟨fun e he => ?_, hloc.distinct⟩, hpath, ?_⟩⟩
  · rw [hlines, anchorCount_extend hclean he, ← hlayout.lines_eq]
    exact hloc.expected e he
  · rw [hlines]
    exact hlayout.extend hclean

/-- Extending twice is extending once. -/
theorem extend_extend {g : Entry → List Text} {host : HostFile}
    (hf : ∀ p, .point p ∈ host.parts → Clean entries p.entry (f p.entry))
    (hg : ∀ p, .point p ∈ host.parts → g p.entry ≠ []) :
    (host.extend f).extend g = host.extend fun e => f e ++ g e := by
  have hpart : ∀ part ∈ host.parts,
      extendPart g (extendPart f part) = extendPart (fun e => f e ++ g e) part := by
    intro part hpart
    cases part with
    | line t => rfl
    | point p =>
      rw [extendPart, extendPart, extendPart, ExtensionPoint.append_entry,
        ExtensionPoint.append_append (hf p hpart).isSnippet (hg p hpart)]
  rw [extend, extend, extend, List.map_map]
  exact congrArg _ (List.map_congr_left hpart)

end HostFile

end OpScaffold
