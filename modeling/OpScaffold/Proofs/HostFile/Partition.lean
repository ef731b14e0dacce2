import OpScaffold.Proofs.HostFile.Rereading
import OpScaffold.Proofs.Rejection

/-!
# OpScaffold.Proofs.HostFile.Partition

Which texts are host files, and what reading makes of them, told by the numbers of lines. Reading
succeeds just where each anchor is found as often as it is expected, no line is the anchor of two
entries, and no anchor stands inside the block of another (`WellFormed`). It cuts the lines of the
text into plain lines and extension points: the points of an entry start in order at its anchor
lines, each takes the longest block, and no anchor stands elsewhere (`Partition`).
-/

namespace OpScaffold

/-- A line belongs to the block behind an anchor line if it is not blank, is indented at least as
far, and is not matched as a whole by the pattern that ends the block. -/
def Block.Belongs (anchorLine : Text) (stop : Option Pattern) (line : Text) : Prop :=
  line.isBlankText = false ∧ anchorLine.indent.length ≤ line.indent.length ∧
    ∀ pattern ∈ stop, pattern.matchesAll line.trim = false

theorem Block.continues_iff {anchorLine line : Text} {stop : Option Pattern} :
    Block.continues anchorLine.indent.length stop line = true ↔ Belongs anchorLine stop line := by
  cases stop <;> simp [Block.continues, Belongs, and_assoc]

/-- The block behind a line ends where the lines do that belong to it. -/
theorem Block.findEnd_of_drop {lines rest : List Text} {line : Text} {i : Nat} {e : Entry}
    {stop : Option Pattern} (hL : lines.drop i = line :: rest) (hstop : e.stop? = .ok stop) :
    Block.findEnd lines i e = .ok (i + 1 + (Block.take line stop rest).length : Nat) := by
  have hi : i < lines.length := by
    rw [← Nat.not_le, ← List.drop_eq_nil_iff, hL]
    exact List.cons_ne_nil line rest
  have hposition : Block.position? lines.length i = some i := by
    have hsign : ¬ (i : Int) < 0 := by omega
    simp [Block.position?, hsign, hi]
  have hline : lines[i]? = some line := by rw [← List.head?_drop, hL, List.head?_cons]
  have hrest : lines.drop (i + 1) = rest := by rw [← List.drop_drop, hL]; rfl
  unfold Block.findEnd
  rw [hposition]
  dsimp only
  rw [hline, hstop]
  dsimp only
  rw [hrest, if_neg (by omega), List.append_nil]
  rfl

namespace HostFile

variable {path text : Text} {lines rest : List Text} {entries : List Entry} {e : Entry}
  {parts : List Part} {host : HostFile} {i : Nat}

instance (lines : List Text) (e : Entry) (i : Nat) : Decidable (IsAnchor lines e i) :=
  inferInstanceAs (Decidable (_ = _))

/-- How the anchor lines must lie for a text to be a host file. -/
structure WellFormed (lines : List Text) (entries : List Entry) : Prop where
  /-- Every anchor is found as often as it is expected, and at least once. -/
  expected : ∀ e ∈ entries, 1 ≤ anchorCount lines e ∧ (anchorCount lines e : Int) = e.expected
  /-- No line is the anchor of two entries. -/
  alone : entries.Pairwise fun e e' => ∀ i, ¬ (IsAnchor lines e i ∧ IsAnchor lines e' i)
  /-- No anchor line stands inside the block of another. -/
  apart : ∀ e ∈ entries, ∀ e' ∈ entries, ∀ i j : Nat, IsAnchor lines e i → IsAnchor lines e' j →
    ∀ behind, Block.findEnd lines i e = .ok behind → ¬ (i < j ∧ j < behind)

/-- The extension points of some parts with the numbers of the lines at which they start; the first
part starts at line number `i`. -/
def starts : (i : Nat) → List Part → List (Nat × ExtensionPoint)
  | _, [] => []
  | i, .line _ :: rest => starts (i + 1) rest
  | i, .point p :: rest => (i, p) :: starts (i + p.lines.length) rest

/-- How a host file cuts its text. -/
structure Partition (text : Text) (entries : List Entry) (host : HostFile) : Prop where
  render : host.render = text
  lines : host.parts.flatMap partLines = text.lines
  /-- Every point belongs to an entry. -/
  entry : ∀ p ∈ host.points, p.entry ∈ entries ∧ p.anchorLine.trim = p.entry.anchor
  /-- The points of an entry start in order at the lines that are its anchor. -/
  starts : ∀ e ∈ entries, ((HostFile.starts 0 host.parts).filter (·.2.entry = e)).map (·.1) =
    (List.range text.lines.length).filter (IsAnchor text.lines e)
  count : ∀ e ∈ entries, (host.points.countP (·.entry = e) : Int) = e.expected
  plain : ∀ line, .line line ∈ host.parts → ∀ e ∈ entries, line.trim ≠ e.anchor
  block : ∀ p ∈ host.points, ∀ line ∈ p.block, ∀ e ∈ entries, line.trim ≠ e.anchor
  /-- A block is the longest run of lines that belong to it. -/
  longest : ∀ front p back, host.parts = front ++ .point p :: back →
    ∀ stop, p.entry.stop? = .ok stop →
      (∀ line ∈ p.block, Block.Belongs p.anchorLine stop line) ∧
        ∀ line ∈ (back.flatMap partLines).head?, ¬ Block.Belongs p.anchorLine stop line

/-! ## Which texts are host files -/

/-- Anchors that are found differ just where no line is found for two of them. -/
theorem pairwise_alone_iff (hpos : ∀ e ∈ entries, 0 < anchorCount lines e) :
    (entries.map (·.anchor)).Nodup ↔
      entries.Pairwise fun e e' => ∀ i, ¬ (IsAnchor lines e i ∧ IsAnchor lines e' i) := by
  rw [List.Nodup, List.pairwise_map]
  refine List.Pairwise.iff_of_mem fun {e e'} he _ => ?_
  constructor
  · rintro hne i ⟨hi, hi'⟩
    exact hne (Option.some.inj (hi.symm.trans hi'))
  · intro hno heq
    obtain ⟨line, hline, htrim⟩ := List.countP_pos_iff.1 (hpos e he)
    obtain ⟨i, hi, rfl⟩ := List.getElem_of_mem hline
    have hanchor : IsAnchor lines e i := by
      rw [IsAnchor, List.getElem?_eq_getElem hi]
      simpa using htrim
    exact hno i ⟨hanchor, by rwa [IsAnchor, ← heq]⟩

/-- An anchor line starts a point of the layout. -/
theorem Layout.exists_of_isAnchor (h : Layout entries lines parts) (he : e ∈ entries)
    (hunique : ∀ e' ∈ entries, e'.anchor = e.anchor → e' = e) (hi : IsAnchor lines e i) :
    ∃ line stop block rest, lines.drop i = line :: (block ++ rest) ∧ e.stop? = .ok stop ∧
      Block.take line stop (block ++ rest) = block ∧
        ∀ l ∈ block, ∀ e' ∈ entries, l.trim ≠ e'.anchor := by
  induction h generalizing i with
  | nil => cases hi
  | @line line rest parts hplain _ ih =>
    cases i with
    | zero => exact absurd (by simpa [IsAnchor] using hi) (hplain e he)
    | succ i => exact ih (by simpa [IsAnchor] using hi)
  | @point e' line stop block rest parts he' hline hstop hblock hnext hplain _ ih =>
    cases i with
    | zero =>
      have htrim : line.trim = e.anchor := by simpa [IsAnchor] using hi
      obtain rfl := hunique e' he' (hline.symm.trans htrim)
      exact ⟨line, stop, block, rest, rfl, hstop, (Block.take_append hblock hnext).1, hplain⟩
    | succ i =>
      rw [IsAnchor, List.getElem?_cons_succ] at hi
      by_cases hin : i < block.length
      · rw [List.getElem?_append_left hin, List.getElem?_eq_getElem hin] at hi
        exact absurd (by simpa using hi) (hplain _ (List.getElem_mem hin) e he)
      · obtain ⟨k, rfl⟩ : ∃ k, i = block.length + k := ⟨i - block.length, by omega⟩
        rw [List.getElem?_append_right (by omega), Nat.add_sub_cancel_left] at hi
        rw [List.drop_succ_cons, ← List.drop_drop, List.drop_left]
        exact ih hi

/-- Whether no block behind an anchor line holds another anchor. -/
def Unnested (entries : List Entry) (lines : List Text) : Prop :=
  ∀ front line rest, lines = front ++ line :: rest → ∀ e ∈ entries, line.trim = e.anchor →
    ∀ stop, e.stop? = .ok stop → ∀ l ∈ Block.take line stop rest, ∀ e' ∈ entries, l.trim ≠ e'.anchor

theorem Unnested.of_append (lines : List Text) (h : Unnested entries (lines ++ rest)) :
    Unnested entries rest :=
  fun front line more hrest => h (lines ++ front) line more (by rw [hrest, List.append_assoc])

/-- Where no anchor stands in the block of another the lines have a layout. -/
theorem Unnested.exists_layout (h : Unnested entries lines)
    (hstop : ∀ e ∈ entries, ∃ stop, e.stop? = .ok stop) : ∃ parts, Layout entries lines parts := by
  induction hn : lines.length using Nat.strongRecOn generalizing lines with
  | ind n ih =>
  cases lines with
  | nil => exact ⟨[], .nil⟩
  | cons line rest =>
    rw [List.length_cons] at hn
    by_cases hanchor : ∃ e ∈ entries, line.trim = e.anchor
    · obtain ⟨e, he, hline⟩ := hanchor
      obtain ⟨stop, hs⟩ := hstop e he
      have hlength := Block.length_drop_le line stop rest
      have hcut := Block.take_append_drop line stop rest
      have hbehind : Unnested entries (Block.drop line stop rest) := by
        refine .of_append (line :: Block.take line stop rest) ?_
        rwa [List.cons_append, hcut]
      obtain ⟨parts, hparts⟩ := ih _ (by omega) hbehind rfl
      have hlayout := Layout.point he hline hs (fun l hl => Block.continues_of_mem_take hl)
        (fun l hl => Block.continues_head?_drop hl) (h [] line rest rfl e he hline stop hs) hparts
      rw [hcut] at hlayout
      exact ⟨_, hlayout⟩
    · obtain ⟨parts, hparts⟩ := ih _ (by omega) (.of_append [line] h) rfl
      exact ⟨_, .line (fun e he hline => hanchor ⟨e, he, hline⟩) hparts⟩

theorem WellFormed.unnested (h : WellFormed lines entries) : Unnested entries lines := by
  rintro front line rest rfl e he hline stop hstop l hl e' he' hl'
  obtain ⟨k, hk, rfl⟩ := List.getElem_of_mem hl
  have hcut : rest[k]? = some (Block.take line stop rest)[k] := by
    conv_lhs => rw [← Block.take_append_drop line stop rest]
    rw [List.getElem?_append_left hk, List.getElem?_eq_getElem hk]
  have hi : IsAnchor (front ++ line :: rest) e front.length := by
    simp [IsAnchor, hline]
  have hj : IsAnchor (front ++ line :: rest) e' (front.length + (k + 1)) := by
    rw [IsAnchor, List.getElem?_append_right (by omega), Nat.add_sub_cancel_left,
      List.getElem?_cons_succ, hcut, Option.map_some, hl']
  have hdrop : (front ++ line :: rest).drop front.length = line :: rest := List.drop_left
  have hend := Block.findEnd_of_drop hdrop hstop
  exact h.apart e he e' he' _ _ hi hj _ hend ⟨by omega, by omega⟩

/-- A text that is read is well-formed. -/
theorem wellFormed_of_layout (hloc : Located lines entries) (h : Layout entries lines parts) :
    WellFormed lines entries := by
  have halone := (pairwise_alone_iff fun e he => (hloc.expected e he).1).1 hloc.distinct
  refine ⟨hloc.expected, halone, ?_⟩
  rintro e he e' he' i j hi hj behind hend ⟨hlt, hbehind⟩
  obtain ⟨line, stop, block, rest, hL, hstop, htake, hplain⟩ :=
    h.exists_of_isAnchor he (fun e' he' => List.inj_on_of_nodup_map hloc.distinct he' he) hi
  rw [Block.findEnd_of_drop hL hstop, htake, Except.ok.injEq] at hend
  obtain ⟨k, rfl⟩ : ∃ k, j = i + (k + 1) := ⟨j - (i + 1), by omega⟩
  have hk : k < block.length := by omega
  rw [isAnchor_add hL, List.getElem?_cons_succ, List.getElem?_append_left hk,
    List.getElem?_eq_getElem hk] at hj
  exact hplain _ (List.getElem_mem hk) e' he' (by simpa using hj)

/-- Reading succeeds just on well-formed texts. -/
theorem exists_parse_iff (hstop : ∀ e ∈ entries, ∃ stop, e.stop? = .ok stop) :
    (∃ host, parse path text entries = .ok host) ↔ WellFormed text.lines entries := by
  constructor
  · rintro ⟨host, h⟩
    obtain ⟨hloc, -, hlayout⟩ := parse_eq_ok_iff.1 h
    exact wellFormed_of_layout hloc hlayout
  · intro h
    obtain ⟨parts, hparts⟩ := h.unnested.exists_layout hstop
    have hdistinct := (pairwise_alone_iff fun e he => (h.expected e he).1).2 h.alone
    exact ⟨⟨path, parts⟩, parse_eq_ok_iff.2 ⟨⟨h.expected, hdistinct⟩, rfl, hparts⟩⟩

/-! ## What reading makes of them -/

theorem hits_append (anchor : Text) (i : Nat) (lines more : List Text) :
    hits anchor i (lines ++ more) = hits anchor i lines ++ hits anchor (i + lines.length) more := by
  induction lines generalizing i with
  | nil => rfl
  | cons line rest ih =>
    have hlength : i + (line :: rest).length = i + 1 + rest.length := by
      rw [List.length_cons]
      omega
    rw [List.cons_append, hits, hits, ih, hlength]
    split <;> rfl

theorem hits_of_forall_ne {anchor : Text} (h : ∀ l ∈ lines, l.trim ≠ anchor) (i : Nat) :
    hits anchor i lines = [] := by
  refine List.eq_nil_iff_forall_not_mem.2 fun j hj => ?_
  obtain ⟨k, -, hk⟩ := mem_hits.1 hj
  obtain ⟨l, hl, htrim⟩ := Option.map_eq_some_iff.1 hk
  exact h l (List.mem_of_getElem? hl) htrim

/-- The lines that are an anchor, in their order. -/
theorem hits_eq_filter (anchor : Text) (i : Nat) (lines : List Text) :
    hits anchor i lines =
      ((List.range lines.length).filter (lines[·]?.map Text.trim = some anchor)).map (i + ·) := by
  induction lines generalizing i with
  | nil => rfl
  | cons line rest ih =>
    have hshift : (List.map Nat.succ ((List.range rest.length).filter
        (rest[·]?.map Text.trim = some anchor))).map (i + ·) = hits anchor (i + 1) rest := by
      rw [ih, List.map_map]
      exact List.map_congr_left fun k _ => by simp only [Function.comp_apply]; omega
    rw [hits, List.length_cons, List.range_succ_eq_map, List.filter_cons, List.filter_map, ← hshift]
    by_cases hline : line.trim = anchor <;> simp [hline, Function.comp_def]

/-- The points of an entry start at its anchor lines. -/
theorem Layout.map_starts (h : Layout entries lines parts) (he : e ∈ entries)
    (hunique : ∀ e' ∈ entries, e'.anchor = e.anchor → e' = e) (i : Nat) :
    ((starts i parts).filter (·.2.entry = e)).map (·.1) = hits e.anchor i lines := by
  induction h generalizing i with
  | nil => rfl
  | @line line rest parts hplain _ ih =>
    rw [starts, hits, if_neg (hplain e he), ih]
  | @point e' line stop block rest parts he' hline _ _ _ hplain _ ih =>
    have hlength : i + (line :: block).length = i + 1 + block.length := by
      rw [List.length_cons]
      omega
    rw [starts, hits, hits_append, hits_of_forall_ne (fun l hl => hplain l hl e he),
      List.nil_append, List.filter_cons, ExtensionPoint.lines, hlength]
    by_cases heq : e' = e
    · subst heq
      rw [if_pos (by simp), if_pos hline, List.map_cons, ih]
    · have hne : line.trim ≠ e.anchor := fun htrim => heq (hunique e' he' (hline.symm.trans htrim))
      rw [if_neg (by simpa using heq), if_neg hne, ih]

theorem map_starts_snd (path : Text) (i : Nat) (parts : List Part) :
    (starts i parts).map (·.2) = points ⟨path, parts⟩ := by
  induction parts generalizing i with
  | nil => rfl
  | cons part rest ih =>
    cases part with
    | line t => rw [starts, points_line, ih]
    | point p => rw [starts, points_point, List.map_cons, ih]

/-- No anchor stands outside the first lines of points. -/
theorem Layout.plain (h : Layout entries lines parts) :
    (∀ line, .line line ∈ parts → ∀ e ∈ entries, line.trim ≠ e.anchor) ∧
      ∀ p, .point p ∈ parts → p.anchorLine.trim = p.entry.anchor ∧
        ∀ line ∈ p.block, ∀ e ∈ entries, line.trim ≠ e.anchor := by
  induction h with
  | nil => simp
  | line hplain _ ih =>
    refine ⟨fun l hl => ?_, fun p hp => ih.2 p (by simpa using hp)⟩
    rcases List.mem_cons.1 hl with hl | hl
    · cases hl; exact hplain
    · exact ih.1 l hl
  | point _ hline _ _ _ hplain _ ih =>
    refine ⟨fun l hl => ih.1 l (by simpa using hl), fun p hp => ?_⟩
    rcases List.mem_cons.1 hp with hp | hp
    · cases hp; exact ⟨hline, hplain⟩
    · exact ih.2 p hp

/-- Every point takes the lines that belong to its block, and the next line does not. -/
theorem Layout.longest (h : Layout entries lines parts) {front back : List Part}
    {p : ExtensionPoint} (hparts : parts = front ++ .point p :: back) {stop : Option Pattern}
    (hstop : p.entry.stop? = .ok stop) :
    (∀ line ∈ p.block, Block.Belongs p.anchorLine stop line) ∧
      ∀ line ∈ (back.flatMap partLines).head?, ¬ Block.Belongs p.anchorLine stop line := by
  induction h generalizing front with
  | nil => simp at hparts
  | line _ _ ih =>
    cases front with
    | nil => cases hparts
    | cons part front => exact ih (List.cons.inj hparts).2
  | point _ _ hs hblock hnext _ hrest ih =>
    cases front with
    | nil =>
      cases hparts
      cases hs.symm.trans hstop
      rw [← hrest.lines_eq]
      refine ⟨fun l hl => Block.continues_iff.1 (hblock l hl), fun l hl hbelongs => ?_⟩
      exact absurd (hnext l hl) (by simp [Block.continues_iff.2 hbelongs])
    | cons part front => exact ih (List.cons.inj hparts).2

/-- The parts of a layout partition the lines. -/
theorem partition_of_layout (hloc : Located text.lines entries)
    (h : Layout entries text.lines host.parts) : Partition text entries host := by
  have hlines := h.lines_eq
  have hstarts (e : Entry) (he : e ∈ entries) :
      ((starts 0 host.parts).filter (·.2.entry = e)).map (·.1) = hits e.anchor 0 text.lines :=
    h.map_starts he (fun e' he' => List.inj_on_of_nodup_map hloc.distinct he' he) 0
  exact {
    render := by rw [render_eq_flatten, ← hlines, Text.flatten_lines]
    lines := hlines.symm
    entry := fun p hp => ⟨h.entry_mem (mem_points.1 hp), (h.plain.2 p (mem_points.1 hp)).1⟩
    starts := fun e he => by
      rw [hstarts e he, hits_eq_filter, List.map_congr_left fun k _ => Nat.zero_add k, List.map_id']
      rfl
    count := fun e he => by
      have hlength := congrArg List.length (hstarts e he)
      rw [List.length_map, length_hits, ← List.countP_eq_length_filter] at hlength
      rw [← (hloc.expected e he).2, anchorCount, ← hlength, ← map_starts_snd host.path 0,
        List.countP_map]
      rfl
    plain := h.plain.1
    block := fun p hp => (h.plain.2 p (mem_points.1 hp)).2
    longest := fun _ _ _ hparts _ hstop => h.longest hparts hstop }

/-- **Reading.** For every text, and all entries whose patterns can be read: reading succeeds just
if the text is well-formed, it fails with a fault of the registry otherwise, and the host file that
it makes is a partition of the text. -/
theorem parse_partitions (path text : Text)
    (hpattern : ∀ e ∈ entries, ∀ t ∈ e.blockEnd, ∃ pattern, Pattern.ofText t = .ok pattern) :
    ((∃ host, parse path text entries = .ok host) ↔ WellFormed text.lines entries) ∧
      (¬ WellFormed text.lines entries →
        ∃ fault, parse path text entries = .error (.registry fault)) ∧
      ∀ host, parse path text entries = .ok host →
        host.path = path ∧ Partition text entries host := by
  have hstop (e : Entry) (he : e ∈ entries) := Entry.exists_stop (hpattern e he)
  refine ⟨exists_parse_iff hstop, fun hnot => ?_, fun host h => ?_⟩
  · cases h : parse path text entries with
    | ok host => exact absurd ((exists_parse_iff hstop).1 ⟨host, h⟩) hnot
    | error failure =>
      obtain ⟨fault, rfl⟩ := registry_of_parse hstop h
      exact ⟨fault, rfl⟩
  · obtain ⟨hloc, hpath, hlayout⟩ := parse_eq_ok_iff.1 h
    exact ⟨hpath, partition_of_layout hloc hlayout⟩

/-- A list that stands twice in its file: the first block is ended by a pattern, the second by a
line that is indented less. One of the anchor lines is broken by a vertical tab. -/
theorem parse_partitions_twice :
    let list : Entry := ⟨[], "// list".toList, "\x7bname\x7d;".toList, some "//".toList, 2⟩
    let text : Text := "\t// list\x0b\tsin;\r\n\t//\n // list\n\x7d\u2028".toList
    let host : HostFile := ⟨[], [
      .point ⟨list, "\t// list\x0b".toList, ["\tsin;\r\n".toList]⟩, .line "\t//\n".toList,
      .point ⟨list, " // list\n".toList, []⟩, .line "\x7d\u2028".toList]⟩
    (∀ e ∈ [list], ∀ t ∈ e.blockEnd, ∃ pattern, Pattern.ofText t = .ok pattern) ∧
      parse [] text [list] = .ok host ∧ WellFormed text.lines [list] ∧
        Partition text [list] host := by
  intro list text host
  have hpattern : ∀ e ∈ [list], ∀ t ∈ e.blockEnd, ∃ pattern, Pattern.ofText t = .ok pattern := by
    simp only [List.mem_singleton, forall_eq, list, Option.mem_some]
    rintro _ rfl
    exact ⟨_, rfl⟩
  have hparse : parse [] text [list] = .ok host := by decide +kernel
  obtain ⟨hiff, -, hread⟩ := parse_partitions [] text hpattern
  exact ⟨hpattern, hparse, hiff.1 ⟨host, hparse⟩, (hread host hparse).2⟩

end HostFile

end OpScaffold
