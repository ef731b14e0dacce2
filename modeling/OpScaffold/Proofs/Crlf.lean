import OpScaffold.Proofs.Success

/-!
# OpScaffold.Proofs.Crlf

Host files whose lines end in CR LF. New lines take the newline sequence of their anchor line, so
where the anchor line ends in CR LF all new lines do, and so does the line before them, which may
have had no end (`allCrlf_append_iff`). An anchor on the last line of the file may have no end to
take over; then both get a line feed instead, and the file mixes newline sequences from there on
(`insert_mixes_newlines`). Whether the file ends in a break does not change in any case
(`insert_keeps_crlf_iff`).
-/

namespace OpScaffold

/-! ## CR LF lines -/

namespace Text

variable {t line : Text} {lines : List Text}

/-- Whether a line ends in CR LF and has no other break. -/
def IsCrlf (line : Text) : Prop := ∃ body, Unbroken body ∧ line = body ++ ['\r', '\n']

/-- Whether lines end in CR LF, where they have an end. -/
def AllCrlf (lines : List Text) : Prop := ∀ line ∈ lines, IsCrlf line ∨ IsOpen line

/-- Whether a text has no breaks but CR LF. -/
def BreaksByCrlf (t : Text) : Prop := AllCrlf t.lines

/-- Whether a text ends in a line break. -/
def EndsInBreak (t : Text) : Prop := ∃ c ∈ t.getLast?, isLineBreak c = true

instance (line : Text) : Decidable (IsCrlf line) :=
  decidable_of_iff
    (Unbroken (line.take (line.length - 2)) ∧ line = line.take (line.length - 2) ++ ['\r', '\n'])
    ⟨fun ⟨hbody, hline⟩ => ⟨_, hbody, hline⟩, by rintro ⟨body, hbody, rfl⟩; simpa using hbody⟩

instance (line : Text) : Decidable (IsOpen line) :=
  inferInstanceAs (Decidable (line ≠ [] ∧ Unbroken line))

instance (t : Text) : Decidable (BreaksByCrlf t) :=
  inferInstanceAs (Decidable (∀ line ∈ t.lines, IsCrlf line ∨ IsOpen line))

instance (t : Text) : Decidable (EndsInBreak t) :=
  decidable_of_iff (t.getLast?.any isLineBreak = true) (Option.any_eq_true ..)

theorem IsCrlf.isFull (h : IsCrlf line) : IsFull line := by
  obtain ⟨body, hbody, rfl⟩ := h
  exact ⟨body, _, hbody, .inr rfl, rfl⟩

theorem IsFull.not_isOpen (h : IsFull line) : ¬ IsOpen line := fun ho => by
  have hterm := h.isTerminated
  rw [not_isTerminated_of_unbroken ho.2] at hterm
  cases hterm

theorem BreaksByCrlf.breaksPlainly (h : BreaksByCrlf t) : BreaksPlainly t :=
  fun line hline => (h line hline).imp_left IsCrlf.isFull

/-- A line that ends in LF alone. -/
theorem not_isCrlf_of_unbroken (h : Unbroken line) : ¬ IsCrlf (line ++ ['\n']) := by
  rintro ⟨body, -, heq⟩
  have hline : line = body ++ ['\r'] :=
    List.append_cancel_right (heq.trans (List.append_cons body '\r' ['\n']))
  exact absurd (h '\r' (by simp [hline])) (by decide)

/-- A text ends in a break just where its last line is terminated. -/
theorem WellLined.endsInBreak_iff (h : WellLined lines) :
    EndsInBreak lines.flatten ↔ lines.getLast?.map isTerminated = some true := by
  rcases List.eq_nil_or_concat lines with rfl | ⟨front, last, rfl⟩
  · simp [EndsInBreak]
  · rw [List.concat_eq_append] at h ⊢
    have hlast := h.isFull_or_isOpen last (by simp)
    rw [List.getLast?_concat, Option.map_some, Option.some_inj, EndsInBreak, List.flatten_append,
      List.flatten_singleton]
    rcases hlast with hfull | hopen
    · rw [hfull.isTerminated]
      obtain ⟨body, newline, -, rfl | rfl, rfl⟩ := hfull <;>
        exact iff_of_true ⟨'\n', by simp, by decide⟩ rfl
    · rw [not_isTerminated_of_unbroken hopen.2, List.getLast?_append_of_ne_nil _ hopen.1]
      refine iff_of_false ?_ Bool.false_ne_true
      rintro ⟨c, hc, hbreak⟩
      rw [hopen.2 c (List.mem_of_getLast? hc)] at hbreak
      cases hbreak

end Text

open Text

/-! ## Extended points -/

namespace ExtensionPoint

variable {p : ExtensionPoint} {entries : List Entry} {e : Entry} {snippet more : List Text}

theorem lastLine_mem_lines (p : ExtensionPoint) : p.lastLine ∈ p.lines := by
  rw [p.lines_eq_dropLast]
  simp

theorem newline_of_isCrlf (h : IsCrlf p.anchorLine) : p.newline = ['\r', '\n'] := by
  rw [newline, newlineOf, if_pos h.isFull.isTerminated]
  obtain ⟨body, -, hbody⟩ := h
  rw [hbody]
  simp [terminator]

/-- An anchor line without an end is the last line of the file. -/
theorem of_isOpen_anchorLine (hw : WellLined (p.lines ++ more)) (h : IsOpen p.anchorLine) :
    p.lastLine = p.anchorLine ∧ p.isOpen = true ∧ p.newline = ['\n'] := by
  have hnot := not_isTerminated_of_unbroken h.2
  have hblock : p.block = [] := by
    by_contra hne
    rw [lines, List.cons_append, ← List.singleton_append] at hw
    exact (hw.isFull (by simp [hne]) p.anchorLine (by simp)).not_isOpen h
  have hlast : p.lastLine = p.anchorLine := by rw [lastLine, hblock, List.getLastD_nil]
  refine ⟨hlast, ?_, newlineOf_of_not_isTerminated hnot⟩
  rw [isOpen, hlast, hnot]
  rfl

/-- New lines end as the anchor line does, save for one at the end of the file. -/
theorem cases_of_mem_newLines {isLast : Bool} {line : Text}
    (h : HostFile.Clean entries e snippet) (hline : line ∈ p.newLines isLast snippet) :
    (∃ body, Unbroken body ∧ line = body ++ p.newline) ∨ IsOpen line := by
  rcases List.eq_nil_or_concat snippet with rfl | ⟨front, last, rfl⟩
  · cases hline
  · rw [List.concat_eq_append] at h hline
    rw [newLines_append p isLast (List.cons_ne_nil _ _), newLines_false, newLines, List.mem_append,
      List.mem_map, List.mem_singleton] at hline
    rcases hline with ⟨l, hl, rfl⟩ | rfl
    · exact .inl ⟨_, h.unbroken_indented (by simp [hl]), rfl⟩
    · cases isLast with
      | false => exact .inl ⟨_, h.unbroken_indented (by simp), rfl⟩
      | true => exact .inr (by simpa using h.isOpen_indented (by simp))

/-- An extended point keeps to CR LF just where its anchor line has an end to take over. -/
theorem allCrlf_append_iff (h : HostFile.Clean entries e snippet)
    (hw : WellLined (p.lines ++ more)) (hcrlf : AllCrlf p.lines) :
    AllCrlf (p.append snippet).lines ↔ IsCrlf p.anchorLine := by
  rw [AllCrlf, lines_append, List.forall_mem_append, List.forall_mem_cons]
  constructor
  · rintro ⟨-, hlast, -⟩
    refine (hcrlf p.anchorLine List.mem_cons_self).resolve_right fun ho => ?_
    obtain ⟨heq, hopen, hnewline⟩ := of_isOpen_anchorLine hw ho
    rw [heq, hopen, if_pos rfl, hnewline] at hlast
    refine hlast.elim (not_isCrlf_of_unbroken ho.2) fun hbroken => ?_
    exact absurd (hbroken.2 '\n' (by simp)) (by decide)
  · intro hanchor
    have hnewline := newline_of_isCrlf hanchor
    refine ⟨fun line hline => hcrlf line (List.mem_of_mem_dropLast hline), ?_, fun line hline => ?_⟩
    · cases hopen : p.isOpen with
      | false => simpa using hcrlf _ p.lastLine_mem_lines
      | true =>
        rw [if_pos rfl, hnewline]
        exact .inl ⟨_, (HostFile.unbroken_lastLine hw hopen).2, rfl⟩
    · refine (cases_of_mem_newLines h hline).imp_left ?_
      rintro ⟨body, hbody, rfl⟩
      exact ⟨body, hbody, by rw [hnewline]⟩

end ExtensionPoint

/-! ## Extended host files -/

namespace HostFile

variable {path text : Text} {lines : List Text} {entries : List Entry} {host : HostFile}
  {parts : List Part} {f : Entry → List Text}

/-- The anchor lines of the points are the lines that are anchors. -/
theorem Layout.exists_anchorLine_iff (h : Layout entries lines parts) {line : Text} :
    (∃ p, .point p ∈ parts ∧ p.anchorLine = line) ↔
      line ∈ lines ∧ ∃ e ∈ entries, line.trim = e.anchor := by
  induction h with
  | nil => simp
  | @line first rest parts hplain _ ih =>
    have hfirst : ¬ ∃ e ∈ entries, first.trim = e.anchor := fun ⟨e, he, heq⟩ => hplain e he heq
    simp only [List.mem_cons, reduceCtorEq, false_or, ih, or_and_right]
    refine (or_iff_right ?_).symm
    rintro ⟨rfl, hanchor⟩
    exact hfirst hanchor
  | @point e first stop block rest parts he hline _ _ _ hplain _ ih =>
    have hblock : ∀ l ∈ block, ¬ ∃ e ∈ entries, l.trim = e.anchor :=
      fun l hl ⟨e, he, heq⟩ => hplain l hl e he heq
    constructor
    · rintro ⟨p, hp, rfl⟩
      rcases List.mem_cons.1 hp with hp | hp
      · cases hp
        exact ⟨List.mem_cons_self, e, he, hline⟩
      · obtain ⟨hmem, hanchor⟩ := ih.1 ⟨p, hp, rfl⟩
        exact ⟨by simp [hmem], hanchor⟩
    · rintro ⟨hmem, hanchor⟩
      rcases List.mem_cons.1 hmem with rfl | hmem
      · exact ⟨_, List.mem_cons_self, rfl⟩
      · rcases List.mem_append.1 hmem with hmem | hmem
        · exact absurd hanchor (hblock line hmem)
        · obtain ⟨p, hp, rfl⟩ := ih.2 ⟨hmem, hanchor⟩
          exact ⟨p, List.mem_cons_of_mem _ hp, rfl⟩

/-- An extended host file keeps to CR LF just where no anchor line is without an end. -/
theorem breaksByCrlf_extend_iff (h : parse path text entries = .ok host)
    (hcrlf : BreaksByCrlf text) (hc : ∀ e ∈ entries, Clean entries e (f e)) :
    BreaksByCrlf (host.extend f).render ↔
      ¬ ∃ line ∈ text.lines, IsOpen line ∧ ∃ e ∈ entries, line.trim = e.anchor := by
  obtain ⟨-, -, hlayout⟩ := parse_eq_ok_iff.1 h
  have hlines := hlayout.lines_eq
  have hw : WellLined (host.parts.flatMap partLines) := hlines ▸ hcrlf.breaksPlainly.wellLined
  have hpoint {p : ExtensionPoint} (hp : .point p ∈ host.parts) :
      AllCrlf (p.append (f p.entry)).lines ↔ IsCrlf p.anchorLine := by
    obtain ⟨front, back, hparts⟩ := List.append_of_mem hp
    rw [hparts, List.flatMap_append, List.flatMap_cons] at hw
    refine ExtensionPoint.allCrlf_append_iff (hc _ (hlayout.entry_mem hp)) hw.of_append ?_
    intro line hline
    refine hcrlf line ?_
    rw [hlines]
    exact List.mem_flatMap.2 ⟨_, hp, hline⟩
  rw [BreaksByCrlf, (lines_render_extend h hcrlf.breaksPlainly hc).1]
  constructor
  · rintro hall ⟨line, hline, hopen, hanchor⟩
    obtain ⟨p, hp, rfl⟩ := hlayout.exists_anchorLine_iff.2 ⟨hline, hanchor⟩
    refine ((hpoint hp).1 fun l hl => hall l ?_).isFull.not_isOpen hopen
    exact List.mem_flatMap.2 ⟨_, List.mem_map_of_mem hp, hl⟩
  · intro hnone line hline
    obtain ⟨_, hextended, hmem⟩ := List.mem_flatMap.1 hline
    obtain ⟨part, hpart, rfl⟩ := List.mem_map.1 hextended
    cases part with
    | line t =>
      refine hcrlf line ?_
      rw [hlines]
      exact List.mem_flatMap.2 ⟨_, hpart, hmem⟩
    | point p =>
      obtain ⟨hanchor, hentry⟩ := hlayout.exists_anchorLine_iff.1 ⟨p, hpart, rfl⟩
      refine (hpoint hpart).2 ((hcrlf _ hanchor).resolve_right fun hopen => ?_) line hmem
      exact hnone ⟨_, hanchor, hopen, hentry⟩

/-- The last line of an extended host file has an end if the last line had one. -/
theorem map_getLast?_extend (hc : ∀ p, .point p ∈ parts → Clean entries p.entry (f p.entry)) :
    ((parts.map (extendPart f)).flatMap partLines).getLast?.map isTerminated =
      (parts.flatMap partLines).getLast?.map isTerminated := by
  have hlines (p : ExtensionPoint) : p.lines.getLast? = some p.lastLine := by
    rw [p.lines_eq_dropLast, List.getLast?_concat]
  rcases List.eq_nil_or_concat parts with rfl | ⟨front, last, rfl⟩
  · rfl
  · rw [List.concat_eq_append] at hc ⊢
    have hne : ∀ part, partLines part ≠ [] := by
      rintro (t | p) <;> simp [partLines, ExtensionPoint.lines]
    rw [List.map_append, List.flatMap_append, List.flatMap_append, List.map_singleton,
      List.flatMap_singleton, List.flatMap_singleton, List.getLast?_append_of_ne_nil _ (hne _),
      List.getLast?_append_of_ne_nil _ (hne _)]
    cases last with
    | line t => rfl
    | point p =>
      have hopen := ExtensionPoint.isOpen_append (p := p) (hc p (by simp)).isSnippet
      rw [ExtensionPoint.isOpen, ExtensionPoint.isOpen, Bool.not_inj_iff] at hopen
      rw [extendPart, partLines, partLines, hlines, hlines, Option.map_some, Option.map_some, hopen]

/-- An extended host file ends in a break just where it did before. -/
theorem endsInBreak_extend_iff (h : parse path text entries = .ok host)
    (hplain : BreaksPlainly text) (hc : ∀ e ∈ entries, Clean entries e (f e)) :
    EndsInBreak (host.extend f).render ↔ EndsInBreak text := by
  obtain ⟨-, -, hlayout⟩ := parse_eq_ok_iff.1 h
  obtain ⟨hlines, hw⟩ := lines_render_extend h hplain hc
  rw [← flatten_lines (host.extend f).render, ← flatten_lines text, hw.endsInBreak_iff,
    hplain.wellLined.endsInBreak_iff, hlines, hlayout.lines_eq,
    map_getLast?_extend fun p hp => hc _ (hlayout.entry_mem hp)]

end HostFile

/-! ## The host files of the crate -/

namespace Insertion

variable {t : FileTree} {root : Path} {v : Variant} {name text : Text} {c : Changes} {e : Entry}

/-- **CR LF files.** Inserting a variant gives a host file one new text. If all breaks of the file
are CR LF, then the new text ends in a break just where the old one did; and all of its breaks are
CR LF just where the anchor does not stand on a line without an end, as the last line of the file
may be. -/
theorem insert_keeps_crlf_iff (hv : Variant.derive name = .ok v)
    (h : insert t root Registry.standard v = .ok c) (he : e ∈ Registry.standard)
    (hread : t.readText (root.child e.path) = .ok text) (hcrlf : BreaksByCrlf text) :
    ∃ new, (∀ other, (root.child e.path, other) ∈ c ↔ other = new) ∧
      (EndsInBreak new ↔ EndsInBreak text) ∧
      (BreaksByCrlf new ↔ ¬ ∃ line ∈ text.lines, IsOpen line ∧ line.trim = e.anchor) := by
  obtain ⟨old, host, hreg, hmem⟩ := Generation.insert_standard hv h he
  obtain rfl := Except.ok.inj (hreg.read.symm.trans hread)
  have hkeys := nodup_of_insert (fun _ he _ he' => Generation.eq_of_child_eq he he') h
  have hclean : ∀ e' ∈ [e], HostFile.Clean [e] e' (e'.snippet v) := fun e' he' => by
    obtain rfl := List.mem_singleton.1 he'
    exact Registry.clean_snippet he hv
  have hbreaks := HostFile.breaksByCrlf_extend_iff hreg.parsed hcrlf hclean
  simp only [List.mem_singleton, exists_eq_left] at hbreaks
  refine ⟨_, fun other => ⟨fun hother => ?_, fun heq => heq ▸ hmem⟩,
    HostFile.endsInBreak_extend_iff hreg.parsed hcrlf.breaksPlainly hclean, hbreaks⟩
  exact congrArg Prod.snd (List.inj_on_of_nodup_map hkeys hother hmem rfl)

/-- A crate whose host files list nothing, save for one with the given text. -/
def crateWith (numVec : Text) : FileTree :=
  let directory (names : List String) := (names.map String.toList, Node.directory)
  let file (names : List String) (text : Text) :=
    (names.map String.toList, .file (Utf8.encode text))
  ⟨["w".toList], [
    directory ["w"], directory ["w", "src"], directory ["w", "src", "float"],
    directory ["w", "src", "ad"], directory ["w", "src", "op"],
    file ["w", "src", "float", "core.rs"] "// unary functions\r\n".toList,
    file ["w", "src", "float", "az_float.rs"] "// unary functions\r\n".toList,
    file ["w", "src", "float", "num_vec.rs"] numVec,
    file ["w", "src", "ad", "float_core.rs"] "// unary functions\r\n".toList,
    file ["w", "src", "op", "id.rs"] "// Unary Operators\r\n".toList]⟩

theorem exists_ok_of_any {ε α : Type} {x : Except ε α} {p : α → Bool}
    (h : x.toOption.any p = true) : ∃ a, x = .ok a ∧ p a = true := by
  cases x with
  | error e => cases h
  | ok a => exact ⟨a, rfl, h⟩

/-- A list at the open end of the file, behind an anchor that ends in CR LF. -/
theorem insert_keeps_crlf_open_end :
    let old := "mod x;\r\n\r\n  // unary functions\r\n  impl_unary_float_core!(sin);".toList
    let new := old ++ "\r\n  impl_unary_float_core!(cos);".toList
    let cos : Variant := ⟨"cos".toList, "COS".toList⟩
    let path := (Path.ofText []).child "src/float/num_vec.rs".toList
    (crateWith old).readText path = .ok old ∧ BreaksByCrlf old ∧
      ∃ c, insert (crateWith old) (Path.ofText []) Registry.standard cos = .ok c ∧
        (path, new) ∈ c ∧ ¬ EndsInBreak new ∧ BreaksByCrlf new := by
  intro old new cos path
  have hv : Variant.derive "cos".toList = .ok cos := by decide +kernel
  obtain ⟨e, he, hpath⟩ : ∃ e ∈ Registry.standard, e.path = "src/float/num_vec.rs".toList := by
    decide
  have hread : (crateWith old).readText path = .ok old := by decide +kernel
  have hcrlf : BreaksByCrlf old := by decide +kernel
  have hclosed : ∀ e ∈ Registry.standard,
      ¬ ∃ line ∈ Text.lines old, IsOpen line ∧ line.trim = e.anchor := by decide +kernel
  have hrun : (insert (crateWith old) (Path.ofText []) Registry.standard cos).toOption.any
      ((path, new) ∈ ·) = true := by decide +kernel
  obtain ⟨c, h, hmem⟩ := exists_ok_of_any hrun
  have hmem : (path, new) ∈ c := of_decide_eq_true hmem
  obtain ⟨_, hnew, hends, hbreaks⟩ := insert_keeps_crlf_iff hv h he (hpath ▸ hread) hcrlf
  rw [hpath] at hnew
  obtain rfl := (hnew new).1 hmem
  exact ⟨hread, hcrlf, c, h, hmem, fun hend => absurd (hends.1 hend) (by decide +kernel),
    hbreaks.2 (hclosed e he)⟩

/-- An anchor at the open end of a file whose lines end in CR LF: the new line stands behind a line
feed alone. -/
theorem insert_mixes_newlines :
    let old := "mod x;\r\n// unary functions".toList
    let new := "mod x;\r\n// unary functions\nimpl_unary_float_core!(cos);".toList
    let cos : Variant := ⟨"cos".toList, "COS".toList⟩
    let path := (Path.ofText []).child "src/float/num_vec.rs".toList
    Variant.derive "cos".toList = .ok cos ∧ (crateWith old).readText path = .ok old ∧
      BreaksByCrlf old ∧ (∃ line ∈ Text.lines old, IsCrlf line) ∧
      ∃ c, insert (crateWith old) (Path.ofText []) Registry.standard cos = .ok c ∧
        (path, new) ∈ c ∧ ¬ BreaksByCrlf new := by
  intro old new cos path
  have hrun : (insert (crateWith old) (Path.ofText []) Registry.standard cos).toOption.any
      ((path, new) ∈ ·) = true := by decide +kernel
  obtain ⟨c, h, hmem⟩ := exists_ok_of_any hrun
  exact ⟨by decide +kernel, by decide +kernel, by decide +kernel, by decide +kernel, c, h,
    of_decide_eq_true hmem, by decide +kernel⟩

end Insertion

end OpScaffold
