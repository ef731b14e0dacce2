import OpScaffold.Proofs.HostFile.Rereading

/-!
# OpScaffold.Proofs.HostFile.OwnLines

Whether appended lines stand on lines of their own. A text is broken into lines at every line break
character, but a point takes its last line for terminated only if it ends in LF, CR or CR LF. What
is appended behind any other break is therefore left open as if the file ended there, and runs into
the text behind it; everywhere else the new lines stand alone (`standAlone_append_iff`).
-/

namespace OpScaffold

/-! ## Lines of any text -/

namespace Text

variable {t line : Text} {a b : Text}

/-- A line without its break. -/
def content (line : Text) : Text := line.takeWhile fun c => !isLineBreak c

/-- Lines that are appended behind a break are lines of the whole, unless the break goes on. -/
theorem lines_append (ha : ∀ c ∈ a.getLast?, isLineBreak c = true) (hb : b.head? ≠ some '\n') :
    lines (a ++ b) = lines a ++ lines b := by
  fun_induction lines a with
  | case1 => rfl
  | case2 t ih =>
    have ht : ∀ c ∈ t.getLast?, isLineBreak c = true :=
      fun c hc => ha c (List.mem_getLast?_cons (List.mem_getLast?_cons hc))
    exact congrArg (['\r', '\n'] :: ·) (ih ht)
  | case3 c t hcrlf hc ih =>
    have ht : ∀ d ∈ t.getLast?, isLineBreak d = true :=
      fun d hd => ha d (List.mem_getLast?_cons hd)
    rw [List.cons_append, lines, if_pos hc, ih ht]
    · rfl
    · intro u hcr heq
      cases t with
      | nil => exact hb (congrArg List.head? heq)
      | cons d t =>
        obtain ⟨rfl, rfl⟩ := List.cons.inj heq
        exact hcrlf t hcr rfl
  | case4 c t hcrlf hc hnil =>
    obtain rfl : t = [] := by rw [← flatten_lines t, hnil]; rfl
    exact absurd (ha c rfl) hc
  | case5 c t hcrlf hc first rest hlines ih =>
    rw [Bool.not_eq_true] at hc
    have hne : t ≠ [] := by rintro rfl; cases hlines
    have ht : ∀ d ∈ t.getLast?, isLineBreak d = true :=
      fun d hd => ha d (List.mem_getLast?_cons hd)
    have hrest := ih ht
    rw [hlines] at hrest
    exact lines_cons_of_not_break hc hrest

/-- The first line of a text reaches to its first break. -/
theorem content_of_lines {rest : List Text} (h : lines t = line :: rest) :
    content line = t.takeWhile fun c => !isLineBreak c := by
  fun_induction lines t generalizing line rest with
  | case1 => cases h
  | case2 t ih => cases h; rfl
  | case3 c t hcrlf hc ih => cases h; simp [content, hc]
  | case4 c t hcrlf hc hnil =>
    cases h
    obtain rfl : t = [] := by rw [← flatten_lines t, hnil]; rfl
    rfl
  | case5 c t hcrlf hc first rest' hlines ih =>
    cases h
    have hfirst := ih hlines
    simp only [content, Bool.not_eq_true] at hfirst hc ⊢
    rw [List.takeWhile_cons_of_pos (by simp [hc]), List.takeWhile_cons_of_pos (by simp [hc]), hfirst]

/-- A line before another one ends in a break. -/
theorem getLast?_of_lines {before after : List Text} (h : lines t = before ++ line :: after)
    (hne : after ≠ []) : ∃ c ∈ line.getLast?, isLineBreak c = true := by
  fun_induction lines t generalizing before line with
  | case1 => simp at h
  | case2 t ih =>
    cases before with
    | nil => cases h; exact ⟨'\n', rfl, by decide⟩
    | cons _ before => exact ih (List.cons.inj h).2
  | case3 c t _ hc ih =>
    cases before with
    | nil => cases h; exact ⟨c, rfl, hc⟩
    | cons _ before => exact ih (List.cons.inj h).2
  | case4 c t =>
    cases before with
    | nil => cases h; exact absurd rfl hne
    | cons _ before => simp at h
  | case5 c t _ _ first rest hlines ih =>
    cases before with
    | nil =>
      cases h
      have hfirst : lines t = [] ++ first :: after := hlines
      obtain ⟨d, hd, hbreak⟩ := ih hfirst
      exact ⟨d, List.mem_getLast?_cons hd, hbreak⟩
    | cons _ before =>
      obtain ⟨-, rfl⟩ := List.cons.inj h
      have hrest : lines t = (first :: before) ++ line :: after := hlines
      exact ih hrest

theorem exists_lines_cons (h : t ≠ []) : ∃ line rest, lines t = line :: rest := by
  refine List.exists_cons_of_ne_nil fun hnil => h ?_
  rw [← flatten_lines t, hnil, List.flatten_nil]

/-- Lines that are not empty are counted off by the text that they make up. -/
theorem eq_of_flatten_eq {before after before' after' : List Text}
    (h : before ++ after = before' ++ after') (hne : ∀ line ∈ before ++ after, line ≠ [])
    (hf : before.flatten = before'.flatten) : before = before' := by
  have hnil {more : List Text} (hmore : more ⊆ before ++ after) (hempty : more.flatten = []) :
      more = [] := by
    rw [List.eq_nil_iff_forall_not_mem]
    exact fun line hline => hne line (hmore hline) (List.flatten_eq_nil_iff.1 hempty line hline)
  rcases List.append_eq_append_iff.1 h with ⟨more, rfl, rfl⟩ | ⟨more, rfl, rfl⟩
  · obtain rfl : more = [] := hnil (by simp) (by simpa using hf)
    rw [List.append_nil]
  · obtain rfl : more = [] := hnil (by simp) (by simpa using hf)
    rw [List.append_nil]

end Text

/-- Whether lines stand alone in a text behind `front`: they are lines of it, save for their
breaks, and the lines before them make up `front`. -/
def StandAlone (front : Text) (snippet : List Text) (text : Text) : Prop :=
  ∃ above own below, text.lines = above ++ own ++ below ∧ above.flatten = front ∧
    own.map Text.content = snippet

open Text

/-- Behind a text that ends in a break, lines stand alone that are the first ones of what follows. -/
theorem standAlone_append {a b : Text} {snippet : List Text}
    (ha : ∀ c ∈ a.getLast?, isLineBreak c = true) (hb : b.head? ≠ some '\n') :
    StandAlone a snippet (a ++ b) ↔
      ∃ own below, b.lines = own ++ below ∧ own.map content = snippet := by
  unfold StandAlone
  rw [lines_append ha hb]
  constructor
  · rintro ⟨above, own, below, heq, hfront, hown⟩
    rw [List.append_assoc] at heq
    have hlines : ∀ line ∈ a.lines ++ b.lines, line ≠ [] := fun line hline =>
      (List.mem_append.1 hline).elim ne_nil_of_mem_lines ne_nil_of_mem_lines
    obtain rfl : a.lines = above := eq_of_flatten_eq heq hlines (by rw [flatten_lines, hfront])
    exact ⟨own, below, List.append_cancel_left heq, hown⟩
  · rintro ⟨own, below, heq, hown⟩
    exact ⟨a.lines, own, below, by rw [heq, List.append_assoc], flatten_lines a, hown⟩

/-! ## Appended lines -/

namespace ExtensionPoint

variable {p : ExtensionPoint} {snippet : List Text} {line rest tail : Text}

theorem newline_cases (p : ExtensionPoint) :
    p.newline = ['\n'] ∨ p.newline = ['\r'] ∨ p.newline = ['\r', '\n'] :=
  newlineOf_cases p.anchorLine

theorem head?_newline (p : ExtensionPoint) : ∃ c ∈ p.newline.head?, isLineBreak c = true := by
  rcases p.newline_cases with h | h | h <;> rw [h] <;> exact ⟨_, rfl, by decide⟩

theorem getLast?_newline (p : ExtensionPoint) :
    ∃ c ∈ p.newline.getLast?, isLineBreak c = true := by
  rcases p.newline_cases with h | h | h <;> rw [h] <;> exact ⟨_, rfl, by decide⟩

theorem unbroken_indented (h : Unbroken line) : Unbroken (p.indented line) := by
  unfold indented
  split
  · simp [Unbroken]
  · refine Unbroken.append (fun c hc => ?_) h
    rcases HostFile.isIndent _ c hc with rfl | rfl <;> decide

theorem head?_indented (hne : line ≠ []) (h : Unbroken line) :
    ∃ c ∈ (p.indented line).head?, isLineBreak c = false := by
  have hind : p.indented line ≠ [] := by
    rw [indented, if_neg (by simpa using hne)]
    exact List.append_ne_nil_of_right_ne_nil _ hne
  obtain ⟨c, rest, hc⟩ := List.exists_cons_of_ne_nil hind
  exact ⟨c, by rw [hc]; rfl, unbroken_indented h c (by rw [hc]; exact List.mem_cons_self)⟩

/-- Characters without a break are a whole line if a break or nothing stands behind them. -/
theorem takeWhile_append_eq_iff (hline : Unbroken line) :
    (line ++ rest).takeWhile (fun c => !isLineBreak c) = line ↔
      rest = [] ∨ ∃ c ∈ rest.head?, isLineBreak c = true := by
  rw [List.takeWhile_append_of_pos fun c hc => by simp [hline c hc], List.append_right_eq_self]
  cases rest with
  | nil => simp
  | cons c rest => simp [List.takeWhile_cons]

/-- A line with a newline sequence is a line of the whole. -/
theorem lines_append_newline (hline : Unbroken line) (hrest : rest.head? ≠ some '\n') :
    Text.lines (line ++ p.newline ++ rest) = (line ++ p.newline) :: Text.lines rest := by
  induction line with
  | nil =>
    rcases p.newline_cases with h | h | h
    · rw [h]; rfl
    · rw [h, List.nil_append, List.singleton_append, Text.lines, if_pos (by decide)]
      intro u _ heq
      exact hrest (congrArg List.head? heq)
    · rw [h]; rfl
  | cons c line ih =>
    exact lines_cons_of_not_break (hline c (by simp)) (ih fun d hd => hline d (by simp [hd]))

/-- New lines begin with the first of them. -/
theorem exists_newLines_cons (p : ExtensionPoint) (isLast : Bool) (line : Text)
    (snippet : List Text) :
    ∃ more, (p.newLines isLast (line :: snippet)).flatten = p.indented line ++ more := by
  cases snippet with
  | nil => exact ⟨if isLast then [] else p.newline, by simp [newLines]⟩
  | cons next snippet => exact ⟨p.newline ++ (p.newLines isLast (next :: snippet)).flatten, by
      simp [newLines]⟩

theorem head?_newLines_append {isLast : Bool} {next : Text}
    (hs : ∀ line ∈ next :: snippet, line ≠ [] ∧ Unbroken line) :
    ((p.newLines isLast (next :: snippet)).flatten ++ tail).head? ≠ some '\n' := by
  obtain ⟨hnext, hun⟩ := hs next List.mem_cons_self
  obtain ⟨c, hc, hbreak⟩ := head?_indented (p := p) hnext hun
  obtain ⟨more, hmore⟩ := exists_newLines_cons p isLast next snippet
  rw [hmore, List.append_assoc, List.head?_append, Option.mem_def.1 hc]
  intro heq
  cases heq
  cases hbreak

theorem exists_own_cons_iff {first : Text} {below snippet : List Text} :
    (∃ own rest, first :: below = own ++ rest ∧ own.map content = line :: snippet) ↔
      content first = line ∧ ∃ own rest, below = own ++ rest ∧ own.map content = snippet := by
  constructor
  · rintro ⟨_ | ⟨o, own⟩, rest, heq, hown⟩
    · cases hown
    · obtain ⟨rfl, rfl⟩ := List.cons.inj heq
      obtain ⟨ho, hown⟩ := List.cons.inj hown
      exact ⟨ho, own, rest, rfl, hown⟩
  · rintro ⟨rfl, own, rest, rfl, rfl⟩
    exact ⟨first :: own, rest, rfl, rfl⟩

/-- New lines are the first lines of what they begin, unless the last one is left without an end
and the text behind it does not start with a break. -/
theorem own_lines_iff (hne : snippet ≠ []) (hs : ∀ line ∈ snippet, line ≠ [] ∧ Unbroken line)
    (isLast : Bool) (tail : Text) :
    (∃ own below, Text.lines ((p.newLines isLast snippet).flatten ++ tail) = own ++ below ∧
        own.map content = snippet.map p.indented) ↔
      (isLast = true → tail = [] ∨ ∃ c ∈ tail.head?, isLineBreak c = true) := by
  induction snippet with
  | nil => exact absurd rfl hne
  | cons line snippet ih =>
    obtain ⟨⟨hline, hun⟩, hs⟩ := List.forall_mem_cons.1 hs
    have hind : Unbroken (p.indented line) := unbroken_indented hun
    rw [List.map_cons]
    cases snippet with
    | nil =>
      -- what stands behind the last new line decides
      have htext : (p.newLines isLast [line]).flatten ++ tail =
          p.indented line ++ ((if isLast then [] else p.newline) ++ tail) := by simp [newLines]
      obtain ⟨c, hc, -⟩ := head?_indented (p := p) hline hun
      have hnonempty : p.indented line ++ ((if isLast then [] else p.newline) ++ tail) ≠ [] := by
        intro hnil
        rw [(List.append_eq_nil_iff.1 hnil).1] at hc
        cases hc
      obtain ⟨first, below, hlines⟩ := exists_lines_cons hnonempty
      rw [htext, hlines, exists_own_cons_iff, content_of_lines hlines, takeWhile_append_eq_iff hind]
      cases isLast with
      | true => simp
      | false =>
        obtain ⟨d, hd, hbreak⟩ := p.head?_newline
        have hhead : d ∈ (p.newline ++ tail).head? := by
          rw [List.head?_append, Option.mem_def.1 hd]
          rfl
        exact iff_of_true ⟨.inr ⟨d, hhead, hbreak⟩, [], below, rfl, rfl⟩ (by simp)
    | cons next snippet =>
      have htext : (p.newLines isLast (line :: next :: snippet)).flatten ++ tail =
          p.indented line ++ p.newline ++ ((p.newLines isLast (next :: snippet)).flatten ++ tail) := by
        simp [newLines]
      have hhead : ((p.newLines isLast (next :: snippet)).flatten ++ tail).head? ≠ some '\n' :=
        head?_newLines_append hs
      have hcontent : content (p.indented line ++ p.newline) = p.indented line :=
        (takeWhile_append_eq_iff hind).2 (.inr p.head?_newline)
      rw [htext, lines_append_newline hind hhead, exists_own_cons_iff, hcontent, and_iff_right rfl,
        ih (by simp) hs]

end ExtensionPoint

namespace HostFile

variable {path text : Text} {entries : List Entry} {host : HostFile} {parts pre post : List Part}
  {p : ExtensionPoint} {snippet : List Text}

/-! ## Appending at a point of a file -/

/-- A point among parts has the number of points before it. -/
theorem getElem?_points (path : Text) (pre post : List Part) (p : ExtensionPoint) :
    (points ⟨path, pre ++ .point p :: post⟩)[(points ⟨path, pre⟩).length]? = some p := by
  induction pre with
  | nil => rfl
  | cons part pre ih =>
    cases part with
    | line l => exact ih
    | point q => exact ih

theorem modifyPoint_append (path : Text) (pre post : List Part) (p : ExtensionPoint)
    (f : ExtensionPoint → ExtensionPoint) :
    modifyPoint f (points ⟨path, pre⟩).length (pre ++ .point p :: post) =
      pre ++ .point (f p) :: post := by
  induction pre with
  | nil => rfl
  | cons part pre ih =>
    cases part with
    | line l => exact congrArg (Part.line l :: ·) ih
    | point q => exact congrArg (Part.point q :: ·) ih

/-- What appending at a point makes of the text. -/
theorem append_eq (hparts : host.parts = pre ++ .point p :: post) (hpath : host.path = path)
    (hne : snippet ≠ []) :
    (host.append (points ⟨path, pre⟩).length snippet).1 = .ok () ∧
      (host.append (points ⟨path, pre⟩).length snippet).2.render =
        (pre.flatMap Part.text ++ p.lines.flatten ++ if p.isOpen then p.newline else []) ++
          ((p.newLines p.isOpen snippet).flatten ++ post.flatMap Part.text) := by
  obtain ⟨hostPath, hostParts⟩ := host
  obtain rfl : hostParts = pre ++ .point p :: post := hparts
  obtain rfl : hostPath = path := hpath
  unfold append
  rw [getElem?_points]
  dsimp only
  rw [p.rejects_eq_false hne, modifyPoint_append]
  refine ⟨rfl, ?_⟩
  simp [render, Part.text, ExtensionPoint.flatten_lines_append]

/-- Behind a point that is closed a line begins. -/
theorem getLast?_closed (front : Text) (p : ExtensionPoint) :
    ∀ c ∈ (front ++ p.lines.flatten ++ if p.isOpen then p.newline else []).getLast?,
      isLineBreak c = true := by
  obtain ⟨last, d, hlast, hd, hbreak⟩ : ∃ last : Text, ∃ d,
      (∃ more, front ++ p.lines.flatten ++ (if p.isOpen then p.newline else []) = more ++ last) ∧
        d ∈ last.getLast? ∧ isLineBreak d = true := by
    cases hopen : p.isOpen with
    | true =>
      obtain ⟨d, hd, hbreak⟩ := p.getLast?_newline
      exact ⟨p.newline, d, ⟨_, rfl⟩, hd, hbreak⟩
    | false =>
      have hterm : isTerminated p.lastLine = true := by simpa [ExtensionPoint.isOpen] using hopen
      obtain ⟨d, hd, hor⟩ := isTerminated_iff.1 hterm
      refine ⟨p.lastLine, d, ⟨front ++ p.lines.dropLast.flatten, ?_⟩, hd, ?_⟩
      · rw [ExtensionPoint.lines_eq_dropLast p, List.dropLast_concat]
        simp
      · rcases hor with rfl | rfl <;> decide
  obtain ⟨more, hmore⟩ := hlast
  intro c hc
  rw [hmore, List.getLast?_append, Option.mem_def.1 hd] at hc
  cases hc
  exact hbreak

/-- In a text that breaks by LF, CR and CR LF alone, an open end is the end of the text. -/
theorem tail_eq_nil_of_isOpen (hparse : parse path text entries = .ok host)
    (hparts : host.parts = pre ++ .point p :: post)
    (hbreaks : ∀ c ∈ text, isLineBreak c = true → c = '\n' ∨ c = '\r')
    (hopen : p.isOpen = true) : post.flatMap Part.text = [] := by
  have hlines : text.lines = (pre.flatMap partLines ++ p.lines.dropLast) ++
      p.lastLine :: post.flatMap partLines := by
    rw [(parse_eq_ok_iff.1 hparse).2.2.lines_eq, hparts, List.append_assoc,
      List.append_cons p.lines.dropLast, ← ExtensionPoint.lines_eq_dropLast, List.flatMap_append,
      List.flatMap_cons]
    rfl
  have htail : post.flatMap Part.text = (post.flatMap partLines).flatten :=
    render_eq_flatten ⟨path, post⟩
  rw [htail]
  by_contra hne
  have hafter : post.flatMap partLines ≠ [] := by
    intro hnil
    rw [hnil] at hne
    exact hne rfl
  obtain ⟨c, hc, hbreak⟩ := getLast?_of_lines hlines hafter
  have hmem : c ∈ text := by
    rw [← flatten_lines text, hlines]
    simp [List.mem_of_getLast? hc]
  have hterm := isTerminated_iff.2 ⟨c, hc, hbreaks c hmem hbreak⟩
  rw [ExtensionPoint.isOpen, hterm] at hopen
  cases hopen

/-- **Lines of their own.** Lines that are appended at a point of a host file stand alone behind its
text up to there, closed by a newline sequence if the last line is open. The only exception is a
point whose last line is open though more text follows, and that text does not start with a break:
then the last new line runs into it. In a text that breaks by LF, CR and CR LF alone there is no
such point. -/
theorem standAlone_append_iff (hparse : parse path text entries = .ok host)
    (hparts : host.parts = pre ++ .point p :: post) (hne : snippet ≠ [])
    (hs : ∀ line ∈ snippet, line ≠ [] ∧ Unbroken line) :
    let n := (points ⟨path, pre⟩).length
    let front := pre.flatMap Part.text ++ p.lines.flatten
    let tail := post.flatMap Part.text
    let closing := if p.isOpen then p.newline else []
    let alone := StandAlone (front ++ closing) (snippet.map p.indented)
      (host.append n snippet).2.render
    host.points[n]? = some p ∧ text = front ++ tail ∧ (host.append n snippet).1 = .ok () ∧
      (alone ↔ (p.isOpen = true → tail = [] ∨ ∃ c ∈ tail.head?, isLineBreak c = true)) ∧
      ((∀ c ∈ text, isLineBreak c = true → c = '\n' ∨ c = '\r') → alone) := by
  intro n front tail closing alone
  have hpath : host.path = path := (parse_eq_ok_iff.1 hparse).2.1
  have hpoint : host.points[n]? = some p := by
    rw [points, hparts]
    exact getElem?_points path pre post p
  have htext : text = front ++ tail := by
    rw [← render_parse hparse, render, hparts]
    simp [front, tail, Part.text]
  obtain ⟨hok, hrender⟩ := append_eq hparts hpath hne
  have halone : alone ↔
      (p.isOpen = true → tail = [] ∨ ∃ c ∈ tail.head?, isLineBreak c = true) := by
    obtain ⟨next, snippet, rfl⟩ := List.exists_cons_of_ne_nil hne
    have hhead : ((p.newLines p.isOpen (next :: snippet)).flatten ++ tail).head? ≠ some '\n' :=
      ExtensionPoint.head?_newLines_append hs
    rw [← ExtensionPoint.own_lines_iff hne hs p.isOpen tail,
      ← standAlone_append (getLast?_closed (pre.flatMap Part.text) p) hhead]
    exact iff_of_eq (congrArg (StandAlone (front ++ closing) ((next :: snippet).map p.indented)) hrender)
  exact ⟨hpoint, htext, hok, halone, fun hbreaks =>
    halone.2 fun hopen => .inl (tail_eq_nil_of_isOpen hparse hparts hbreaks hopen)⟩

/-- A list at the end of a file that has no break there and uses CR before: its last line is closed,
and the new lines stand alone behind it. -/
theorem standAlone_append_iff_end_of_file :
    let path := "a.rs".toList
    let entry : Entry :=
      { path, anchor := "// list".toList, template := "\x7bname\x7d;".toList }
    let text := "mod ops;\u000b\t// list\r\tsin;".toList
    let p : ExtensionPoint := ⟨entry, "\t// list\r".toList, ["\tsin;".toList]⟩
    let pre := [Part.line "mod ops;\u000b".toList]
    let host : HostFile := ⟨path, pre ++ [.point p]⟩
    let snippet := ["// new".toList, "cos;".toList]
    parse path text [entry] = .ok host ∧ (∀ line ∈ snippet, line ≠ [] ∧ Unbroken line) ∧
      p.isOpen = true ∧
      StandAlone "mod ops;\u000b\t// list\r\tsin;\r".toList ["\t// new".toList, "\tcos;".toList]
        (host.append 0 snippet).2.render := by
  intro path entry text p pre host snippet
  have hparse : parse path text [entry] = .ok host := by decide +kernel
  have hparts : host.parts = pre ++ .point p :: [] := rfl
  have hs : ∀ line ∈ snippet, line ≠ [] ∧ Unbroken line := by decide
  have hopen : p.isOpen = true := by decide
  obtain ⟨-, -, -, halone, -⟩ := standAlone_append_iff hparse hparts (by simp [snippet]) hs
  have halone := halone.2 fun _ => .inl rfl
  exact ⟨hparse, hs, hopen, halone⟩

/-- A list whose last line ends in a line tabulation, with text behind it: the new line runs into
that text. -/
theorem append_runs_into_tail :
    let path := "a.rs".toList
    let entry : Entry :=
      { path, anchor := "// list".toList, template := "\x7bname\x7d;".toList }
    let text := "  // list\n  sin;\u000bend\n".toList
    let p : ExtensionPoint := ⟨entry, "  // list\n".toList, ["  sin;\u000b".toList]⟩
    let host : HostFile := ⟨path, [.point p, .line "end\n".toList]⟩
    parse path text [entry] = .ok host ∧ p.indented "cos;".toList = "  cos;".toList ∧
      (host.append 0 ["cos;".toList]).1 = .ok () ∧
      "  cos;".toList ∉ (host.append 0 ["cos;".toList]).2.render.lines.map Text.content ∧
      "  cos;end\n".toList ∈ (host.append 0 ["cos;".toList]).2.render.lines := by
  decide +kernel

end HostFile

end OpScaffold
