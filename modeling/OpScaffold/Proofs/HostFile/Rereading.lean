import OpScaffold.Proofs.HostFile.Extension

/-!
# OpScaffold.Proofs.HostFile.Rereading

Appending to the points of a host file one after another, each by its number. This extends the file
as a whole (`appendAll_eq_ok`), so what is in memory behind it is what a reader finds in the text
that it makes (`parse_appendAll`).
-/

namespace OpScaffold

open Text

namespace HostFile

variable {path text : Text} {entries : List Entry} {v : Variant} {host : HostFile}
  {parts : List Part} {p : ExtensionPoint} {f : Entry → List Text} {n : Nat}

/-! ## Appending one after another -/

/-- A host file with lines appended at extension point number `n`, those that `f` has for its
entry. -/
def appendAt (f : Entry → List Text) (h : HostFile) (n : Nat) : Except Failure HostFile :=
  match h.points[n]? with
  | none => .error .noSuchItem
  | some p =>
    match h.append n (f p.entry) with
    | (.ok (), h') => .ok h'
    | (.error e, _) => .error e

/-- A host file with lines appended at all extension points, one after another. -/
def appendAll (f : Entry → List Text) (h : HostFile) : Except Failure HostFile :=
  (List.range h.points.length).foldlM (appendAt f) h

/-- Parts with lines appended at the first `n` points. -/
def extendFirst (f : Entry → List Text) : (n : Nat) → List Part → List Part
  | _, [] => []
  | n, .line t :: rest => .line t :: extendFirst f n rest
  | 0, .point p :: rest => .point p :: rest
  | n + 1, .point p :: rest => .point (p.append (f p.entry)) :: extendFirst f n rest

theorem points_line (t : Text) (rest : List Part) :
    points ⟨path, .line t :: rest⟩ = points ⟨path, rest⟩ := rfl

theorem points_point (p : ExtensionPoint) (rest : List Part) :
    points ⟨path, .point p :: rest⟩ = p :: points ⟨path, rest⟩ := rfl

theorem mem_points : p ∈ host.points ↔ .point p ∈ host.parts := by
  rw [points, List.mem_filterMap]
  constructor
  · rintro ⟨_ | q, hpart, heq⟩ <;> cases heq
    exact hpart
  · exact fun h => ⟨_, h, rfl⟩

theorem extendFirst_zero (f : Entry → List Text) (parts : List Part) :
    extendFirst f 0 parts = parts := by
  induction parts with
  | nil => rfl
  | cons part rest ih =>
    cases part with
    | line t => rw [extendFirst, ih]
    | point p => rfl

/-- At all points: this extends the host file. -/
theorem extendFirst_length (path : Text) (f : Entry → List Text) (parts : List Part) :
    extendFirst f (points ⟨path, parts⟩).length parts = parts.map (extendPart f) := by
  induction parts with
  | nil => rfl
  | cons part rest ih =>
    cases part with
    | line t => rw [points_line, extendFirst, ih]; rfl
    | point p => rw [points_point, List.length_cons, extendFirst, ih]; rfl

/-- The points to come are as before. -/
theorem getElem?_points_extendFirst (path : Text) (f : Entry → List Text) (n : Nat)
    (parts : List Part) :
    (points ⟨path, extendFirst f n parts⟩)[n]? = (points ⟨path, parts⟩)[n]? := by
  induction parts generalizing n with
  | nil => rfl
  | cons part rest ih =>
    cases part with
    | line t => rw [extendFirst, points_line, points_line, ih]
    | point p =>
      cases n with
      | zero => rfl
      | succ n =>
        rw [extendFirst, points_point, points_point, List.getElem?_cons_succ,
          List.getElem?_cons_succ, ih]

theorem modifyPoint_extendFirst (hp : (points ⟨path, parts⟩)[n]? = some p) :
    modifyPoint (·.append (f p.entry)) n (extendFirst f n parts) = extendFirst f (n + 1) parts := by
  induction parts generalizing n with
  | nil => rfl
  | cons part rest ih =>
    cases part with
    | line t =>
      rw [points_line] at hp
      rw [extendFirst, modifyPoint, ih hp, extendFirst]
    | point q =>
      rw [points_point] at hp
      cases n with
      | zero =>
        obtain rfl : q = p := by simpa using hp
        rw [extendFirst, modifyPoint, extendFirst, extendFirst_zero]
      | succ n =>
        rw [List.getElem?_cons_succ] at hp
        rw [extendFirst, modifyPoint, ih hp, extendFirst]

/-- Where the points before number `n` are extended, that one can be extended too. -/
theorem appendAt_extendFirst (hp : (points ⟨path, parts⟩)[n]? = some p) (hf : f p.entry ≠ []) :
    appendAt f ⟨path, extendFirst f n parts⟩ n = .ok ⟨path, extendFirst f (n + 1) parts⟩ := by
  have hat := (getElem?_points_extendFirst path f n parts).trans hp
  unfold appendAt append
  rw [hat]
  dsimp only
  rw [p.rejects_eq_false hf, if_neg Bool.false_ne_true, modifyPoint_extendFirst hp]

/-- Appending to the first points, one after another, extends them. -/
theorem foldlM_appendAt (hf : ∀ p ∈ points ⟨path, parts⟩, f p.entry ≠ [])
    (hn : n ≤ (points ⟨path, parts⟩).length) :
    (List.range n).foldlM (appendAt f) ⟨path, parts⟩ = .ok ⟨path, extendFirst f n parts⟩ := by
  induction n with
  | zero => rw [extendFirst_zero]; rfl
  | succ n ih =>
    have hp := List.getElem?_eq_getElem (Nat.lt_of_succ_le hn)
    rw [List.range_succ, List.foldlM_append, ih (by omega)]
    change (List.foldlM (appendAt f) ⟨path, extendFirst f n parts⟩ [n] : Except _ _) = _
    rw [List.foldlM_cons, appendAt_extendFirst hp (hf _ (List.getElem_mem _))]
    rfl

/-- Appending to all points, one after another, extends the host file. -/
theorem appendAll_eq_ok (hf : ∀ p, .point p ∈ host.parts → f p.entry ≠ []) :
    host.appendAll f = .ok (host.extend f) := by
  obtain ⟨path, parts⟩ := host
  have hne : ∀ p ∈ points ⟨path, parts⟩, f p.entry ≠ [] := fun p hp => hf p (mem_points.1 hp)
  have hall := foldlM_appendAt hne (Nat.le_refl _)
  rwa [extendFirst_length] at hall

/-! ## Reading it again -/

/-- What a point keeps when lines are appended to it. -/
theorem map_points_extend (f : Entry → List Text) (host : HostFile) :
    (host.extend f).points.map (fun p => (p.entry, p.indent, p.newline)) =
      host.points.map fun p => (p.entry, p.indent, p.newline) := by
  obtain ⟨path, parts⟩ := host
  induction parts with
  | nil => rfl
  | cons part rest ih =>
    cases part with
    | line t => exact ih
    | point p =>
      obtain ⟨hindent, hnewline⟩ := p.layout_append (f p.entry)
      have hentry := ExtensionPoint.append_entry p (f p.entry)
      rw [points_point, List.map_cons, ← ih, ← hentry, ← hindent, ← hnewline]
      rfl

/-- **Memory and text agree.** Appending to every point what its entry registers for a variant
succeeds, and a reader finds in the text of the result the very parts in memory, with the
indentation and the newline sequence that each point had before. The text must break by LF and CR LF
alone; the new lines must not be blank, break further, end a list or be an anchor. -/
theorem parse_appendAll (h : parse path text entries = .ok host) (hplain : BreaksPlainly text)
    (hrender : ∀ e ∈ entries, e.render v = .ok (f e))
    (hline : ∀ e ∈ entries, ∀ l ∈ f e, l.isBlankText = false ∧ Unbroken l)
    (hstop : ∀ e ∈ entries, ∀ stop, e.stop? = .ok (some stop) →
      ∀ l ∈ f e, stop.matchesAll l.trim = false)
    (hanchor : ∀ e ∈ entries, ∀ l ∈ f e, ∀ e' ∈ entries, l.trim ≠ e'.anchor) :
    ∃ host', host.appendAll f = .ok host' ∧ parse path host'.render entries = .ok host' ∧
      host'.points.map (fun p => (p.entry, p.indent, p.newline)) =
        host.points.map fun p => (p.entry, p.indent, p.newline) := by
  have hne : ∀ e ∈ entries, f e ≠ [] := fun e he => Entry.render_ne_nil (hrender e he)
  have hclean : ∀ e ∈ entries, Clean entries e (f e) := fun e he =>
    { ne_nil := hne e he
      line := hline e he
      stop := fun stop hs l hl => by
        cases stop with
        | none => rfl
        | some stop => exact hstop e he stop hs l hl
      anchor := hanchor e he }
  obtain ⟨-, -, hlayout⟩ := parse_eq_ok_iff.1 h
  exact ⟨host.extend f, appendAll_eq_ok fun p hp => hne _ (hlayout.entry_mem hp),
    (parse_extend h hplain hclean).2, map_points_extend f host⟩

/-- Two lists in a file with mixed newline sequences: one stands there twice and has a pattern at
its end, the other stands at the open end of the file. -/
theorem parse_appendAll_mixed :
    let list : Entry :=
      ⟨[], "// list".toList, "\x7bname\x7d;".toList, some "// end".toList, 2⟩
    let last : Entry := ⟨[], "last".toList, "\x7bname\x7d\n\x7bNAME\x7d".toList, none, 1⟩
    let f (e : Entry) : List Text := ((e.render ⟨"cos".toList, "COS".toList⟩).toOption).getD []
    let host : HostFile := ⟨[], [
      .point ⟨list, "\t// list\r\n".toList, ["\tsin;\r\n".toList]⟩,
      .point ⟨list, "// list\n".toList, []⟩, .line "// end\n".toList,
      .point ⟨last, "last".toList, []⟩]⟩
    let host' : HostFile := ⟨[], [
      .point ⟨list, "\t// list\r\n".toList, ["\tsin;\r\n".toList, "\tcos;\r\n".toList]⟩,
      .point ⟨list, "// list\n".toList, ["cos;\n".toList]⟩, .line "// end\n".toList,
      .point ⟨last, "last\n".toList, ["cos\n".toList, "COS".toList]⟩]⟩
    parse [] "\t// list\r\n\tsin;\r\n// list\n// end\nlast".toList [list, last] = .ok host ∧
      host.appendAll f = .ok host' ∧ parse [] host'.render [list, last] = .ok host' := by
  intro list last f host host'
  have hparse : parse [] "\t// list\r\n\tsin;\r\n// list\n// end\nlast".toList [list, last] =
      .ok host := by
    decide +kernel
  have happend : host.appendAll f = .ok host' := by decide +kernel
  have hlined : WellLined ["\t// list\r\n".toList, "\tsin;\r\n".toList, "// list\n".toList,
      "// end\n".toList, "last".toList] :=
    .cons ⟨"\t// list".toList, _, by decide, .inr rfl, rfl⟩
      (.cons ⟨"\tsin;".toList, _, by decide, .inr rfl, rfl⟩
        (.cons ⟨"// list".toList, _, by decide, .inl rfl, rfl⟩
          (.cons ⟨"// end".toList, _, by decide, .inl rfl, rfl⟩ (.last ⟨by decide, by decide⟩))))
  have hstop : ∀ e ∈ [list, last], (match e.stop? with
      | .ok stop => stop.all fun stop => (f e).all fun l => !stop.matchesAll l.trim
      | .error _ => true) = true := by
    decide +kernel
  obtain ⟨_, heq, hreread, -⟩ := parse_appendAll (v := ⟨"cos".toList, "COS".toList⟩) (f := f) hparse
    hlined.breaksPlainly (by decide +kernel) (by decide +kernel)
    (fun e he stop hs l hl => by
      have hall := hstop e he
      rw [hs] at hall
      simpa using List.all_eq_true.1 hall l hl)
    (by decide +kernel)
  cases happend.symm.trans heq
  exact ⟨hparse, happend, hreread⟩

end HostFile

end OpScaffold
