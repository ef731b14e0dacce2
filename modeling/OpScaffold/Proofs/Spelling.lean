import OpScaffold.Proofs.Insertion
import OpScaffold.Registry.Validation

/-!
# OpScaffold.Proofs.Spelling

Entries are grouped by the text of their paths, and the new texts are noted by the paths that these
texts spell. So if a registry spells one path in two ways the texts of both groups are made from the
file as it is, and the later one replaces the earlier one (`lookup_of_insertGroups`). Of each file
the spelling counts that appears last (`lastSpelling?`): all its entries are registered
(`insert_registers_last_spelling`), and those of other spellings are lost.
-/

namespace OpScaffold

namespace Insertion

variable {t : FileTree} {root : Path} {v : Variant} {entries : List Entry} {c c' : Changes}

/-- Of all spellings under which a registry lists a path, the one that appears last. -/
def lastSpelling? (root : Path) (entries : List Entry) (p : Path) : Option Text :=
  ((entries.map (·.path)).eraseDups.filter fun rel => root.child rel = p).getLast?

/-! ## The change of a path -/

theorem lookup_put (p q : Path) (text : Text) (c : Changes) :
    List.lookup q (c.put p text) = if p = q then some text else List.lookup q c := by
  split
  · next h => rw [h, Changes.lookup_put_self]
  · next h => exact Changes.lookup_put_of_ne (Ne.symm h) text c

/-- Of several groups with one path the last one makes its change; without a group there is none. -/
theorem lookup_of_insertGroups {gs : List Group} {p : Path}
    (h : insertGroups t root v c gs = .ok c') :
    match (gs.filter fun g => root.child g.1 = p).getLast? with
    | none => List.lookup p c' = List.lookup p c
    | some g => ∃ new, newText t root v g = .ok new ∧ List.lookup p c' = some new := by
  induction gs generalizing c with
  | nil => cases h; rfl
  | cons g rest ih =>
    rw [insertGroups] at h
    cases hg : newText t root v g with
    | error e => rw [hg] at h; cases h
    | ok text =>
      rw [hg] at h
      have hrest := ih h
      rw [List.filter_cons]
      by_cases hp : root.child g.1 = p
      · rw [if_pos (by simpa using hp), List.getLast?_cons]
        cases hlast : (rest.filter fun g => root.child g.1 = p).getLast? with
        | some g' =>
          rw [hlast] at hrest
          exact hrest
        | none =>
          rw [hlast, lookup_put, if_pos hp] at hrest
          exact ⟨text, hg, hrest⟩
      · rw [if_neg (by simpa using hp)]
        cases hlast : (rest.filter fun g => root.child g.1 = p).getLast? with
        | some g' =>
          rw [hlast] at hrest
          exact hrest
        | none =>
          rw [hlast, lookup_put, if_neg hp] at hrest
          exact hrest

/-! ## What is registered -/

/-- Whether an entry is registered in lines by adding `added` behind them: its anchor is found as
often as it expects, and behind the last line of the block of each anchor line its lines are
added. -/
def Registered (e : Entry) (v : Variant) (lines : List Text) (added : Nat → Text) : Prop :=
  (0 < HostFile.anchorCount lines e ∧ (HostFile.anchorCount lines e : Int) = e.expected) ∧
  ∃ snippet, e.render v = .ok snippet ∧ ∀ i, HostFile.IsAnchor lines e i →
    ∃ last, HostFile.EndsAt lines e i last ∧
      added last = HostFile.addition (lines.getD i []) (lines.getD last []) snippet

theorem registered_of_splice {group : List Entry} {lines : List Text} {added : Nat → Text}
    (h : HostFile.Splice group v lines added) {e : Entry} (he : e ∈ group) :
    Registered e v lines added := by
  refine ⟨h.expected e he, ?_⟩
  obtain ⟨line, hline, htrim⟩ := List.countP_pos_iff.1 (h.expected e he).1
  obtain ⟨i, hi, hget⟩ := List.getElem_of_mem hline
  obtain ⟨last, hpt⟩ := h.point e he i (by
    rw [HostFile.IsAnchor, List.getElem?_eq_getElem hi, hget]
    simpa using htrim)
  obtain ⟨snippet, hs, -⟩ := h.text hpt
  refine ⟨snippet, hs, fun j hj => ?_⟩
  obtain ⟨last', hpt'⟩ := h.point e he j hj
  obtain ⟨snippet', hs', ht⟩ := h.text hpt'
  rw [hs] at hs'
  cases hs'
  exact ⟨last', hpt'.ends, ht⟩

/-- **No registration is lost under the last spelling.** In an insertion that succeeds, let `rel` be
the spelling of a path that appears last in the registry. Then the new text of the path is the old
one with additions behind its lines. All entries of that spelling are registered in it, each at all
its anchors, as many as it expects, and it has no additions but theirs: entries of other spellings
are lost. -/
theorem insert_registers_last_spelling {p : Path} {rel : Text}
    (h : insert t root entries v = .ok c)
    (hlast : lastSpelling? root entries p = some rel) :
    ∃ text added, t.readText p = .ok text ∧
      List.lookup p c = some (HostFile.weave added 0 text.lines) ∧
      (∀ e ∈ entries, e.path = rel → Registered e v text.lines added) ∧
      ∀ k, added k ≠ [] → ∃ e ∈ entries, e.path = rel ∧
        ∃ i, HostFile.IsAnchor text.lines e i ∧ HostFile.EndsAt text.lines e i k := by
  unfold insert at h
  rw [groups_eq] at h
  have hgroup : (((entries.map (·.path)).eraseDups.map fun rel =>
      (rel, entries.filter (·.path = rel))).filter fun g : Group =>
        root.child g.1 = p).getLast? = some (rel, entries.filter (·.path = rel)) := by
    unfold lastSpelling? at hlast
    rw [List.filter_map, List.getLast?_map, Function.comp_def, hlast]
    rfl
  have hlookup := lookup_of_insertGroups (p := p) h
  rw [hgroup] at hlookup
  obtain ⟨new, ht, hnew⟩ := hlookup
  have hp : root.child rel = p := by
    have hmem := List.mem_of_getLast? hlast
    simpa using (List.mem_filter.1 hmem).2
  rw [← hp] at hnew ⊢
  obtain ⟨-, text, added, hread, hs, rfl⟩ := newText_eq_ok ht
  refine ⟨text, added, hread, hnew, fun e he hpath => registered_of_splice hs ?_, fun k hk => ?_⟩
  · exact List.mem_filter.2 ⟨he, by simpa using hpath⟩
  · obtain ⟨e, i, hpt⟩ := hs.nothing k hk
    obtain ⟨he, hpath⟩ := List.mem_filter.1 hpt.mem
    exact ⟨e, he, by simpa using hpath, i, hpt.anchor, hpt.ends⟩

/-- A file under two spellings, the first of which lists two anchors and comes first again. -/
theorem insert_registers_last_spelling_of_two :
    let t : FileTree := ⟨["w".toList], [(["w".toList], .directory),
      (["w".toList, "a.rs".toList],
        .file (Utf8.encode "// one\nx;\n\n// two\ny;\n// end\n".toList))]⟩
    let first : Entry :=
      { path := "./a.rs".toList, anchor := "// one".toList, template := "\x7bname\x7d;".toList }
    let second : Entry := { path := "a.rs".toList, anchor := "// two".toList,
                            template := "// new\n\x7bNAME\x7d;".toList, blockEnd := "// end".toList }
    let third : Entry := { second with anchor := "// one".toList }
    let changes : Changes := [(Path.ofText "a.rs".toList,
      "// one\nx;\n// new\nCOS;\n\n// two\ny;\n// new\nCOS;\n// end\n".toList)]
    let v : Variant := ⟨"cos".toList, "COS".toList⟩
    let p := Path.ofText "a.rs".toList
    insert t (Path.ofText []) [first, second, third] v = .ok changes ∧
      lastSpelling? (Path.ofText []) [first, second, third] p = some "a.rs".toList ∧
      ∃ text added, t.readText p = .ok text ∧
        List.lookup p changes = some (HostFile.weave added 0 text.lines) ∧
        Registered second v text.lines added ∧ Registered third v text.lines added := by
  intro t first second third changes v p
  have hrun : insert t (Path.ofText []) [first, second, third] v = .ok changes := by
    decide +kernel
  have hlast : lastSpelling? (Path.ofText []) [first, second, third] p = some "a.rs".toList := by
    decide +kernel
  obtain ⟨text, added, hread, hnew, hreg, -⟩ := insert_registers_last_spelling hrun hlast
  exact ⟨hrun, hlast, text, added, hread, hnew, hreg second (by simp) rfl,
    hreg third (by simp) rfl⟩

/-- An entry that is lost: its file comes again in another spelling. -/
theorem insert_loses_other_spelling :
    let t : FileTree := ⟨["w".toList], [(["w".toList], .directory),
      (["w".toList, "a.rs".toList], .file (Utf8.encode "// one\nx;\n\n// two\ny;\n".toList))]⟩
    let first : Entry :=
      { path := "./a.rs".toList, anchor := "// one".toList, template := "\x7bname\x7d;".toList }
    let second : Entry :=
      { path := "a.rs".toList, anchor := "// two".toList, template := "\x7bNAME\x7d;".toList }
    let new := "// one\nx;\n\n// two\ny;\nCOS;\n".toList
    let v : Variant := ⟨"cos".toList, "COS".toList⟩
    let root := Path.ofText []
    Registry.validate [first, second] = .ok () ∧ Variant.derive "cos".toList = .ok v ∧
      insert t root [first, second] v = .ok [(Path.ofText "a.rs".toList, new)] ∧
      root.child first.path = Path.ofText "a.rs".toList ∧
      first.render v = .ok ["cos;".toList] ∧ ¬ "cos;".toList <:+: new := by
  decide +kernel

end Insertion

end OpScaffold
