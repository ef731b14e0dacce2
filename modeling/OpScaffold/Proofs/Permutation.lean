import OpScaffold.Proofs.HostFile.Layout
import OpScaffold.Proofs.Insertion

/-!
# OpScaffold.Proofs.Permutation

The order of the entries in a registry does not count. Reading a host file finds the anchors of its
entries one entry after another, but what it makes of the lines does not show in which order
(`parse_perm`). So a permutation of a registry has the same new texts, and they are noted in another
order at most (`insert_perm`).
-/

namespace OpScaffold

variable {entries entries' : List Entry}

namespace HostFile

variable {path text : Text} {lines : List Text} {parts : List Part} {host : HostFile}

theorem Located.perm (hperm : entries.Perm entries') (h : Located lines entries) :
    Located lines entries' :=
  ⟨fun e he => h.expected e (hperm.mem_iff.2 he), (hperm.map _).nodup_iff.1 h.distinct⟩

theorem Layout.perm (hperm : entries.Perm entries') (h : Layout entries lines parts) :
    Layout entries' lines parts := by
  have hplain {line : Text} (hline : ∀ e ∈ entries, line.trim ≠ e.anchor) :
      ∀ e ∈ entries', line.trim ≠ e.anchor := fun e he => hline e (hperm.mem_iff.2 he)
  induction h with
  | nil => exact .nil
  | line hline _ ih => exact .line (hplain hline) ih
  | point he hline hstop hblock hnext hin _ ih =>
    exact .point (hperm.mem_iff.1 he) hline hstop hblock hnext (fun l hl => hplain (hin l hl)) ih

/-- A host file is read in the same way, whatever the order of its entries. -/
theorem parse_perm (hperm : entries.Perm entries') :
    parse path text entries = .ok host ↔ parse path text entries' = .ok host := by
  rw [parse_eq_ok_iff, parse_eq_ok_iff]
  exact and_congr ⟨Located.perm hperm, Located.perm hperm.symm⟩
    (and_congr_right fun _ => ⟨Layout.perm hperm, Layout.perm hperm.symm⟩)

end HostFile

namespace Insertion

variable {t : FileTree} {root : Path} {v : Variant} {c c' : Changes} {rel new : Text}

theorem newText_perm (hperm : entries.Perm entries') :
    newText t root v (rel, entries) = .ok new ↔ newText t root v (rel, entries') = .ok new := by
  simp only [newText_eq_ok_iff, HostFile.parse_perm hperm]

/-- The new text of a host file in a permutation of its registry. -/
theorem newText_filter_perm (hperm : entries.Perm entries') :
    newText t root v (rel, entries.filter (·.path = rel)) = .ok new ↔
      newText t root v (rel, entries'.filter (·.path = rel)) = .ok new :=
  newText_perm (hperm.filter _)

/-- The changes of an insertion are the new texts of the host files. -/
theorem mem_of_insert (hspell : ∀ e ∈ entries, ∀ e' ∈ entries,
      root.child e.path = root.child e'.path → e.path = e'.path)
    (h : insert t root entries v = .ok c) {p : Path} :
    (p, new) ∈ c ↔ ∃ e ∈ entries, p = root.child e.path ∧
      newText t root v (e.path, entries.filter (·.path = e.path)) = .ok new := by
  obtain ⟨hkeys, hnew⟩ := insert_eq_ok hspell h
  have hnodup := nodup_of_insert hspell h
  constructor
  · intro hmem
    have hp := List.mem_map_of_mem (f := (·.1)) hmem
    rw [hkeys] at hp
    obtain ⟨rel, hrel, rfl⟩ := List.mem_map.1 hp
    obtain ⟨e, he, rfl⟩ := List.mem_map.1 (List.mem_eraseDups.1 hrel)
    obtain ⟨new', hmem', ht⟩ := hnew e.path (List.mem_map_of_mem he)
    cases List.inj_on_of_nodup_map hnodup hmem hmem' rfl
    exact ⟨e, he, rfl, ht⟩
  · rintro ⟨e, he, rfl, ht⟩
    obtain ⟨new', hmem', ht'⟩ := hnew e.path (List.mem_map_of_mem he)
    cases ht.symm.trans ht'
    exact hmem'

/-- **Order.** If no path is spelled in two ways, an insertion succeeds for a permutation of a
registry just where it succeeds for the registry. The changes then are the same, save for their
order, and no path has two of them. -/
theorem insert_perm (hperm : entries.Perm entries')
    (hspell : ∀ e ∈ entries, ∀ e' ∈ entries,
      root.child e.path = root.child e'.path → e.path = e'.path) :
    ((∃ c, insert t root entries v = .ok c) ↔ ∃ c, insert t root entries' v = .ok c) ∧
      ∀ c c', insert t root entries v = .ok c → insert t root entries' v = .ok c' →
        c.Perm c' ∧ (c.map (·.1)).Nodup := by
  have hspell' : ∀ e ∈ entries', ∀ e' ∈ entries',
      root.child e.path = root.child e'.path → e.path = e'.path := fun e he e' he' =>
    hspell e (hperm.mem_iff.2 he) e' (hperm.mem_iff.2 he')
  refine ⟨?_, fun c c' h h' => ?_⟩
  · simp only [exists_insert_iff, hperm.mem_iff, newText_filter_perm hperm]
  · have hnodup := nodup_of_insert hspell h
    have hnodup' := nodup_of_insert hspell' h'
    refine ⟨(List.perm_ext_iff_of_nodup hnodup.of_map hnodup'.of_map).2 ?_, hnodup⟩
    rintro ⟨p, new⟩
    simp only [mem_of_insert hspell h, mem_of_insert hspell' h', hperm.mem_iff,
      newText_filter_perm hperm]

/-- Three entries of two files in the opposite order; two of them are in the first file, where the
second one stands behind an open end. -/
theorem insert_perm_reversed :
    let t : FileTree := ⟨["w".toList], [(["w".toList], .directory),
      (["w".toList, "a.rs".toList], .file (Utf8.encode "// one\nx;\n\n// two".toList)),
      (["w".toList, "b.rs".toList], .file (Utf8.encode "\t// one\n\n".toList))]⟩
    let entry := fun path anchor template : String =>
      ({ path := path.toList, anchor := anchor.toList, template := template.toList } : Entry)
    let entries := [entry "a.rs" "// one" "\x7bname\x7d;", entry "b.rs" "// one" "\x7bNAME\x7d",
      entry "a.rs" "// two" "// \x7bname\x7d"]
    let first := (Path.ofText "a.rs".toList, "// one\nx;\ncos;\n\n// two\n// cos".toList)
    let second := (Path.ofText "b.rs".toList, "\t// one\n\tCOS\n\n".toList)
    let v : Variant := ⟨"cos".toList, "COS".toList⟩
    let root := Path.ofText []
    entries.Perm entries.reverse ∧
      (∀ e ∈ entries, ∀ e' ∈ entries, root.child e.path = root.child e'.path → e.path = e'.path) ∧
      insert t root entries v = .ok [first, second] ∧
      ∃ c, insert t root entries.reverse v = .ok c ∧ [first, second].Perm c := by
  intro t entry entries first second v root
  have hperm : entries.Perm entries.reverse := entries.reverse_perm.symm
  have hspell : ∀ e ∈ entries, ∀ e' ∈ entries,
      root.child e.path = root.child e'.path → e.path = e'.path := by decide
  have hrun : insert t root entries v = .ok [first, second] := by decide +kernel
  obtain ⟨hiff, hsame⟩ := insert_perm (t := t) (v := v) hperm hspell
  obtain ⟨c, hc⟩ := hiff.1 ⟨_, hrun⟩
  exact ⟨hperm, hspell, hrun, c, hc, (hsame _ c hrun hc).1⟩

end Insertion

end OpScaffold
