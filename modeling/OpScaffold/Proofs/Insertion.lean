import Mathlib.Data.List.Induction
import Mathlib.Data.List.Nodup
import OpScaffold.Insertion
import OpScaffold.Proofs.HostFile.Splice

/-!
# OpScaffold.Proofs.Insertion

What an insertion that succeeds tells: each host file comes once, in the order of first appearance
(`groups_eq`), and its new text is a splice of its text at the points of its entries
(`insert_splices`).
-/

namespace OpScaffold.Insertion

variable {t : FileTree} {root : Path} {v : Variant} {entries : List Entry}

/-! ## Groups -/

theorem eraseDups_concat (paths : List Text) (p : Text) :
    (paths ++ [p]).eraseDups = paths.eraseDups ++ if p ∈ paths then [] else [p] := by
  rw [List.eraseDups_append]
  by_cases h : p ∈ paths
  · simp [List.removeAll, h]
  · simp [List.removeAll, h, List.eraseDups_cons]

theorem nodup_eraseDups (paths : List Text) : paths.eraseDups.Nodup := by
  induction paths using List.reverseRecOn with
  | nil => simp
  | append_singleton paths p ih =>
    rw [eraseDups_concat]
    split
    · simpa using ih
    · next h =>
      rw [List.nodup_append]
      refine ⟨ih, by simp, fun a ha b hb hab => h ?_⟩
      obtain rfl := List.mem_singleton.1 hb
      exact List.mem_eraseDups.1 (hab ▸ ha)

/-- An entry joins the group of its path, which is opened behind the others if it is new. -/
theorem addToGroups_map {paths : List Text} (hn : paths.Nodup) (e : Entry)
    (f : Text → List Entry) :
    addToGroups e (paths.map fun p => (p, f p)) =
      (paths.map fun p => (p, if p = e.path then f p ++ [e] else f p)) ++
        if e.path ∈ paths then [] else [(e.path, [e])] := by
  induction paths with
  | nil => simp [addToGroups]
  | cons p rest ih =>
    obtain ⟨hp, hn⟩ := List.nodup_cons.1 hn
    rw [List.map_cons, addToGroups]
    by_cases hpe : p = e.path
    · have hrest : (rest.map fun q => (q, if q = e.path then f q ++ [e] else f q)) =
          rest.map fun q => (q, f q) := by
        refine List.map_congr_left fun q hq => ?_
        rw [if_neg fun hqe : q = e.path => hp ((hpe.trans hqe.symm) ▸ hq)]
      simp [hpe, hrest]
    · rw [if_neg hpe, ih hn]
      simp [hpe, Ne.symm hpe]

/-- The groups are the paths in the order of first appearance, each with its entries. -/
theorem groups_eq (entries : List Entry) :
    groups entries = (entries.map (·.path)).eraseDups.map fun p =>
      (p, entries.filter (·.path = p)) := by
  induction entries using List.reverseRecOn with
  | nil => rfl
  | append_singleton entries e ih =>
    have hconcat : groups (entries ++ [e]) = addToGroups e (groups entries) := by
      simp [groups]
    rw [hconcat, ih, addToGroups_map (nodup_eraseDups _), List.map_append, List.map_cons,
      List.map_nil, eraseDups_concat, List.map_append]
    congr 1
    · refine List.map_congr_left fun p _ => ?_
      rw [List.filter_append]
      by_cases hp : p = e.path
      · simp [hp]
      · simp [hp, Ne.symm hp]
    · by_cases hp : e.path ∈ entries.map (·.path)
      · simp [hp]
      · have hnone : entries.filter (·.path = e.path) = [] := by
          rw [List.filter_eq_nil_iff]
          intro e' he' hpath
          exact hp (List.mem_map.2 ⟨e', he', by simpa using hpath⟩)
        simp [hp, hnone]

/-! ## Changes -/

theorem put_of_not_mem {c : Changes} {p : Path} (h : p ∉ c.map (·.1)) (text : Text) :
    c.put p text = c ++ [(p, text)] := by
  induction c with
  | nil => rfl
  | cons w rest ih =>
    rw [List.map_cons, List.mem_cons, not_or] at h
    rw [Changes.put, if_neg (Ne.symm h.1), ih h.2]
    rfl

/-- Host files at different paths each get a change, in their order. -/
theorem insertGroups_eq_ok {c c' : Changes} {gs : List Group}
    (hn : (c.map (·.1) ++ gs.map fun g => root.child g.1).Nodup)
    (h : insertGroups t root v c gs = .ok c') :
    c'.map (·.1) = c.map (·.1) ++ gs.map (fun g => root.child g.1) ∧ (∀ w ∈ c, w ∈ c') ∧
      ∀ g ∈ gs, ∃ new, (root.child g.1, new) ∈ c' ∧ newText t root v g = .ok new := by
  induction gs generalizing c with
  | nil => cases h; exact ⟨by simp, fun _ hw => hw, by simp⟩
  | cons g rest ih =>
    rw [insertGroups] at h
    cases hg : newText t root v g with
    | error e => rw [hg] at h; cases h
    | ok text =>
      rw [hg] at h
      dsimp only at h
      have hnew : root.child g.1 ∉ c.map (·.1) := fun hm =>
        (List.nodup_append.1 hn).2.2 _ hm _ (by simp) rfl
      rw [put_of_not_mem hnew] at h
      have hn' : ((c ++ [(root.child g.1, text)]).map (·.1) ++
          rest.map fun g => root.child g.1).Nodup := by simpa using hn
      obtain ⟨hkeys, hkeep, hrest⟩ := ih hn' h
      refine ⟨by simpa using hkeys, fun w hw => hkeep w (List.mem_append_left _ hw), ?_⟩
      intro g' hg'
      rcases List.mem_cons.1 hg' with rfl | hg'
      · exact ⟨text, hkeep _ (by simp), hg⟩
      · exact hrest g' hg'

/-- Whatever their paths, all host files have new texts, and there are no changes to others. -/
theorem newText_of_insertGroups {c c' : Changes} {gs : List Group}
    (h : insertGroups t root v c gs = .ok c') :
    (∀ g ∈ gs, ∃ new, newText t root v g = .ok new) ∧
      ∀ p ∈ c'.map (·.1), p ∈ c.map (·.1) ∨ ∃ g ∈ gs, p = root.child g.1 := by
  induction gs generalizing c with
  | nil => cases h; exact ⟨by simp, fun p hp => .inl hp⟩
  | cons g rest ih =>
    rw [insertGroups] at h
    cases hg : newText t root v g with
    | error e => rw [hg] at h; cases h
    | ok text =>
      rw [hg] at h
      obtain ⟨hnew, hkeys⟩ := ih h
      refine ⟨List.forall_mem_cons.2 ⟨⟨text, hg⟩, hnew⟩, fun p hp => ?_⟩
      rcases hkeys p hp with hp | ⟨g', hg', rfl⟩
      · rw [Changes.map_fst_put] at hp
        rcases List.mem_append.1 hp with hp | hp
        · exact .inl hp
        · split at hp
          · cases hp
          · exact .inr ⟨g, List.mem_cons_self, List.mem_singleton.1 hp⟩
      · exact .inr ⟨g', List.mem_cons_of_mem _ hg', rfl⟩

/-- Where all host files have new texts, they all are put into the changes. -/
theorem exists_insertGroups {c : Changes} {gs : List Group}
    (h : ∀ g ∈ gs, ∃ new, newText t root v g = .ok new) :
    ∃ c', insertGroups t root v c gs = .ok c' := by
  induction gs generalizing c with
  | nil => exact ⟨c, rfl⟩
  | cons g rest ih =>
    obtain ⟨new, hnew⟩ := h g List.mem_cons_self
    rw [insertGroups, hnew]
    exact ih fun g' hg' => h g' (List.mem_cons_of_mem _ hg')

theorem mem_groups {g : Group} :
    g ∈ groups entries ↔ ∃ e ∈ entries, g = (e.path, entries.filter (·.path = e.path)) := by
  rw [groups_eq]
  simp [eq_comm]

/-- A host file has a new text if it is there, can be read, and the variant can be registered. -/
theorem newText_eq_ok_iff {rel new : Text} {group : List Entry} :
    newText t root v (rel, group) = .ok new ↔ t.isFile? (root.child rel) = .ok true ∧
      ∃ text host host', t.readText (root.child rel) = .ok text ∧
        HostFile.parse rel text group = .ok host ∧ host.register v = .ok host' ∧
        new = host'.render := by
  unfold newText
  dsimp only
  constructor
  · intro h
    split at h
    · cases h
    · cases h
    · next hfile =>
      split at h
      · cases h
      · next text hread =>
        split at h
        · cases h
        · next host hparse =>
          split at h
          · cases h
          · next host' hreg =>
            cases h
            exact ⟨hfile, text, host, host', hread, hparse, hreg, rfl⟩
  · rintro ⟨hfile, text, host, host', hread, hparse, hreg, rfl⟩
    rw [hfile]
    dsimp only
    rw [hread]
    dsimp only
    rw [hparse]
    dsimp only
    rw [hreg]

/-- The new text of a host file is a splice of its text. -/
theorem newText_eq_ok {rel new : Text} {group : List Entry}
    (h : newText t root v (rel, group) = .ok new) :
    t.isFile? (root.child rel) = .ok true ∧ ∃ text added, t.readText (root.child rel) = .ok text ∧
      HostFile.Splice group v text.lines added ∧ new = HostFile.weave added 0 text.lines := by
  obtain ⟨hfile, text, host, host', hread, hparse, hreg, rfl⟩ := newText_eq_ok_iff.1 h
  obtain ⟨added, hs, hr⟩ := HostFile.splice_of_register hparse hreg
  exact ⟨hfile, text, added, hread, hs, hr⟩

theorem newText_of_insert {changes : Changes} {e : Entry}
    (h : insert t root entries v = .ok changes) (he : e ∈ entries) :
    ∃ new, newText t root v (e.path, entries.filter (·.path = e.path)) = .ok new :=
  (newText_of_insertGroups h).1 _ (mem_groups.2 ⟨e, he, rfl⟩)

/-- An insertion succeeds just where all host files have new texts. -/
theorem exists_insert_iff :
    (∃ changes, insert t root entries v = .ok changes) ↔
      ∀ e ∈ entries, ∃ new, newText t root v (e.path, entries.filter (·.path = e.path)) = .ok new := by
  constructor
  · rintro ⟨changes, h⟩ e he
    exact newText_of_insert h he
  · intro h
    refine exists_insertGroups fun g hg => ?_
    obtain ⟨e, he, rfl⟩ := mem_groups.1 hg
    exact h e he

/-- An insertion changes host files that are there. -/
theorem host_of_insert {changes : Changes} (h : insert t root entries v = .ok changes) {p : Path}
    (hp : p ∈ changes.map (·.1)) :
    (∃ e ∈ entries, p = root.child e.path) ∧ t.isFile? p = .ok true := by
  rcases (newText_of_insertGroups h).2 p hp with hp | ⟨g, hg, rfl⟩
  · cases hp
  · obtain ⟨e, he, rfl⟩ := mem_groups.1 hg
    obtain ⟨new, hnew⟩ := newText_of_insert h he
    exact ⟨⟨e, he, rfl⟩, (newText_eq_ok hnew).1⟩

/-- Where no path is spelled in two ways the host files are at different paths. -/
theorem nodup_map_child (hspell : ∀ e ∈ entries, ∀ e' ∈ entries,
    root.child e.path = root.child e'.path → e.path = e'.path) :
    ((entries.map (·.path)).eraseDups.map root.child).Nodup := by
  refine (nodup_eraseDups _).map_on fun p hp q hq heq => ?_
  obtain ⟨e, he, rfl⟩ := List.mem_map.1 (List.mem_eraseDups.1 hp)
  obtain ⟨e', he', rfl⟩ := List.mem_map.1 (List.mem_eraseDups.1 hq)
  exact hspell e he e' he' heq

/-- What an insertion that succeeds puts into its changes. -/
theorem insert_eq_ok {changes : Changes}
    (hspell : ∀ e ∈ entries, ∀ e' ∈ entries,
      root.child e.path = root.child e'.path → e.path = e'.path)
    (h : insert t root entries v = .ok changes) :
    changes.map (·.1) = (entries.map (·.path)).eraseDups.map root.child ∧
    ∀ rel ∈ entries.map (·.path), ∃ new, (root.child rel, new) ∈ changes ∧
      newText t root v (rel, entries.filter (·.path = rel)) = .ok new := by
  unfold insert at h
  rw [groups_eq] at h
  obtain ⟨hkeys, -, hnew⟩ := insertGroups_eq_ok (by
    simpa [Function.comp_def] using nodup_map_child hspell) h
  refine ⟨by simpa [Function.comp_def] using hkeys, fun rel hrel => ?_⟩
  exact hnew _ (List.mem_map_of_mem (List.mem_eraseDups.2 hrel))

/-- No path has two changes. -/
theorem nodup_of_insert {changes : Changes}
    (hspell : ∀ e ∈ entries, ∀ e' ∈ entries,
      root.child e.path = root.child e'.path → e.path = e'.path)
    (h : insert t root entries v = .ok changes) : (changes.map (·.1)).Nodup :=
  (insert_eq_ok hspell h).1 ▸ nodup_map_child hspell

/-- **Splicing.** An insertion that succeeds has one change for each host file, in the order of
their first appearance. Each new text is the old one with one text added behind the last line of
the block of every extension point, and with nothing else added. -/
theorem insert_splices {changes : Changes}
    (hspell : ∀ e ∈ entries, ∀ e' ∈ entries,
      root.child e.path = root.child e'.path → e.path = e'.path)
    (h : insert t root entries v = .ok changes) :
    changes.map (·.1) = (entries.map (·.path)).eraseDups.map root.child ∧
    ∀ rel ∈ entries.map (·.path), ∃ text added, t.readText (root.child rel) = .ok text ∧
      HostFile.Splice (entries.filter (·.path = rel)) v text.lines added ∧
      (root.child rel, HostFile.weave added 0 text.lines) ∈ changes := by
  obtain ⟨hkeys, hnew⟩ := insert_eq_ok hspell h
  refine ⟨hkeys, fun rel hrel => ?_⟩
  obtain ⟨new, hmem, ht⟩ := hnew rel hrel
  obtain ⟨-, text, added, hread, hs, rfl⟩ := newText_eq_ok ht
  exact ⟨text, added, hread, hs, hmem⟩

/-- Two lists in one file, of which the second has no lines yet and ends the file without a
newline sequence. -/
theorem insert_splices_open_end :
    let t : FileTree := ⟨["w".toList], [(["w".toList], .directory),
      (["w".toList, "a.rs".toList], .file (Utf8.encode "\t// list\r\n\tsin;\n\nend".toList))]⟩
    let entries : List Entry := [
      { path := "a.rs".toList, anchor := "// list".toList,
        template := "// new\n\n\x7bname\x7d;".toList },
      { path := "a.rs".toList, anchor := "end".toList, template := "// \x7bNAME\x7d".toList }]
    let root := Path.ofText []
    let changes : Changes := [(Path.ofText "a.rs".toList,
      "\t// list\r\n\tsin;\n\t// new\r\n\r\n\tcos;\r\n\nend\n// COS".toList)]
    (∀ e ∈ entries, ∀ e' ∈ entries, root.child e.path = root.child e'.path → e.path = e'.path) ∧
      insert t root entries ⟨"cos".toList, "COS".toList⟩ = .ok changes ∧
      ∃ text added, t.readText (root.child "a.rs".toList) = .ok text ∧
        HostFile.Splice entries ⟨"cos".toList, "COS".toList⟩ text.lines added ∧
        (root.child "a.rs".toList, HostFile.weave added 0 text.lines) ∈ changes := by
  intro t entries root changes
  have hspell : ∀ e ∈ entries, ∀ e' ∈ entries,
      root.child e.path = root.child e'.path → e.path = e'.path := by decide
  have hrun : insert t root entries ⟨"cos".toList, "COS".toList⟩ = .ok changes := by
    decide +kernel
  have hall : entries.filter (·.path = "a.rs".toList) = entries := by decide
  obtain ⟨-, hnew⟩ := insert_splices hspell hrun
  obtain ⟨text, added, hread, hs, hmem⟩ := hnew "a.rs".toList (by decide)
  rw [hall] at hs
  exact ⟨hspell, hrun, text, added, hread, hs, hmem⟩

end OpScaffold.Insertion
