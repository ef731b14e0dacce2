import OpScaffold.Proofs.Commit
import OpScaffold.Proofs.Completion
import OpScaffold.Proofs.Plan

/-!
# OpScaffold.Proofs.Forecast

A dry run tells what a run would do. Both fail alike where there is no plan, and behind a plan a
dry run does not fail. The lines of a dry run tell what was found before anything was written; those
of a run tell what was found when the turn of a file came. They agree (`generate_forecast`) because
writing a host file neither makes nor removes another one, unless it stands where the temporary
sibling is to stand.
-/

namespace OpScaffold

open OpScaffold.Action

namespace Changes

variable {t : FileTree} {d d' : Disk} {p : Path} {text : Text} {c : Changes}
  {done written : List Written}

/-! ## Files that are found -/

/-- What a commit tells of a file: its path, and whether it was there before. -/
def told (w : Written) : Path × Bool := (w.1, w.2.isSome)

/-- Whether something is found at the end of a path. -/
def isThere (t : FileTree) (p : Path) : Bool := t.exists? p == .ok true

theorem parts_ne_nil_of_sibling? {q : Path} (h : p.sibling? = some q) : p.parts ≠ [] := by
  obtain ⟨name, hname, -⟩ := Option.map_eq_some_iff.1 h
  rintro hnil
  rw [Path.name?, hnil] at hname
  cases hname

/-- A file that is there is written in its directory. -/
theorem level_of_write (hlevel : t.Level d.tree) (hfile : t.isFile? p = .ok true)
    (h : Disk.write p text d = .ok () d') : t.Level d'.tree := by
  obtain ⟨-, q, hq, -⟩ := Disk.files_of_write h
  have hreach := (FileTree.isFile?_eq_true (parts_ne_nil_of_sibling? hq) hfile).2.1
  exact (Disk.preserves_level_write hreach text).of_ok hlevel h

/-- A file that was found is found as long as one stands in its place. -/
theorem exists?_of_isFile? (hlevel : t.Level d.tree) (hfile : t.isFile? p = .ok true)
    (hnow : (d.tree.file? (t.locate p)).isSome) : d.tree.exists? p = .ok true := by
  obtain ⟨bytes, hthen⟩ := Option.isSome_iff_exists.1 (FileTree.isSome_file?_of_isFile? hfile)
  obtain ⟨bytes', hnow⟩ := Option.isSome_iff_exists.1 hnow
  rw [hlevel.exists?_eq, FileTree.exists_of_isFile hfile]
  rw [FileTree.file?_eq_some.1 hnow, FileTree.file?_eq_some.1 hthen]
  rfl

/-- Files that are there are recorded as such, whatever was written before them, if none of them
stands where the temporary sibling of another is to stand. -/
theorem told_of_writeAll (hlevel : t.Level d.tree)
    (hfile : ∀ w ∈ c, t.isFile? w.1 = .ok true)
    (hnow : ∀ w ∈ c, (d.tree.file? (t.locate w.1)).isSome)
    (hs : ∀ w ∈ c, ∀ q ∈ w.1.sibling?, ∀ w' ∈ c, t.locate q ≠ t.locate w'.1)
    (h : writeAll done c d = .ok written d') :
    t.Level d'.tree ∧ written.map told = done.reverse.map told ++ c.map fun w => (w.1, true) := by
  induction c generalizing done d with
  | nil => cases h; exact ⟨hlevel, by simp⟩
  | cons w rest ih =>
    obtain ⟨p, text⟩ := w
    rw [raw_cons] at h
    obtain ⟨previous, d₁, hprev, hw, h⟩ := writeAll_cons_eq_ok_iff.1 h
    rw [List.forall_mem_cons] at hfile hnow
    have hwas := isSome_of_previousText hprev (exists?_of_isFile? hlevel hfile.1 hnow.1)
    have hnow₁ : ∀ w' ∈ rest, (d₁.tree.file? (t.locate w'.1)).isSome := by
      intro w' hw'
      refine (leaves_of_write hlevel.sound hw _).isSome (hnow.2 w' hw') fun w₀ hw₀ q hq => ?_
      rw [List.mem_singleton.1 hw₀] at hq
      exact hs _ List.mem_cons_self q hq w' (List.mem_cons_of_mem _ hw')
    obtain ⟨hlevel', htold⟩ := ih (level_of_write hlevel hfile.1 hw) hfile.2 hnow₁
      (fun w hw q hq w' hw' =>
        hs w (List.mem_cons_of_mem _ hw) q hq w' (List.mem_cons_of_mem _ hw')) h
    refine ⟨hlevel', ?_⟩
    rw [htold, List.reverse_cons, List.map_append, List.map_cons, List.map_nil, List.append_assoc,
      told, hwas]
    rfl

/-- The last file of a commit is recorded as new if it is not there, and the files before it are
recorded as there. -/
theorem told_of_commit {registrations : Changes} (hwf : d.tree.WF)
    (hfile : ∀ w ∈ registrations, d.tree.isFile? w.1 = .ok true)
    (hs : ∀ w ∈ registrations, ∀ q ∈ w.1.sibling?, ∀ w' ∈ registrations,
      d.tree.locate q ≠ d.tree.locate w'.1)
    (hfresh : d.tree.exists? p = .ok false)
    (h : commit (registrations ++ [(p, text)] : Changes) d = .ok written d') :
    written.map told = (registrations ++ [(p, text)]).map fun w => (w.1, isThere d.tree w.1) := by
  rw [raw_append] at h
  obtain ⟨done, d₁, hregs, hlast⟩ := writeAll_append_eq_ok.1 h
  have hnow (w : Path × Text) (hw : w ∈ registrations) :=
    FileTree.isSome_file?_of_isFile? (hfile w hw)
  obtain ⟨hlevel, htold⟩ := told_of_writeAll (.refl hwf) hfile hnow hs hregs
  obtain ⟨previous, d₂, hprev, -, hlast⟩ := writeAll_cons_eq_ok_iff.1 hlast
  obtain ⟨rfl, -⟩ := EStateM.Result.ok.inj hlast
  have hnone := hlevel.exists?_eq_false hfresh fun hn =>
    (leaves_of_writeAll (.refl hwf) hregs _).node?_eq_none hlevel hnow hn
  have hwas := isSome_of_previousText hprev hnone
  have hmap : (registrations.map fun w => (w.1, true)) =
      registrations.map fun w => (w.1, isThere d.tree w.1) := by
    refine List.map_congr_left fun w hw => ?_
    rw [isThere, FileTree.exists_of_isFile (hfile w hw)]
    rfl
  rw [List.reverse_nil, List.map_nil, List.nil_append, hmap] at htold
  rw [List.reverse_cons, List.map_append, htold, List.map_append, List.map_singleton,
    List.map_singleton, told, hwas, isThere, hfresh]
  rfl

end Changes

/-! ## What is printed -/

/-- A session in which a text was printed. -/
def Session.printed (s : Session) (text : Text) : Session := { s with out := s.out ++ text }

@[simp] theorem Session.disk_printed (s : Session) (text : Text) : (s.printed text).disk = s.disk :=
  rfl

@[simp] theorem Session.printed_printed (s : Session) (a b : Text) :
    (s.printed a).printed b = s.printed (a ++ b) := by
  simp [printed]

theorem Run.print_eq (line : Text) (s : Session) :
    Run.print line s = .ok () (s.printed (line ++ ['\n'])) := by
  rw [Session.printed, ← List.append_assoc]
  rfl

namespace Generation

open Changes

variable {root : Path} {v : Variant} {entries : List Entry} {c c' : Changes}
  {s s' s₁ s₂ : Session}

/-- What a dry run tells of a file. -/
def wouldLine (p : Path) (isThere : Bool) : Text :=
  "  [dry-run] Would ".toList ++ (if isThere then "update".toList else "create".toList)
    ++ ": ".toList ++ p.toText ++ ['\n']

/-- What a run tells of a file that was written. -/
def didLine (p : Path) (wasThere : Bool) : Text :=
  "  ".toList ++ (if wasThere then "Updated".toList else "Created".toList) ++ ": ".toList
    ++ p.toText ++ ['\n']

/-- A preview tells of each file whether it is there; it does not fail if all can be looked for. -/
theorem preview_eq_ok {t : FileTree} (ht : s.disk.tree = t)
    (h : ∀ w ∈ c, ∃ b, t.exists? w.1 = .ok b) :
    preview c s = .ok () (s.printed (c.flatMap fun w => wouldLine w.1 (isThere t w.1))) := by
  induction c generalizing s with
  | nil => simp [preview, Session.printed]; rfl
  | cons w rest ih =>
    obtain ⟨p, text⟩ := w
    obtain ⟨⟨b, hb⟩, hrest⟩ := List.forall_mem_cons.1 h
    rw [raw_cons]
    have hflag : isThere t p = b := by
      rw [isThere, hb]
      cases b <;> rfl
    rw [preview, bind_apply, Run.askTree_apply, ht, hb]
    dsimp only
    rw [bind_apply, Run.print_eq]
    dsimp only
    rw [ih (s := s.printed _) ht hrest, Session.printed_printed, List.flatMap_cons, hflag]
    rfl

theorem report_eq (written : List Written) (s : Session) :
    report written s = .ok ()
      (s.printed ((written.map told).flatMap fun w => didLine w.1 w.2)) := by
  induction written generalizing s with
  | nil => simp [report, Session.printed]; rfl
  | cons w rest ih =>
    obtain ⟨p, previous⟩ := w
    rw [report, bind_apply, Run.print_eq]
    dsimp only
    rw [ih, Session.printed_printed]
    rfl

/-! ## Dry runs -/

/-- Adding a variant fails where no plan can be made, dry or not. -/
theorem generate_of_plan_eq_error {e : Failure} (h : plan root v entries s = .error e s')
    (dryRun : Bool) : generate root v entries dryRun s = .error e s' := by
  rw [generate, bind_apply, h]

theorem generate_of_plan_eq_ok (h : plan root v entries s = .ok c s₁) (dryRun : Bool) :
    generate root v entries dryRun s = (commit c dryRun >>= fun _ => pure c : Run Changes)
      (s₁.printed "\nWriting files:\n".toList) := by
  rw [generate, bind_apply, h]
  dsimp only
  rw [bind_apply, Run.print_eq]
  rfl

/-- A plan has the registrations, and behind them the file of the variant, which is none of the host
files because they are there and it is not. -/
theorem concat_of_plan (h : plan root v entries s = .ok c s') : ∃ registrations target text,
    Insertion.insert s.disk.tree root entries v = .ok registrations ∧
      Exemplar.standard.instantiate s.disk.tree root v = .ok (target, text) ∧
      c = registrations ++ [(target, text)] := by
  obtain ⟨registrations, target, text, hins, hinst, rfl⟩ := plan_eq_ok h
  refine ⟨registrations, target, text, hins, hinst, Insertion.put_of_not_mem (fun hm => ?_) text⟩
  obtain ⟨-, -, -, hfresh, -⟩ := Exemplar.instantiate_eq_ok_iff.1 hinst
  have hfound := FileTree.exists_of_isFile (Insertion.host_of_insert hins hm).2
  rw [hfresh] at hfound
  cases hfound

theorem generate_dry_of_plan (h : plan root v entries s = .ok c s₁) :
    generate root v entries true s = .ok c (s₁.printed ("\nWriting files:\n".toList ++
      c.flatMap fun w => wouldLine w.1 (isThere s.disk.tree w.1))) := by
  have hdisk : s₁.disk = s.disk := ((talks_plan _ _ _ s).of_ok (.refl s) h).disk
  obtain ⟨registrations, target, text, hins, hinst, hc⟩ := concat_of_plan h
  have hfound : ∀ w ∈ c, ∃ b, s.disk.tree.exists? w.1 = .ok b := by
    rw [hc, List.forall_mem_append, List.forall_mem_singleton]
    refine ⟨fun w hw => ⟨true, FileTree.exists_of_isFile ?_⟩, false, ?_⟩
    · exact (Insertion.host_of_insert hins (List.mem_map_of_mem hw)).2
    · exact (Exemplar.instantiate_eq_ok_iff.1 hinst).2.2.2.1
  have htree : (s₁.printed "\nWriting files:\n".toList).disk.tree = s.disk.tree := by
    rw [Session.disk_printed, hdisk]
  rw [generate_of_plan_eq_ok h, bind_apply, commit, if_pos rfl, preview_eq_ok htree hfound]
  dsimp only
  rw [Session.printed_printed]
  rfl

/-- A run that writes tells of each file whether it was there before it was written. -/
theorem generate_of_plan_of_commit {written : List Written} {d' : Disk}
    (h : plan root v entries s = .ok c s₁) (hcommit : c.commit s.disk = .ok written d') :
    generate root v entries false s = .ok c
      (({ s₁ with disk := d' } : Session).printed ("\nWriting files:\n".toList ++
        (written.map told).flatMap fun w => didLine w.1 w.2)) := by
  have hdisk : s₁.disk = s.disk := ((talks_plan _ _ _ s).of_ok (.refl s) h).disk
  rw [generate_of_plan_eq_ok h, bind_apply, commit, if_neg Bool.false_ne_true, bind_apply,
    Run.onDisk_apply, Session.disk_printed, hdisk, hcommit]
  dsimp only
  rw [report_eq]
  exact congrArg (EStateM.Result.ok c) (Session.printed_printed { s₁ with disk := d' } _ _)

theorem generate_of_failed_commit {e : Failure} {d' : Disk} (h : plan root v entries s = .ok c s₁)
    (hcommit : c.commit s.disk = .error e d') :
    generate root v entries false s =
      .error e { s₁.printed "\nWriting files:\n".toList with disk := d' } := by
  have hdisk : s₁.disk = s.disk := ((talks_plan _ _ _ s).of_ok (.refl s) h).disk
  rw [generate_of_plan_eq_ok h, bind_apply, commit, if_neg Bool.false_ne_true, bind_apply,
    Run.onDisk_apply, Session.disk_printed, hdisk, hcommit]

theorem generate_dry_eq_error_iff {e : Failure} :
    generate root v entries true s = .error e s' ↔ plan root v entries s = .error e s' := by
  refine ⟨fun h => ?_, fun h => generate_of_plan_eq_error h true⟩
  cases hplan : plan root v entries s with
  | error e' s₁ => rw [← h, generate_of_plan_eq_error hplan]
  | ok c s₁ => rw [generate_dry_of_plan hplan] at h; cases h

/-- A run that writes fails as the dry run does, or in its commit. -/
theorem generate_eq_error_iff {e : Failure} :
    generate root v entries false s = .error e s' ↔
      generate root v entries true s = .error e s' ∨ ∃ c s₁ d', plan root v entries s = .ok c s₁ ∧
        c.commit s.disk = .error e d' ∧
        s' = { s₁.printed "\nWriting files:\n".toList with disk := d' } := by
  constructor
  · intro h
    cases hplan : plan root v entries s with
    | error e' s₁ =>
      rw [generate_of_plan_eq_error hplan] at h ⊢
      exact .inl h
    | ok c s₁ =>
      cases hcommit : c.commit s.disk with
      | ok written d' => rw [generate_of_plan_of_commit hplan hcommit] at h; cases h
      | error e' d' =>
        rw [generate_of_failed_commit hplan hcommit] at h
        cases h
        exact .inr ⟨c, s₁, d', rfl, hcommit, rfl⟩
  · rintro (h | ⟨c, s₁, d', hplan, hcommit, rfl⟩)
    · exact generate_of_plan_eq_error (generate_dry_eq_error_iff.1 h) false
    · exact generate_of_failed_commit hplan hcommit

/-- What a dry run and a run that writes tell where both end well. -/
theorem forecast_of_generate (hwf : s.disk.tree.WF)
    (hs : ∀ e ∈ entries, ∀ q ∈ (root.child e.path).sibling?, ∀ e' ∈ entries,
      s.disk.tree.locate q ≠ s.disk.tree.locate (root.child e'.path))
    (h : generate root v entries true s = .ok c s₁)
    (h' : generate root v entries false s = .ok c' s₂) : c' = c ∧ ∃ head,
      s₁.out = head ++ c.flatMap (fun w => wouldLine w.1 (isThere s.disk.tree w.1)) ∧
      s₂.out = head ++ c.flatMap (fun w => didLine w.1 (isThere s.disk.tree w.1)) := by
  cases hplan : plan root v entries s with
  | error e s₃ => rw [generate_of_plan_eq_error hplan] at h; cases h
  | ok c₀ s₃ =>
    rw [generate_dry_of_plan hplan] at h
    cases h
    cases hcommit : c.commit s.disk with
    | error e d' => rw [generate_of_failed_commit hplan hcommit] at h'; cases h'
    | ok written d' =>
      rw [generate_of_plan_of_commit hplan hcommit] at h'
      cases h'
      obtain ⟨registrations, target, text, hins, hinst, rfl⟩ := concat_of_plan hplan
      have hhosts (w : Path × Text) (hw : w ∈ registrations) :=
        Insertion.host_of_insert hins (List.mem_map_of_mem hw)
      have hsib : ∀ w ∈ registrations, ∀ q ∈ w.1.sibling?, ∀ w' ∈ registrations,
          s.disk.tree.locate q ≠ s.disk.tree.locate w'.1 := by
        intro w hw q hq w' hw'
        obtain ⟨⟨e, he, heq⟩, -⟩ := hhosts w hw
        obtain ⟨⟨e', he', heq'⟩, -⟩ := hhosts w' hw'
        exact heq' ▸ hs e he q (heq ▸ hq) e' he'
      have htold := told_of_commit hwf (fun w hw => (hhosts w hw).2) hsib
        (Exemplar.instantiate_eq_ok_iff.1 hinst).2.2.2.1 hcommit
      refine ⟨rfl, s₃.out ++ "\nWriting files:\n".toList, ?_, ?_⟩
      · rw [Session.printed, List.append_assoc]
      · rw [Session.printed, htold, List.append_assoc, List.flatMap_map]

/-- **Forecast.** Let no host file stand where the temporary sibling of another is to stand. A dry
run leaves the disk as it is, and it fails just where no plan can be made. A run that writes fails
alike, or else in its commit. Where both end well they have the same changes, and after the same
text the dry run tells of each file in their order what the run has done to it. -/
theorem generate_forecast (hwf : s.disk.tree.WF)
    (hs : ∀ e ∈ entries, ∀ q ∈ (root.child e.path).sibling?, ∀ e' ∈ entries,
      s.disk.tree.locate q ≠ s.disk.tree.locate (root.child e'.path)) :
    (after (generate root v entries true) s).disk = s.disk ∧
    (∀ e s', generate root v entries true s = .error e s' ↔ plan root v entries s = .error e s') ∧
    (∀ e s', generate root v entries false s = .error e s' ↔
      generate root v entries true s = .error e s' ∨ ∃ c s₁ d', plan root v entries s = .ok c s₁ ∧
        c.commit s.disk = .error e d' ∧
        s' = { s₁.printed "\nWriting files:\n".toList with disk := d' }) ∧
    ∀ c s₁ c' s₂, generate root v entries true s = .ok c s₁ →
      generate root v entries false s = .ok c' s₂ → c' = c ∧ ∃ head,
        s₁.out = head ++ c.flatMap (fun w => wouldLine w.1 (isThere s.disk.tree w.1)) ∧
        s₂.out = head ++ c.flatMap (fun w => didLine w.1 (isThere s.disk.tree w.1)) :=
  ⟨(talks_generate _ _ _ s s (.refl s)).disk, fun _ _ => generate_dry_eq_error_iff,
    fun _ _ => generate_eq_error_iff, fun _ _ _ _ => forecast_of_generate hwf hs⟩

/-- Two host files, of which the one is named like a temporary sibling, but not like the other's. -/
theorem generate_forecast_two_hosts :
    let tree : FileTree := ⟨["w".toList], [(["w".toList], .directory),
      (["w".toList, "src".toList], .directory),
      (["w".toList, "src".toList, "op".toList], .directory),
      (["w".toList, "src".toList, "op".toList, "sin.rs".toList], .file (Utf8.encode "sin".toList)),
      (["w".toList, "a.rs".toList], .file (Utf8.encode "// list\n".toList)),
      (["w".toList, ".b.rs.new_unary".toList], .file (Utf8.encode "// list".toList))]⟩
    let s : Session := { disk := { tree } }
    let root := Path.ofText []
    let v : Variant := ⟨"cos".toList, "COS".toList⟩
    let entries : List Entry := [
      { path := "a.rs".toList, anchor := "// list".toList, template := "\x7bname\x7d;".toList },
      { path := ".b.rs.new_unary".toList, anchor := "// list".toList,
        template := "\x7bNAME\x7d;".toList }]
    tree.WF ∧ (∀ e ∈ entries, ∀ q ∈ (root.child e.path).sibling?, ∀ e' ∈ entries,
      tree.locate q ≠ tree.locate (root.child e'.path)) ∧
    ∃ c s₁ s₂ head, generate root v entries true s = .ok c s₁ ∧
      generate root v entries false s = .ok c s₂ ∧
      s₁.out = head ++ c.flatMap (fun w => wouldLine w.1 (isThere tree w.1)) ∧
      s₂.out = head ++ c.flatMap (fun w => didLine w.1 (isThere tree w.1)) := by
  intro tree s root v entries
  have hwf : tree.WF := FileTree.wf_of_nodes (by decide +kernel)
  have hs : ∀ e ∈ entries, ∀ q ∈ (root.child e.path).sibling?, ∀ e' ∈ entries,
      tree.locate q ≠ tree.locate (root.child e'.path) := by decide +kernel
  have hends : ∀ dryRun, succeeds (generate root v entries dryRun) s = true := by decide +kernel
  obtain ⟨c, s₁, h₁⟩ := succeeds_iff.1 (hends true)
  obtain ⟨c', s₂, h₂⟩ := succeeds_iff.1 (hends false)
  obtain ⟨-, -, -, hboth⟩ := generate_forecast (v := v) (s := s) hwf hs
  obtain ⟨rfl, head, hout₁, hout₂⟩ := hboth c s₁ c' s₂ h₁ h₂
  exact ⟨hwf, hs, c', s₁, s₂, head, h₁, h₂, hout₁, hout₂⟩

end Generation

end OpScaffold
