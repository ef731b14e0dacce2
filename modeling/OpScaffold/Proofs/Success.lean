import OpScaffold.Proofs.Effect
import OpScaffold.Proofs.Exemplar
import OpScaffold.Proofs.Files.Takes
import OpScaffold.Proofs.HostFile.Registration
import OpScaffold.Proofs.Registry

/-!
# OpScaffold.Proofs.Success

When adding a variant to the crate succeeds, provided that no replacement is refused. A commit
succeeds where the tree takes all of its files (`commit_succeeds_iff`), and a generation where the
variant can be registered in every host file, the file of the variant can be made, and the tree
takes all of them (`generate_succeeds_iff`). What it leaves behind is told file by file
(`Generated`).
-/

namespace OpScaffold

open OpScaffold.Action

namespace Changes

variable {t₀ : FileTree} {d d' : Disk} {p : Path} {before later : Changes}
  {done : List Written} {paths : List Path}

/-! ## Commits that succeed -/

theorem preserves_refused_write (r : List Nat) (p : Path) (raw : RawText) :
    Preserves (fun d : Disk => d.refused = r) (Disk.write p raw) := fun d hd =>
  (Disk.preserves_count_write r 0 p raw d ⟨hd, Nat.zero_le _⟩).1

/-- A file that can be read is taken over with its text. -/
theorem previousText_of_readText {old : Text} (h : d.tree.readText p = .ok old) :
    previousText p d = .ok (some old) d := by
  rw [previousText_apply, FileTree.exists_of_isFile (FileTree.isFile?_of_readText h)]
  dsimp only
  rw [h]

/-- The text of a file that is as at the start of a commit is told again. -/
theorem Progress.previousText_eq_ok (h : Progress t₀ before done d) (hlevel : t₀.Level d.tree)
    (hap : Apart t₀ (before.map (·.1) ++ p :: paths)) (hopen : t₀.Opens p)
    (hread : t₀.node? (t₀.locate p) = none ∨ ∃ old, t₀.readText p = .ok old) :
    ∃ previous, previousText p d = .ok previous d := by
  have hdistinct := hap.distinct
  rw [List.map_append, List.map_cons, List.map_map] at hdistinct
  have hnot : t₀.locate p ∉ before.map fun w => t₀.locate w.1 := fun hm =>
    (List.nodup_append.1 hdistinct).2.2 _ hm _ List.mem_cons_self rfl
  have hfile : d.tree.file? (t₀.locate p) = t₀.file? (t₀.locate p) := by
    rw [h.files, overwritten_of_not_mem before hnot]
  rcases hread with hnone | ⟨old, hold⟩
  · rw [previousText_apply, (hlevel.opens_iff.2 hopen).exists?_eq, hlevel.sound.keeps.locate_eq,
      hlevel.node?_eq hfile, hnone]
    exact ⟨none, rfl⟩
  · have hbytes := files_of_readText hold
    rw [← hfile] at hbytes
    exact ⟨some old, previousText_of_readText (hlevel.sound.keeps.readText_eq_ok hold hbytes)⟩

/-- A commit that has come as far as this succeeds just where the tree takes the files to come. -/
theorem writeAll_succeeds_iff (h : Progress t₀ before done d) (hlevel : t₀.Level d.tree)
    (hr : d.refused = []) (hap : Apart t₀ (before.map (·.1) ++ later.map (·.1)))
    (hreach : ∀ w ∈ later, t₀.ReachesDirectory w.1.parent)
    (hread : ∀ w ∈ later, t₀.node? (t₀.locate w.1) = none ∨ ∃ old, t₀.readText w.1 = .ok old) :
    (∃ written d', writeAll done later d = .ok written d') ↔ ∀ w ∈ later, t₀.Takes w.1 := by
  induction later generalizing before done d with
  | nil => exact iff_of_true ⟨done.reverse, d, rfl⟩ (by simp)
  | cons w rest ih =>
    obtain ⟨p, text⟩ := w
    have hp : d.tree.ReachesDirectory p.parent :=
      (hreach (p, text) List.mem_cons_self).extends hlevel.sound.keeps
    have hwrite : (∃ d', Disk.write p text d = .ok () d') ↔ t₀.Takes p := by
      rw [Disk.write_succeeds_iff hlevel.sound.wf hr hp, hlevel.takes_iff]
    rw [List.forall_mem_cons, ← hwrite]
    have hrest {previous : Option Text} {d₁ : Disk} (hprev : previousText p d = .ok previous d)
        (hw : Disk.write p text d = .ok () d₁) :
        (∃ written d', writeAll ((p, previous) :: done) rest d₁ = .ok written d') ↔
          ∀ w ∈ rest, t₀.Takes w.1 := by
      have hnext := h.next hap hprev hw
      have hlevel₁ :=
        (Disk.preserves_level_write (hreach (p, text) List.mem_cons_self) text).of_ok hlevel hw
      exact ih hnext hlevel₁ ((preserves_refused_write [] p text).of_ok hr hw) (by simpa using hap)
        (fun w hm => hreach w (List.mem_cons_of_mem _ hm))
        (fun w hm => hread w (List.mem_cons_of_mem _ hm))
    constructor
    · rintro ⟨written, d', hall⟩
      obtain ⟨previous, d₁, hprev, hw, hall⟩ := writeAll_cons_eq_ok_iff.1 hall
      exact ⟨⟨d₁, hw⟩, (hrest hprev hw).1 ⟨written, d', hall⟩⟩
    · rintro ⟨⟨d₁, hw⟩, htakes⟩
      obtain ⟨previous, hprev⟩ := h.previousText_eq_ok hlevel hap
        (hwrite.1 ⟨d₁, hw⟩).target (hread (p, text) List.mem_cons_self)
      obtain ⟨written, d', hall⟩ := (hrest hprev hw).2 htakes
      exact ⟨written, d', writeAll_cons_eq_ok_iff.2 ⟨previous, d₁, hprev, hw, hall⟩⟩

/-- **Committing.** If no replacement is refused, a commit into directories that are there succeeds
just where the tree takes all of its files. -/
theorem commit_succeeds_iff {c : Changes} (hwf : d.tree.WF) (hr : d.refused = [])
    (hap : Apart d.tree (c.map (·.1))) (hreach : ∀ w ∈ c, d.tree.ReachesDirectory w.1.parent)
    (hread : ∀ w ∈ c, d.tree.node? (d.tree.locate w.1) = none ∨
      ∃ old, d.tree.readText w.1 = .ok old) :
    (∃ written d', c.commit d = .ok written d') ↔ ∀ w ∈ c, d.tree.Takes w.1 :=
  writeAll_succeeds_iff (progress_start hwf) (.refl hwf) hr hap hreach hread

end Changes

/-! ## Plans that can be made -/

namespace Generation

variable {t t' : FileTree} {root : Path} {v : Variant} {name : Text} {c : Changes}
  {s s' : Session} {e : Entry}

/-- Where the registry is sound, the registrations can be made and so can the file of the variant,
there is a plan. -/
theorem exists_plan {entries : List Entry} {registrations : Changes} {target : Path} {text : Text}
    (hvalid : Registry.validate entries = .ok ())
    (hins : Insertion.insert s.disk.tree root entries v = .ok registrations)
    (hinst : Exemplar.standard.instantiate s.disk.tree root v = .ok (target, text)) :
    ∃ s', plan root v entries s = .ok (registrations.put target text) s' := by
  have hdisk (line : Text) : (after (Run.print line) s).disk = s.disk := rfl
  unfold plan
  rw [bind_apply, Run.ofExcept_apply, hvalid]
  dsimp only
  rw [Run.print_bind, Run.tree_bind, hdisk, bind_apply, Run.ofExcept_apply, hins]
  dsimp only
  rw [bind_apply, Run.ofExcept_apply, hinst]
  exact ⟨_, rfl⟩

/-- Whether a variant can be registered in the host file of an entry. -/
structure Registers (t : FileTree) (root : Path) (v : Variant) (e : Entry) (old : Text)
    (host : HostFile) : Prop where
  read : t.readText (root.child e.path) = .ok old
  parsed : HostFile.parse e.path old [e] = .ok host
  unregistered : HostFile.IsUnregistered v host.parts

theorem entry_eq {path text : Text} {host : HostFile} (h : HostFile.parse path text [e] = .ok host)
    {p : ExtensionPoint} (hp : .point p ∈ host.parts) : p.entry = e :=
  List.mem_singleton.1 ((HostFile.parse_eq_ok_iff.1 h).2.2.entry_mem hp)

theorem newText_standard (he : e ∈ Registry.standard) (hv : Variant.derive name = .ok v)
    {new : Text} : Insertion.newText t root v (e.path, [e]) = .ok new ↔
      ∃ old host, Registers t root v e old host ∧ new = (host.extend (·.snippet v)).render := by
  have hregister {old : Text} {host host' : HostFile}
      (h : HostFile.parse e.path old [e] = .ok host) : host.register v = .ok host' ↔
        HostFile.IsUnregistered v host.parts ∧ host' = host.extend (·.snippet v) :=
    HostFile.register_eq_ok_iff fun p hp => by
      rw [entry_eq h hp]
      exact Registry.render_standard he hv
  rw [Insertion.newText_eq_ok_iff]
  constructor
  · rintro ⟨-, old, host, host', hread, hparse, hreg, rfl⟩
    obtain ⟨hun, rfl⟩ := (hregister hparse).1 hreg
    exact ⟨old, host, ⟨hread, hparse, hun⟩, rfl⟩
  · rintro ⟨old, host, h, rfl⟩
    exact ⟨FileTree.isFile?_of_readText h.read, old, host, _,
      h.read, h.parsed, (hregister h.parsed).2 ⟨h.unregistered, rfl⟩, rfl⟩

/-- The entries of the crate have a host file each. -/
theorem filter_standard (he : e ∈ Registry.standard) :
    Registry.standard.filter (·.path = e.path) = [e] := by
  revert e
  decide

theorem insert_standard (hv : Variant.derive name = .ok v)
    (h : Insertion.insert t root Registry.standard v = .ok c) (he : e ∈ Registry.standard) :
    ∃ old host, Registers t root v e old host ∧
      (root.child e.path, (host.extend (·.snippet v)).render) ∈ c := by
  obtain ⟨-, hnew⟩ := Insertion.insert_eq_ok (fun _ he _ he' => eq_of_child_eq he he') h
  obtain ⟨new, hmem, ht⟩ := hnew e.path (List.mem_map_of_mem he)
  rw [filter_standard he] at ht
  obtain ⟨old, host, hreg, rfl⟩ := (newText_standard he hv).1 ht
  exact ⟨old, host, hreg, hmem⟩

theorem exists_insert_standard (hv : Variant.derive name = .ok v)
    (h : ∀ e ∈ Registry.standard, ∃ old host, Registers t root v e old host) :
    ∃ c, Insertion.insert t root Registry.standard v = .ok c := by
  have hgroups : Insertion.groups Registry.standard =
      Registry.standard.map fun e => (e.path, [e]) := by decide
  unfold Insertion.insert
  rw [hgroups]
  refine Insertion.exists_insertGroups fun g hg => ?_
  obtain ⟨e, he, rfl⟩ := List.mem_map.1 hg
  obtain ⟨old, host, hreg⟩ := h e he
  exact ⟨_, (newText_standard he hv).2 ⟨old, host, hreg, rfl⟩⟩

/-! ## Generations that succeed -/

/-- A generation that writes succeeds with its plan and its commit. -/
theorem generate_eq_ok {entries : List Entry} (h : generate root v entries false s = .ok c s') :
    (∃ s₁, plan root v entries s = .ok c s₁) ∧
      ∃ written, c.commit s.disk = .ok written s'.disk := by
  unfold generate at h
  obtain ⟨c₁, s₁, hplan, h⟩ := bind_eq_ok.1 h
  rw [Run.print_bind] at h
  have hdisk : (after (Run.print "\nWriting files:".toList) s₁).disk = s.disk :=
    ((talks_plan _ _ _ s).of_ok (.refl s) hplan).disk
  generalize after (Run.print "\nWriting files:".toList) s₁ = s₂ at h hdisk
  obtain ⟨_, s₃, hcommit, h⟩ := bind_eq_ok.1 h
  cases h
  have hrun : commit c false s₂ = (Run.onDisk c.commit >>= report) s₂ := rfl
  rw [hrun, bind_apply, Run.onDisk_apply, hdisk] at hcommit
  refine ⟨⟨s₁, hplan⟩, ?_⟩
  cases hc : c.commit s.disk with
  | error e d' => rw [hc] at hcommit; cases hcommit
  | ok written d' =>
    obtain ⟨s₄, hr, hd⟩ := report_eq_ok written { s₂ with disk := d' }
    rw [hc] at hcommit
    dsimp only at hcommit
    rw [hr] at hcommit
    cases hcommit
    exact ⟨written, by rw [hd]⟩

theorem exists_generate {entries : List Entry} {s₁ : Session} {written : List Changes.Written}
    {d' : Disk} (hplan : plan root v entries s = .ok c s₁)
    (hcommit : c.commit s.disk = .ok written d') :
    ∃ s', generate root v entries false s = .ok c s' := by
  have hdisk : (after (Run.print "\nWriting files:".toList) s₁).disk = s.disk :=
    ((talks_plan _ _ _ s).of_ok (.refl s) hplan).disk
  unfold generate
  rw [bind_apply, hplan]
  dsimp only
  rw [Run.print_bind, bind_apply]
  generalize after (Run.print "\nWriting files:".toList) s₁ = s₂ at hdisk
  have hrun : commit c false s₂ = (Run.onDisk c.commit >>= report) s₂ := rfl
  obtain ⟨s₄, hr, -⟩ := report_eq_ok written { s₂ with disk := d' }
  rw [hrun, bind_apply, Run.onDisk_apply, hdisk, hcommit]
  dsimp only
  rw [hr]
  exact ⟨s₄, rfl⟩

/-- Whether a variant can be added to a tree: it can be registered in all host files, its own file
can be made after the exemplar, and the tree takes all of these files. -/
structure Ready (t : FileTree) (root : Path) (v : Variant) : Prop where
  hosts : ∀ e ∈ Registry.standard, ∃ old host, Registers t root v e old host
  source : ∃ source, t.readText (root.child Exemplar.standard.sourcePath) = .ok source
  name : v.name ≠ Exemplar.standard.variant.name
  fresh : t.exists? (Exemplar.targetPath root Exemplar.standard.directory v) = .ok false
  takes : ∀ p ∈ touched root v, t.Takes p

/-- The tree behind a generation: the host files are extended, the file of the variant is made
after the exemplar, and all else is as before, with no temporary sibling left behind. -/
structure Generated (root : Path) (v : Variant) (t t' : FileTree) : Prop where
  level : t.Level t'
  added : Added root v t t'
  hosts : ∀ e ∈ Registry.standard, ∃ old host, Registers t root v e old host ∧
    t'.readText (root.child e.path) = .ok (host.extend (·.snippet v)).render
  file : ∃ source, t.readText (root.child Exemplar.standard.sourcePath) = .ok source ∧
    t'.file? (t.locate (Exemplar.targetPath root Exemplar.standard.directory v)) =
      some (Utf8.encode (Template.spelled v (Exemplar.symbols Exemplar.standard.variant source)))
  siblings : ∀ p q : Path, p.sibling? = some q →
    t.file? (t.locate q) = none → t'.file? (t.locate q) = none

/-- A commit of a plan succeeds just where the tree takes the files of the variant. -/
theorem Planned.commit_succeeds_iff (hplan : Planned s.disk.tree root v c)
    (hv : Variant.derive name = .ok v) (hwf : s.disk.tree.WF) (hr : s.disk.refused = [])
    (hs : ∀ p ∈ touched root v, ∀ q, p.sibling? = some q →
      s.disk.tree.file? (s.disk.tree.locate q) = none) :
    (∃ written d', c.commit s.disk = .ok written d') ↔
      ∀ p ∈ touched root v, s.disk.tree.Takes p := by
  have hname := Variant.isName_of_derive hv
  have hread : ∀ w ∈ c, s.disk.tree.node? (s.disk.tree.locate w.1) = none ∨
      ∃ old, s.disk.tree.readText w.1 = .ok old := by
    intro w hw
    have hmem : w.1 ∈ touched root v := hplan.keys ▸ List.mem_map_of_mem hw
    rcases List.mem_append.1 hmem with hm | hm
    · obtain ⟨e, he, heq⟩ := List.mem_map.1 hm
      obtain ⟨-, old, -, hold, -⟩ := hplan.hosts e he
      exact .inr ⟨old, heq ▸ hold⟩
    · rw [List.mem_singleton.1 hm]
      exact .inl (hplan.node?_target hname)
  have hreach : ∀ w ∈ c, s.disk.tree.ReachesDirectory w.1.parent := fun w hw =>
    hplan.reachesDirectory hname (hplan.keys ▸ List.mem_map_of_mem hw)
  rw [Changes.commit_succeeds_iff hwf hr (hplan.apart hname hs) hreach hread, ← hplan.keys,
    List.forall_mem_map]

/-- **Success.** If no replacement is refused, a variant is added just where the tree is ready for
it. -/
theorem generate_succeeds_iff (hv : Variant.derive name = .ok v) (hwf : s.disk.tree.WF)
    (hr : s.disk.refused = []) (hs : ∀ p ∈ touched root v, ∀ q, p.sibling? = some q →
      s.disk.tree.file? (s.disk.tree.locate q) = none) :
    (∃ c s', generate root v Registry.standard false s = .ok c s') ↔
      Ready s.disk.tree root v := by
  constructor
  · rintro ⟨c, s', h⟩
    obtain ⟨⟨s₁, hp⟩, written, hcommit⟩ := generate_eq_ok h
    have hplan := planned_of_plan hp
    obtain ⟨registrations, text, hins, hinst, -⟩ := plan_standard_eq_ok hp
    obtain ⟨-, -, hname, hfresh, source, hsource, -⟩ := Exemplar.instantiate_eq_ok_iff.1 hinst
    refine ⟨fun e he => ?_, ⟨source, hsource⟩, hname, hfresh,
      (hplan.commit_succeeds_iff hv hwf hr hs).1 ⟨written, _, hcommit⟩⟩
    obtain ⟨old, host, hreg, -⟩ := insert_standard hv hins he
    exact ⟨old, host, hreg⟩
  · intro h
    obtain ⟨registrations, hins⟩ := exists_insert_standard hv h.hosts
    obtain ⟨source, hsource⟩ := h.source
    have hinst := Exemplar.instantiate_eq_ok_iff.2 ⟨rfl,
      FileTree.isFile?_of_readText hsource, h.name, h.fresh,
      source, hsource, Exemplar.render_template Exemplar.separate_standard.toPlain source v⟩
    obtain ⟨s₁, hp⟩ := exists_plan Registry.validate_standard hins hinst
    obtain ⟨written, d', hcommit⟩ :=
      ((planned_of_plan hp).commit_succeeds_iff hv hwf hr hs).2 h.takes
    obtain ⟨s', hgen⟩ := exists_generate hp hcommit
    exact ⟨_, s', hgen⟩

theorem generated_of_generate (hv : Variant.derive name = .ok v) (hwf : s.disk.tree.WF)
    (hs : ∀ p ∈ touched root v, ∀ q, p.sibling? = some q →
      s.disk.tree.file? (s.disk.tree.locate q) = none)
    (h : generate root v Registry.standard false s = .ok c s') :
    Generated root v s.disk.tree s'.disk.tree := by
  have hname := Variant.isName_of_derive hv
  obtain ⟨⟨s₁, hp⟩, written, hcommit⟩ := generate_eq_ok h
  have hplan := planned_of_plan hp
  obtain ⟨registrations, text, hins, hinst, hc⟩ := plan_standard_eq_ok hp
  have hap := hplan.apart hname hs
  have hlevel : s.disk.tree.Level s'.disk.tree := by
    rw [← after_of_ok hcommit]
    exact Changes.level_commit hwf fun w hw =>
      hplan.reachesDirectory hname (hplan.keys ▸ List.mem_map_of_mem hw)
  have hfiles := Changes.files_of_commit hwf hap hcommit
  have hadded := hplan.added hname hlevel hfiles
  refine ⟨hlevel, hadded, fun e he => ?_, ?_, fun p q hq hnone => ?_⟩
  · obtain ⟨old, host, hreg, hmem⟩ := insert_standard hv hins he
    refine ⟨old, host, hreg, hlevel.sound.keeps.readText_eq_ok hreg.read ?_⟩
    rw [hfiles]
    exact Changes.overwritten_of_mem hap.nodup_locations (hc ▸ List.mem_append_left _ hmem)
  · obtain ⟨-, -, -, -, source, hsource, hrender⟩ := Exemplar.instantiate_eq_ok_iff.1 hinst
    rw [Exemplar.render_template Exemplar.separate_standard.toPlain] at hrender
    have hmem : (Exemplar.targetPath root Exemplar.standard.directory v, text) ∈ c := by
      simp [hc]
    refine ⟨source, hsource, ?_⟩
    rw [hfiles, Changes.overwritten_of_mem hap.nodup_locations hmem, ← Except.ok.inj hrender]
  · rw [FileTree.file?, hadded.rest _ (hplan.locate_sibling_not_mem hname hq hnone)]
    exact hnone

/-- Which replacements are refused does not change. -/
theorem refused_of_generate {entries : List Entry} (hr : s.disk.refused = [])
    (h : generate root v entries false s = .ok c s') : s'.disk.refused = [] := by
  obtain ⟨-, written, hcommit⟩ := generate_eq_ok h
  have hundo : ∀ w, Preserves (fun d : Disk => d.refused = []) (Changes.undo w) := fun w =>
    Changes.preserves_undo (fun text => Changes.preserves_refused_write [] w.1 text)
      (Disk.preserves_change fun _ _ hd _ => hd)
  have hcommits : Preserves (fun d : Disk => d.refused = []) c.commit :=
    Changes.preserves_writeAll (fun w _ => Changes.preserves_refused_write [] w.1 w.2)
      (fun _ _ _ => hundo _) fun w _ => hundo w
  exact hcommits.of_ok hr hcommit

end Generation

end OpScaffold
