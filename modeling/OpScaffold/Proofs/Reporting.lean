import OpScaffold.Proofs.Repetition
import OpScaffold.Proofs.Rollback

/-!
# OpScaffold.Proofs.Reporting

Which failures leave a run. If no replacement is refused while a commit rolls back, everything that
a commit of a plan has written can be undone, so the commit fails with a failure that is reported
(`isReported_of_commit`). Before that, files are only looked for and read; with texts to read, all
that can happen unreported is that a path is too long to look for a file at its end
(`generate_reports`).
-/

namespace OpScaffold

open OpScaffold.Action

/-! ## Looking for files -/

namespace FileTree

variable {t : FileTree} {l m : Location} {root p : Path} {names : List Text} {e : FileError}

/-- Names are followed on from where those before them lead. -/
theorem follow_append {more : List Text} (h : t.follow l names = .ok m) :
    t.follow l (names ++ more) = t.follow m more := by
  fun_induction follow t l names with
  | case1 l => cases h; rfl
  | case2 => cases h
  | case3 => cases h
  | case4 l rest hd ih => simpa [follow, hd] using ih h
  | case5 => cases h
  | case6 l name rest hd ha hlong ih => simpa [follow, hd, ha, hlong] using ih h

/-- Short names lead somewhere, or nowhere, or through a file. -/
theorem reason_of_follow {reason : Refused} (hshort : ∀ name ∈ names, isLong name = false)
    (h : t.follow l names = .error reason) : reason = .noEntry ∨ reason = .notDirectory := by
  fun_induction follow t l names with
  | case1 => cases h
  | case2 => cases h; exact .inl rfl
  | case3 => cases h; exact .inr rfl
  | case4 l rest hd ih => exact ih (fun name hn => hshort name (List.mem_cons_of_mem _ hn)) h
  | case5 l name rest hd ha hlong =>
    rw [hshort name List.mem_cons_self] at hlong
    cases hlong
  | case6 l name rest hd ha hlong ih =>
    exact ih (fun name hn => hshort name (List.mem_cons_of_mem _ hn)) h

/-- Below a directory that is found, looking for short names fails only if the whole path is too
long. -/
theorem find?_below (hroot : t.isDirectory? root = .ok true)
    (hshort : ∀ name ∈ names, isLong name = false)
    (hp : p = { root with parts := root.parts ++ names }) (h : t.find? p = .error e) :
    isLongPath p = true ∧ e = .refused .nameTooLong p := by
  obtain ⟨-, l, hstat⟩ := isDirectory?_iff_stat.1 hroot
  obtain ⟨-, hfollow, -⟩ := stat_eq_ok_iff.1 hstat
  have hreason {reason : Refused} (hr : t.follow (t.start p) p.parts = .error reason) :
      reason = .noEntry ∨ reason = .notDirectory := by
    have hstart : t.start p = t.start root := by rw [hp]; rfl
    rw [hstart, hp, follow_append hfollow] at hr
    exact reason_of_follow hshort hr
  unfold find? stat at h
  split at h
  · cases h
  · split at h
    · cases h
    · cases h
    · cases h
    · next reason hno hnot hs =>
      split at hs
      · next hlong => cases hs; cases h; exact ⟨hlong, rfl⟩
      · split at hs
        · next hr =>
          cases hs
          rcases hreason hr with rfl | rfl
          · exact absurd rfl hno
          · exact absurd rfl hnot
        · split at hs
          · cases hs; exact absurd rfl hno
          · cases hs

theorem find?_of_isFile?_eq_error (h : t.isFile? p = .error e) : t.find? p = .error e := by
  unfold isFile? at h
  cases hf : t.find? p with
  | error e' => rw [hf] at h; cases h; rfl
  | ok n => rw [hf] at h; cases h

theorem find?_of_exists?_eq_error (h : t.exists? p = .error e) : t.find? p = .error e := by
  unfold exists? at h
  cases hf : t.find? p with
  | error e' => rw [hf] at h; cases h; rfl
  | ok n => rw [hf] at h; cases h

end FileTree

namespace Changes

variable {t : FileTree} {d d' : Disk} {p : Path} {text : Text} {c : Changes} {done : List Written}
  {e : Failure}

/-! ## Rolling back -/

/-- Whether no replacement is refused that is tried while what was recorded is undone. -/
def Spared (done : List Written) (d : Disk) : Prop :=
  ∀ n ∈ d.refused, n < d.replacements ∨ (after (rollBack done) d).replacements ≤ n

instance (done : List Written) (d : Disk) : Decidable (Spared done d) :=
  inferInstanceAs (Decidable (∀ n ∈ d.refused, _))

/-- Whether no replacement is refused that a commit tries while it rolls back. -/
def SparesRollBack (c : Changes) (d : Disk) : Prop :=
  ∀ start ∈ rollBackStart? [] c d, Spared start.1 start.2

instance (c : Changes) (d : Disk) : Decidable (SparesRollBack c d) :=
  inferInstanceAs (Decidable (∀ start ∈ rollBackStart? [] c d, _))

/-- Files that were there, and that the tree takes, get their texts back. -/
theorem rollBack_eq_ok (hlevel : t.Level d.tree)
    (hdone : ∀ w ∈ done, w.2.isSome = true ∧ t.Takes w.1) (hspared : Spared done d) :
    ∃ d', rollBack done d = .ok () d' := by
  induction done generalizing d with
  | nil => exact ⟨d, rfl⟩
  | cons w rest ih =>
    obtain ⟨path, previous⟩ := w
    obtain ⟨⟨hsome, htakes⟩, hrest⟩ := List.forall_mem_cons.1 hdone
    obtain ⟨old, rfl⟩ := Option.isSome_iff_exists.1 hsome
    unfold Spared at hspared
    rw [after, rollBack, bind_apply, undo, onDisk_apply] at hspared
    rw [rollBack, bind_apply, undo, onDisk_apply]
    cases hw : Disk.write path old d with
    | ok _ d₁ =>
      rw [hw] at hspared
      obtain ⟨hrefused, hcount⟩ :=
        (Disk.preserves_count_write d.refused d.replacements path old).of_ok ⟨rfl, Nat.le_refl _⟩ hw
      refine ih ((Disk.preserves_level_write htakes.target.reachesDirectory old).of_ok hlevel hw)
        hrest fun n hn => ?_
      exact (hspared n (hrefused ▸ hn)).imp_left fun hlt => Nat.lt_of_lt_of_le hlt hcount
    | error e d₁ =>
      -- the replacement that is refused would be one of this rollback
      rw [hw] at hspared
      obtain ⟨hrefused, hcount⟩ :=
        Disk.refused_of_failed_write hlevel.sound.wf (hlevel.takes_iff.2 htakes) hw
      rcases hspared _ hrefused with hlt | hle
      · exact absurd hlt (Nat.lt_irrefl _)
      · exact absurd hcount (Nat.not_lt.2 hle)

/-! ## Commits on their way -/

/-- Whether a path can be handed to the system and leads to an entry of a directory. -/
structure Fit (t : FileTree) (p : Path) : Prop where
  noNull : p.hasNull = false
  named : p.parts ≠ []
  reaches : t.ReachesDirectory p.parent

theorem fit_of_isFile? (hparts : p.parts ≠ []) (h : t.isFile? p = .ok true) : Fit t p := by
  obtain ⟨-, hreach, hnull⟩ := FileTree.isFile?_eq_true hparts h
  exact ⟨hnull, hparts, hreach⟩

/-- Where a file was taken over that cannot be written, the failure is reported. -/
theorem isReported_or_writes {previous : Option Text} {later : Changes RawText} (hlevel : t.Level d.tree)
    (hdone : ∀ w ∈ done, w.2.isSome = true ∧ t.Takes w.1) (hfit : Fit t p)
    (hprev : previousText p d = .ok previous d)
    (hspared : ∀ start ∈ rollBackStart? done ((p, text) :: later) d, Spared start.1 start.2)
    (h : writeAll done ((p, text) :: later) d = .error e d') :
    e.isReported = true ∨ ∃ d₁, Disk.write p text d = .ok () d₁ ∧
      (∀ start ∈ rollBackStart? ((p, previous) :: done) later d₁, Spared start.1 start.2) ∧
      writeAll ((p, previous) :: done) later d₁ = .error e d' := by
  rw [writeAll_cons, hprev] at h
  rw [rollBackStart?, hprev] at hspared
  dsimp only at h hspared
  cases hw : Disk.write p text d with
  | ok _ d₁ =>
    rw [hw] at h hspared
    exact .inr ⟨d₁, rfl, hspared, h⟩
  | error e₁ d₁ =>
    -- only the system can have refused the write, so what is recorded is undone
    have hsys : e₁.isFromSystem = true := by
      cases Disk.fails_of_write hw with
      | refused h => exact h
      | nullCharacter hp => simp [hfit.noNull] at hp
      | noName hp => exact absurd hp hfit.named
      | unencodable hraw => rw [Utf8.encodeRaw_raw] at hraw; cases hraw
    rw [hw] at h hspared
    dsimp only at h hspared
    rw [if_pos hsys] at h hspared
    obtain ⟨d₂, hroll⟩ := rollBack_eq_ok
      ((Disk.preserves_level_write hfit.reaches text).of_error hlevel hw) hdone (hspared _ rfl)
    rw [hroll] at h
    cases h
    exact .inl rfl

/-- A file that can be read still can be when another one was written whose temporary sibling does
not come to its place. -/
theorem readText_of_write {d₁ : Disk} {q : Path} {old : Text} (hlevel : d.tree.Level d₁.tree)
    (hwf : d.tree.WF) (hw : Disk.write p text d = .ok () d₁)
    (hs : ∀ s ∈ p.sibling?, d.tree.locate s ≠ d.tree.locate q)
    (hread : d.tree.readText q = .ok old) : ∃ new, d₁.tree.readText q = .ok new := by
  have hfile := FileTree.isFile?_of_readText hread
  have hleaves := leaves_of_write (.refl hwf) hw (d.tree.locate q)
  rcases hleaves.readable hlevel hread with hgone | ⟨-, hnew⟩
  · have hsome := hleaves.isSome (FileTree.isSome_file?_of_isFile? hfile) (by simpa using hs)
    rw [hlevel.isFile?_eq hfile, hsome] at hgone
    cases hgone
  · exact hnew

/-- A commit on its way: what is recorded can be put back, the files to come can be read, and at
the last path, `p`, nothing is found. -/
structure OnItsWay (t : FileTree) (done : List Written) (hosts : Changes) (p : Path) (d : Disk) :
    Prop where
  level : t.Level d.tree
  recorded : ∀ w ∈ done, w.2.isSome = true ∧ t.Takes w.1
  readable : ∀ w ∈ hosts, ∃ old, d.tree.readText w.1 = .ok old
  fresh : d.tree.exists? p = .ok false

/-- One more file is written. -/
theorem OnItsWay.next {q : Path} {hosts : Changes} {old : Text} {d₁ : Disk}
    (h : OnItsWay t done ((q, text) :: hosts) p d) (hfit : Fit t q)
    (hs : ∀ s ∈ q.sibling?, ∀ w ∈ hosts, t.locate s ≠ t.locate w.1)
    (hread : d.tree.readText q = .ok old) (hw : Disk.write q text d = .ok () d₁) :
    OnItsWay t ((q, some old) :: done) hosts p d₁ := by
  have hwf := h.level.sound.wf
  have hfile := FileTree.isFile?_of_readText hread
  have hlevel := level_of_write (.refl hwf) hfile hw
  have htakes := Disk.takes_of_write hwf (hfit.reaches.extends h.level.sound.keeps) hw
  refine ⟨h.level.trans hlevel, ?_, fun w hmem => ?_, ?_⟩
  · exact List.forall_mem_cons.2 ⟨⟨rfl, h.level.takes_iff.1 htakes⟩, h.recorded⟩
  · obtain ⟨now, hnow⟩ := h.readable w (List.mem_cons_of_mem _ hmem)
    refine readText_of_write hlevel hwf hw (fun s hq => ?_) hnow
    rw [h.level.sound.keeps.locate_eq, h.level.sound.keeps.locate_eq]
    exact hs s hq w hmem
  · refine hlevel.exists?_eq_false h.fresh fun hnone => ?_
    refine (leaves_of_write (.refl hwf) hw _).node?_eq_none hlevel (fun w hmem => ?_) hnone
    rw [List.mem_singleton.1 hmem]
    exact FileTree.isSome_file?_of_isFile? hfile

/-- If no replacement is refused in a rollback, a commit of host files and a new file fails only
with failures that are reported. -/
theorem isReported_of_writeAll {hosts : Changes} (h : OnItsWay t done hosts p d) (hp : Fit t p)
    (hhosts : ∀ w ∈ hosts, Fit t w.1)
    (hs : ∀ w ∈ hosts, ∀ s ∈ w.1.sibling?, ∀ w' ∈ hosts, t.locate s ≠ t.locate w'.1)
    (hspared : ∀ start ∈ rollBackStart? done (hosts ++ [(p, text)] : Changes) d,
      Spared start.1 start.2)
    (herror : writeAll done (hosts ++ [(p, text)] : Changes) d = .error e d') :
    e.isReported = true := by
  -- on the files to come, with what `OnItsWay` tells of those that were written
  induction hosts generalizing done d with
  | nil =>
    have hprev : previousText p d = .ok none d := by rw [previousText_apply, h.fresh]
    rcases isReported_or_writes h.level h.recorded hp hprev hspared herror with
      hrep | ⟨d₁, -, -, hend⟩
    · exact hrep
    · cases hend
  | cons w rest ih =>
    obtain ⟨q, new⟩ := w
    rw [List.cons_append, raw_cons] at hspared herror
    obtain ⟨hfit, hrest⟩ := List.forall_mem_cons.1 hhosts
    obtain ⟨old, hread⟩ := h.readable (q, new) List.mem_cons_self
    rcases isReported_or_writes h.level h.recorded hfit (previousText_of_readText hread) hspared
      herror with hrep | ⟨d₁, hw, hspared₁, herror₁⟩
    · exact hrep
    · have hnext := h.next hfit (fun s hq w hw => hs _ List.mem_cons_self s hq w
        (List.mem_cons_of_mem _ hw)) hread hw
      exact ih hnext hrest (fun w hw s hq w' hw' => hs w (List.mem_cons_of_mem _ hw) s hq w'
        (List.mem_cons_of_mem _ hw')) hspared₁ herror₁

end Changes

namespace Generation

variable {t : FileTree} {root p : Path} {v : Variant} {name : Text} {c : Changes}
  {s s' : Session} {e : Failure}

/-! ## Where files are looked for -/

/-- The paths of the files that are read when a variant is added: the exemplar and the host
files. -/
def consulted (root : Path) : List Path :=
  root.child Exemplar.standard.sourcePath :: Registry.standard.map fun e => root.child e.path

/-- The paths at which a file is looked for when a variant is added. -/
def probed (root : Path) (v : Variant) : List Path :=
  consulted root ++ [Exemplar.targetPath root Exemplar.standard.directory v]

theorem length_encode_of_isName (h : Variant.isName name = true) :
    (Utf8.encode name).length = name.length := by
  have hchar : ∀ c ∈ name, (Utf8.encodeChar c).length = 1 := fun c hc =>
    Variant.forall_isNameChar (fun c => (Utf8.encodeChar c).length = 1) (by decide)
      (Variant.isNameChar_of_mem h hc)
  rw [Utf8.encode, List.length_flatMap, List.map_congr_left hchar]
  simp

/-- The file of a variant with a name of at most 252 characters has a name that is not too long. -/
theorem isLong_fileName (h : Variant.isName v.name = true) (hlength : v.name.length ≤ 252) :
    FileTree.isLong (fileName v) = false := by
  have hcount : (Utf8.encode (fileName v)).length = v.name.length + 3 := by
    rw [fileName, Utf8.encode, List.flatMap_append, List.length_append]
    exact congrArg (· + 3) (length_encode_of_isName h)
  rw [FileTree.isLong, hcount]
  exact decide_eq_false (by simp only [FileTree.nameLimit]; omega)

/-- Files are looked for below the root, by short names. -/
theorem exists_names_of_probed (hname : Variant.isName v.name = true)
    (hlength : v.name.length ≤ 252) (hp : p ∈ probed root v) :
    ∃ names, (∀ name ∈ names, FileTree.isLong name = false) ∧
      p = { root with parts := root.parts ++ names } := by
  rcases List.mem_append.1 hp with hp | hp
  · rcases List.mem_cons.1 hp with rfl | hp
    · refine ⟨["src".toList, "op".toList, "sin.rs".toList], by decide, ?_⟩
      rw [child_sourcePath, List.append_assoc]
      rfl
    · obtain ⟨e, he, rfl⟩ := List.mem_map.1 hp
      have hshort : ∀ e ∈ Registry.standard, ∀ name ∈ (Path.ofText e.path).parts,
          FileTree.isLong name = false := by decide
      exact ⟨_, hshort e he, Path.child_eq (isPlain_of_mem_standard he).origin⟩
  · rw [List.mem_singleton.1 hp, targetPath_eq hname, List.append_assoc]
    refine ⟨["src".toList, "op".toList, fileName v], ?_, rfl⟩
    have hshort : ∀ name ∈ ["src".toList, "op".toList], FileTree.isLong name = false := by decide
    rw [List.forall_mem_cons, List.forall_mem_cons, List.forall_mem_singleton]
    exact ⟨hshort _ (by simp), hshort _ (by simp), isLong_fileName hname hlength⟩

/-- Whether a failure is that of looking for a file of the crate at a path that is too long. -/
def Overlong (root : Path) (v : Variant) (e : Failure) : Prop :=
  ∃ p ∈ probed root v, FileTree.isLongPath p = true ∧ e = .file (.refused .nameTooLong p)

theorem overlong_of_find?_eq_error {failure : FileError} (hname : Variant.isName v.name = true)
    (hlength : v.name.length ≤ 252) (hroot : t.isDirectory? root = .ok true)
    (hp : p ∈ probed root v) (h : t.find? p = .error failure) : Overlong root v (.file failure) := by
  obtain ⟨names, hshort, hparts⟩ := exists_names_of_probed hname hlength hp
  obtain ⟨hlong, rfl⟩ := FileTree.find?_below hroot hshort hparts h
  exact ⟨p, hp, hlong, rfl⟩

/-! ## Plans that cannot be made -/

theorem isReported_of_isRejection (h : e.isRejection = true) : e.isReported = true := by
  cases e <;> first | rfl | cases h

/-- What a tree must hold: a root, and texts in the files that are read. -/
structure Legible (t : FileTree) (root : Path) : Prop where
  directory : t.isDirectory? root = .ok true
  files : ∀ p ∈ consulted root, t.isFile? p = .ok true → ∃ text, t.readText p = .ok text

theorem isReported_or_overlong_of_insert (hv : Variant.derive name = .ok v)
    (hlength : v.name.length ≤ 252) (ht : Legible t root)
    (h : Insertion.insert t root Registry.standard v = .error e) :
    e.isReported = true ∨ Overlong root v e := by
  obtain ⟨g, hg, hnew⟩ := Insertion.exists_newText_of_insertGroups h
  obtain ⟨entry, he, rfl⟩ := Insertion.mem_groups.1 hg
  rw [filter_standard he] at hnew
  have hconsulted : root.child entry.path ∈ consulted root :=
    List.mem_cons_of_mem _ (List.mem_map_of_mem he)
  cases hfile : t.isFile? (root.child entry.path) with
  | error failure =>
    rw [Insertion.newText, hfile] at hnew
    cases hnew
    exact .inr (overlong_of_find?_eq_error (Variant.isName_of_derive hv) hlength ht.directory
      (List.mem_append_left _ hconsulted) (FileTree.find?_of_isFile?_eq_error hfile))
  | ok b =>
    have hreadable : Insertion.Readable t (root.child entry.path) := by
      cases b with
      | false => exact .inl hfile
      | true => exact .inr ⟨hfile, ht.files _ hconsulted hfile⟩
    refine .inl (isReported_of_isRejection
      (Insertion.isRejection_of_newText (fun e' he' => ?_) (fun e' he' => ?_) hreadable hnew)) <;>
      obtain rfl := List.mem_singleton.1 he'
    · exact Registry.stop_of_validate Registry.validate_standard he
    · exact ⟨_, Registry.render_standard he hv⟩

theorem isReported_or_overlong_of_instantiate (hname : Variant.isName v.name = true)
    (hlength : v.name.length ≤ 252) (ht : Legible t root)
    (h : Exemplar.standard.instantiate t root v = .error e) :
    e.isReported = true ∨ Overlong root v e := by
  unfold Exemplar.instantiate at h
  dsimp only at h
  cases hsource : t.isFile? (root.child Exemplar.standard.sourcePath) with
  | error failure =>
    rw [hsource] at h
    cases h
    exact .inr (overlong_of_find?_eq_error hname hlength ht.directory (List.mem_cons_self ..)
      (FileTree.find?_of_isFile?_eq_error hsource))
  | ok found =>
    rw [hsource] at h
    cases found with
    | false => cases h; exact .inl rfl
    | true =>
      simp only [Exemplar.question, bind, Except.bind, Bool.not_true, Bool.false_eq_true,
        if_false] at h
      split at h
      · cases h; exact .inl rfl
      cases htaken : t.exists? (Exemplar.targetPath root Exemplar.standard.directory v) with
      | error failure =>
        rw [htaken] at h
        cases h
        exact .inr (overlong_of_find?_eq_error hname hlength ht.directory (by simp [probed])
          (FileTree.find?_of_exists?_eq_error htaken))
      | ok taken =>
        rw [htaken] at h
        cases taken with
        | true => cases h; exact .inl rfl
        | false =>
          obtain ⟨text, hread⟩ := ht.files _ List.mem_cons_self hsource
          rw [hread] at h
          simp only [Bool.false_eq_true, if_false,
            Exemplar.render_template Exemplar.separate_standard.toPlain] at h
          cases h

/-- Where no plan can be made for a legible tree the failure is reported, or a path is too long. -/
theorem isReported_or_overlong_of_plan (hv : Variant.derive name = .ok v)
    (hlength : v.name.length ≤ 252) (ht : Legible s.disk.tree root)
    (h : plan root v Registry.standard s = .error e s') :
    e.isReported = true ∨ Overlong root v e := by
  obtain ⟨s₁, hplan⟩ := plan_of_validate root v s Registry.validate_standard
  rw [h] at hplan
  cases hins : Insertion.insert s.disk.tree root Registry.standard v with
  | error failure =>
    rw [hins] at hplan
    cases hplan
    exact isReported_or_overlong_of_insert hv hlength ht hins
  | ok registrations =>
    rw [hins] at hplan
    dsimp only at hplan
    cases hinst : Exemplar.standard.instantiate s.disk.tree root v with
    | error failure =>
      rw [hinst] at hplan
      cases hplan
      exact isReported_or_overlong_of_instantiate (Variant.isName_of_derive hv) hlength ht hinst
    | ok found => rw [hinst] at hplan; cases hplan

/-! ## Generations that fail -/

/-- If no replacement is refused in a rollback, a plan that cannot be committed is reported. -/
theorem isReported_of_commit {s₁ : Session} {d' : Disk} (hv : Variant.derive name = .ok v)
    (hwf : s.disk.tree.WF) (hplan : plan root v Registry.standard s = .ok c s₁)
    (hspared : c.SparesRollBack s.disk) (h : c.commit s.disk = .error e d') :
    e.isReported = true := by
  have hname := Variant.isName_of_derive hv
  have hplanned := planned_of_plan hplan
  obtain ⟨registrations, text, hins, -, rfl⟩ := plan_standard_eq_ok hplan
  have hhost (w : Path × Text) (hw : w ∈ registrations) :
      ∃ e ∈ Registry.standard, w.1 = root.child e.path :=
    (Insertion.host_of_insert hins (List.mem_map_of_mem hw)).1
  have hstart : Changes.OnItsWay s.disk.tree [] registrations
      (Exemplar.targetPath root Exemplar.standard.directory v) s.disk := by
    refine ⟨.refl hwf, by simp, fun w hw => ?_, hplanned.fresh⟩
    obtain ⟨e, he, heq⟩ := hhost w hw
    obtain ⟨-, old, -, hread, -⟩ := hplanned.hosts e he
    exact ⟨old, heq ▸ hread⟩
  have htarget : Changes.Fit s.disk.tree
      (Exemplar.targetPath root Exemplar.standard.directory v) := by
    refine ⟨hplanned.hasNull_target hname, ?_,
      hplanned.reachesDirectory hname (by simp [touched])⟩
    rw [targetPath_eq hname]
    exact List.concat_ne_nil _ _
  refine Changes.isReported_of_writeAll hstart htarget (fun w hw => ?_) (fun w hw q hq w' hw' => ?_)
    hspared h
  · obtain ⟨e, he, heq⟩ := hhost w hw
    exact heq ▸ Changes.fit_of_isFile? (parts_host_ne_nil he) (hplanned.hosts e he).1
  · obtain ⟨e, he, heq⟩ := hhost w' hw'
    exact heq ▸ locate_sibling_ne_host hq he

/-- **Reporting.** Let the root be a directory, let the files that are read hold texts, and let no
replacement be refused that a commit of the plan tries while it rolls back. If adding a variant with
a name of at most 252 characters to the crate fails, dry or not, the failure is reported; or a file
is looked for at a path that is too long for the system, and the disk is as it was. -/
theorem generate_reports (hv : Variant.derive name = .ok v) (hlength : name.length ≤ 252)
    (hwf : s.disk.tree.WF) (ht : Legible s.disk.tree root)
    (hspared : ∀ c s₁, plan root v Registry.standard s = .ok c s₁ → c.SparesRollBack s.disk)
    (dryRun : Bool) (h : generate root v Registry.standard dryRun s = .error e s') :
    e.isReported = true ∨ Overlong root v e ∧ s'.disk = s.disk := by
  obtain rfl : v.name = name := by
    obtain ⟨-, rfl⟩ := Variant.derive_eq_ok hv
    rfl
  have hplan (hp : plan root v Registry.standard s = .error e s') :
      e.isReported = true ∨ Overlong root v e ∧ s'.disk = s.disk :=
    (isReported_or_overlong_of_plan hv hlength ht hp).imp_right fun hlong =>
      ⟨hlong, ((talks_plan _ _ _ s).of_error (.refl s) hp).disk⟩
  cases dryRun with
  | true => exact hplan (generate_dry_eq_error_iff.1 h)
  | false =>
    rcases generate_eq_error_iff.1 h with h | ⟨c, s₁, d', hp, hcommit, -⟩
    · exact hplan (generate_dry_eq_error_iff.1 h)
    · exact .inl (isReported_of_commit hv hwf hp (hspared c s₁ hp) hcommit)

/-- A name that is just too long for the temporary sibling of its file: five host files are written
and restored, and only the replacement behind these ten is refused. -/
theorem generate_reports_long_name :
    let directory := fun names : List String => (names.map String.toList, Node.directory)
    let file := fun (names : List String) (text : String) =>
      (names.map String.toList, Node.file (Utf8.encode text.toList))
    let tree : FileTree := ⟨["w".toList], [
      directory ["w"], directory ["w", "src"], directory ["w", "src", "float"],
      directory ["w", "src", "ad"], directory ["w", "src", "op"],
      file ["w", "src", "float", "core.rs"] "// unary functions\n",
      file ["w", "src", "float", "az_float.rs"] "// unary functions\n",
      file ["w", "src", "float", "num_vec.rs"] "// unary functions\n",
      file ["w", "src", "ad", "float_core.rs"] "// unary functions\n",
      file ["w", "src", "op", "id.rs"] "// Unary Operators\n",
      file ["w", "src", "op", "sin.rs"] "sin"]⟩
    let s : Session := { disk := { tree, refused := [10] } }
    let root := Path.ofText "./".toList
    let name : Text := List.replicate 242 'f'
    let v : Variant := ⟨name, Text.upper name⟩
    Variant.derive name = .ok v ∧ name.length ≤ 252 ∧ tree.WF ∧ Legible tree root ∧
      (∀ c s₁, plan root v Registry.standard s = .ok c s₁ → c.SparesRollBack s.disk) ∧
      ∃ e s', generate root v Registry.standard false s = .error e s' ∧
        (e.isReported = true ∨ Overlong root v e ∧ s'.disk = s.disk) := by
  intro directory file tree s root name v
  have hv : Variant.derive name = .ok v := by decide +kernel
  have hlength : name.length ≤ 252 := by decide +kernel
  have hwf : tree.WF := FileTree.wf_of_nodes (by decide +kernel)
  have htexts : ∀ p ∈ consulted root, (tree.readText p).isOk = true := by decide +kernel
  have hlegible : Legible tree root := by
    refine ⟨by decide +kernel, fun p hp _ => ?_⟩
    have hok := htexts p hp
    cases hread : tree.readText p with
    | error e => rw [hread] at hok; cases hok
    | ok text => exact ⟨text, rfl⟩
  have hspares : (match plan root v Registry.standard s with
      | .ok c _ => decide (c.SparesRollBack s.disk)
      | .error _ _ => false) = true := by decide +kernel
  have hspared : ∀ c s₁, plan root v Registry.standard s = .ok c s₁ →
      c.SparesRollBack s.disk := by
    intro c s₁ hplan
    rw [hplan] at hspares
    exact of_decide_eq_true hspares
  have hfails : succeeds (generate root v Registry.standard false) s = false := by decide +kernel
  obtain ⟨e, s', hrun⟩ := not_succeeds_iff.1 hfails
  exact ⟨hv, hlength, hwf, hlegible, hspared, e, s', hrun,
    generate_reports hv hlength hwf hlegible hspared false hrun⟩

/-- Below a root that is there, but whose path is almost too long, no file can be looked for. -/
theorem generate_overlong_root :
    let name : Text := List.replicate 252 'a'
    let tree : FileTree := ⟨["w".toList], [(["w".toList], .directory),
      (["w".toList, name], .directory)]⟩
    let s : Session := { disk := { tree } }
    let root := Path.ofText (name ++ (List.replicate 15 ("/../".toList ++ name)).flatten)
    let cos : Variant := ⟨"cos".toList, "COS".toList⟩
    Variant.derive "cos".toList = .ok cos ∧ tree.WF ∧ Legible tree root ∧ s.disk.refused = [] ∧
      ∃ e s', generate root cos Registry.standard false s = .error e s' ∧
        e.isReported = false := by
  intro name tree s root cos
  have hwf : tree.WF := FileTree.wf_of_nodes (by decide +kernel)
  have hnone (l : Location) : tree.file? l = none := by
    unfold FileTree.file? FileTree.node?
    dsimp only [tree, List.lookup]
    split_ifs
    · rfl
    cases l == ["w".toList]
    · cases l == ["w".toList, name] <;> rfl
    · rfl
  have hlegible : Legible tree root := by
    refine ⟨by decide +kernel, fun p _ hfile => ?_⟩
    have hsome := FileTree.isSome_file?_of_isFile? hfile
    rw [hnone] at hsome
    cases hsome
  have hfails : (error? (generate root cos Registry.standard false) s).any (!·.isReported) =
      true := by decide +kernel
  obtain ⟨e, he, hrep⟩ := (Option.any_eq_true ..).1 hfails
  obtain ⟨s', hrun⟩ := error?_eq_some_iff.1 he
  exact ⟨by decide +kernel, hwf, hlegible, rfl, e, s', hrun, by simpa using hrep⟩

end Generation

end OpScaffold
