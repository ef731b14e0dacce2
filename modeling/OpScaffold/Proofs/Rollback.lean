import OpScaffold.Proofs.Commit

/-!
# OpScaffold.Proofs.Rollback

Commits that fail. What is recorded while a commit runs tells at every moment how to get the files
of its start back (`Undoable`), so a rollback of which no step fails gives them back
(`Undoable.rollBack`). A commit rolls back if the system refuses to write a file. It does not if it
cannot ask for the old text of a file, or cannot hand its path to the system, or cannot encode its
new text: then it breaks off and leaves the changes before that file behind
(`commit_failure_restores`).

Nothing is assumed of the paths: they may lead to the same places, through pairs of points, or to
the temporary siblings of others. The places at which a file may be lost are named (`Exposed`).
-/

namespace OpScaffold

open OpScaffold.Action

namespace Changes

variable {t : FileTree} {d d' : Disk} {p : Path} {raw : RawText} {c : Changes RawText}
  {done written : List Written} {l : Location} {files : Location → Option Bytes}

/-! ## Undoing what was recorded -/

/-- Files after all that was recorded is undone, the last record first. -/
def restored (t : FileTree) (done : List Written) (files : Location → Option Bytes) :
    Location → Option Bytes :=
  done.foldl (fun files w => Function.update files (t.locate w.1) (w.2.map Utf8.encode)) files

theorem restored_cons (w : Written) (rest : List Written) (files : Location → Option Bytes) :
    restored t (w :: rest) files =
      restored t rest (Function.update files (t.locate w.1) (w.2.map Utf8.encode)) := rfl

/-- What stood at another place, or at one that was recorded, does not count. -/
theorem restored_congr {files' : Location → Option Bytes}
    (h : l ∈ done.map (fun w => t.locate w.1) ∨ files l = files' l) :
    restored t done files l = restored t done files' l := by
  induction done generalizing files files' with
  | nil => simpa [restored] using h
  | cons w rest ih =>
    rw [restored_cons, restored_cons]
    by_cases hl : l = t.locate w.1
    · exact ih (.inr (by rw [hl, Function.update_self, Function.update_self]))
    · refine ih ?_
      rw [List.map_cons, List.mem_cons] at h
      rw [Function.update_of_ne hl, Function.update_of_ne hl]
      exact h.imp_left fun h => h.resolve_left hl

theorem restored_of_not_mem (h : l ∉ done.map fun w => t.locate w.1) :
    restored t done files l = files l := by
  induction done generalizing files with
  | nil => rfl
  | cons w rest ih =>
    rw [List.map_cons, List.mem_cons, not_or] at h
    rw [restored_cons, ih h.2, Function.update_of_ne h.1]

/-- Whether a commit may lose the file at a place: it is the place of a temporary sibling of one of
its paths, or that of a path which leads through a pair of points and whose directory is missing. -/
def Exposed (t : FileTree) (c : Changes RawText) (l : Location) : Prop :=
  ∃ w ∈ c, (∃ q ∈ w.1.sibling?, t.locate q = l) ∨
    FileTree.above ∈ w.1.parts ∧ ¬ t.ReachesDirectory w.1.parent ∧ t.locate w.1 = l

/-- Whether files are those of a tree, save that some may be gone from exposed places. -/
def Kept (t : FileTree) (c : Changes RawText) (files : Location → Option Bytes) : Prop :=
  ∀ l, files l = t.file? l ∨ Exposed t c l ∧ files l = none

/-- Taking away what stands at an exposed place does not stand in the way of undoing. -/
theorem Kept.clear (h : Kept t c (restored t done files)) (hl : Exposed t c l) :
    Kept t c (restored t done (Function.update files l none)) := by
  intro m
  by_cases hm : m ∈ done.map fun w => t.locate w.1
  · rw [restored_congr (.inl hm)]
    exact h m
  · by_cases hml : m = l
    · subst hml
      rw [restored_of_not_mem hm, Function.update_self]
      exact .inr ⟨hl, rfl⟩
    · rw [restored_congr (.inr (Function.update_of_ne hml _ _))]
      exact h m

/-- A text that is put in its place through an exposed sibling. -/
theorem Kept.clear_update {bytes : Option Bytes} {m : Location}
    (h : Kept t c (restored t done (Function.update files m bytes))) (hl : Exposed t c l) :
    Kept t c (restored t done (Function.update (Function.update files l none) m bytes)) := by
  by_cases hlm : l = m
  · rwa [hlm, Function.update_idem]
  · rw [Function.update_comm hlm]
    exact h.clear hl

/-! ## The run of a commit -/

/-- While a commit runs what is recorded gives the files of its start back. -/
structure Undoable (t : FileTree) (c : Changes RawText) (done : List Written) (d : Disk) :
    Prop where
  sound : t.Sound d.tree
  kept : Kept t c (restored t done d.tree.file?)

theorem exposed_sibling {q : Path} (hp : p ∈ c.map (·.1)) (hq : p.sibling? = some q) :
    Exposed t c (t.locate q) := by
  obtain ⟨w, hw, rfl⟩ := List.mem_map.1 hp
  exact ⟨w, hw, .inl ⟨q, hq, rfl⟩⟩

/-- What is recorded for a path is its text, or the path is exposed and nothing is recorded. -/
theorem exposed_of_previousText {previous : Option Text} (hd : t.Sound d.tree)
    (hp : p ∈ c.map (·.1)) (hnull : p.hasNull = false)
    (h : previousText p d = .ok previous d) :
    d.tree.file? (t.locate p) = previous.map Utf8.encode ∨
      Exposed t c (t.locate p) ∧ previous = none := by
  by_cases htells : Tells t p
  · exact .inl (files_of_previousText hd htells h hnull)
  · obtain ⟨-, ⟨-, rfl⟩ | ⟨-, text, ht, rfl⟩⟩ := previousText_eq_ok h
    · obtain ⟨w, hw, rfl⟩ := List.mem_map.1 hp
      have habove : FileTree.above ∈ w.1.parts := by
        by_contra hnot
        exact htells (tells_of_not_mem_above hnot)
      exact .inr
        ⟨⟨w, hw, .inr ⟨habove, fun hr => htells (tells_of_reachesDirectory hr), rfl⟩⟩, rfl⟩
    · rw [← hd.keeps.locate_eq, files_of_readText ht]
      exact .inl rfl

namespace Undoable

/-- One more file is written. -/
theorem write {previous : Option Text} (h : Undoable t c done d) (hp : p ∈ c.map (·.1))
    (hprev : previousText p d = .ok previous d) (hw : Disk.write p raw d = .ok () d') :
    Undoable t c ((p, previous) :: done) d' := by
  obtain ⟨text, rfl⟩ := Disk.text_of_write hw
  refine ⟨(Disk.preserves_sound_write t p text).of_ok h.sound hw, ?_⟩
  obtain ⟨hnull, q, hq, hf⟩ := Disk.files_of_write hw
  rw [h.sound.keeps.locate_eq, h.sound.keeps.locate_eq] at hf
  rw [restored_cons, hf, Function.update_idem]
  refine Kept.clear_update ?_ (exposed_sibling hp hq)
  rcases exposed_of_previousText h.sound hp hnull hprev with hf | ⟨hexp, rfl⟩
  · rw [← hf, Function.update_eq_self]
    exact h.kept
  · exact h.kept.clear hexp

/-- A write that the system refuses. -/
theorem failedWrite {e : FileError} (h : Undoable t c done d) (hp : p ∈ c.map (·.1))
    (hw : Disk.write p raw d = .error e d') (hsys : e.isFromSystem = true) :
    Undoable t c done d' := by
  refine ⟨(Disk.preserves_sound_write t p raw).of_error h.sound hw, ?_⟩
  have he := FileError.isUnencodable_of_isFromSystem hsys
  rcases (Disk.fails_of_write hw).files_cases he with hf | ⟨q, hq, hf⟩
  · rw [hf]
    exact h.kept
  · rw [hf, h.sound.keeps.locate_eq]
    exact h.kept.clear (exposed_sibling hp hq)

/-- The last record is undone. -/
theorem undo {w : Written} (h : Undoable t c (w :: done) d) (hp : w.1 ∈ c.map (·.1))
    (hu : Changes.undo w d = .ok () d') : Undoable t c done d' := by
  refine ⟨(preserves_sound_undo t w).of_ok h.sound hu, ?_⟩
  have hkept := h.kept
  rw [restored_cons] at hkept
  obtain ⟨path, _ | text⟩ := w
  · rw [Changes.undo, onDisk_apply, Disk.change_apply] at hu
    cases hun : d.tree.unlink path with
    | error e => rw [hun] at hu; cases hu
    | ok tree =>
      rw [hun] at hu
      cases hu
      obtain ⟨hslot, -, rfl⟩ := FileTree.unlink_eq_ok hun
      rw [FileTree.file?_erase hslot.ne_nil, h.sound.keeps.locate_eq]
      exact hkept
  · rw [Changes.undo, onDisk_apply] at hu
    cases hw : Disk.write path text d with
    | error e d₁ => rw [hw] at hu; cases hu
    | ok _ d₁ =>
      rw [hw] at hu
      cases hu
      obtain ⟨-, q, hq, hf⟩ := Disk.files_of_write hw
      rw [hf, h.sound.keeps.locate_eq, h.sound.keeps.locate_eq]
      exact hkept.clear_update (exposed_sibling hp hq)

/-- A rollback of which no step fails gives the files of the start back. -/
theorem rollBack (h : Undoable t c done d) (hp : ∀ w ∈ done, w.1 ∈ c.map (·.1))
    (hr : Changes.rollBack done d = .ok () d') : Kept t c d'.tree.file? := by
  induction done generalizing d with
  | nil => cases hr; exact h.kept
  | cons w rest ih =>
    obtain ⟨_, d₁, hu, hr⟩ := bind_eq_ok.1 hr
    exact ih (h.undo (hp w List.mem_cons_self) hu)
      (fun w' hw' => hp w' (List.mem_cons_of_mem _ hw')) hr

/-- What is recorded while some changes are written gives the files back. -/
theorem writeAll {before : Changes RawText} (h : Undoable t c done d) (hsub : before ⊆ c)
    (hw : Changes.writeAll done before d = .ok written d') :
    Undoable t c written.reverse d' := by
  induction before generalizing done d with
  | nil => cases hw; rwa [List.reverse_reverse]
  | cons w rest ih =>
    obtain ⟨p, raw⟩ := w
    rw [List.cons_subset] at hsub
    obtain ⟨previous, d₁, hprev, hwrite, hw⟩ := writeAll_cons_eq_ok_iff.1 hw
    exact ih (h.write (List.mem_map_of_mem hsub.1) hprev hwrite) hsub.2 hw

end Undoable

/-! ## How a commit fails -/

/-- Whether a commit cannot take over the file at a path: it cannot ask for what is there, or cannot
read it, or the path cannot be handed to the system. -/
def Unfit (t : FileTree) (p : Path) : Prop :=
  p.hasNull = true ∨ p.parts = [] ∨ (∃ e, t.exists? p = .error e) ∨
    t.exists? p = .ok true ∧ ∃ e, t.readText p = .error e

theorem unfit_of_previousText {e : Failure} (h : previousText p d = .error e d') :
    Unfit d.tree p := by
  obtain ⟨-, ⟨e', hx, -⟩ | ⟨hx, ht⟩⟩ := previousText_eq_error h
  · exact .inr (.inr (.inl ⟨e', hx⟩))
  · exact .inr (.inr (.inr ⟨hx, e, ht⟩))

/-- How a commit breaks off at a change, with the changes before it left as they are. -/
inductive BreaksOff (t : FileTree) (p : Path) (raw : RawText) (e : Failure) (t' : FileTree) : Prop
  /-- The path is unfit; no file is touched any more. -/
  | unfit (hp : Unfit t p) (hf : t'.file? = t.file?)
  /-- The text cannot be encoded; its temporary sibling is left empty. -/
  | unencodable {e' : Utf8.EncodeError} {q : Path} (hraw : Utf8.encodeRaw raw = .error e')
    (he : e = .file (.unencodable e')) (hq : p.sibling? = some q)
    (hf : t'.file? = Function.update t.file? (t.locate q) (some []))

/-- A write that fails without the system breaks a commit off. -/
theorem breaksOff_of_write {e : FileError} (hw : Disk.write p raw d = .error e d')
    (hsys : ¬ e.isFromSystem = true) : BreaksOff d.tree p raw (.file e) d'.tree := by
  cases Disk.fails_of_write hw with
  | refused h => exact absurd h hsys
  | nullCharacter hp hf => exact .unfit (.inl hp) hf
  | noName hp hf => exact .unfit (.inr (.inl hp)) hf
  | unencodable hraw hq hf => exact .unencodable hraw rfl hq hf

/-- Whether no step fails in the rollback that a commit calls for. -/
def RollsBack (c : Changes RawText) (d : Disk) : Prop :=
  ∀ start ∈ rollBackStart? [] c d, succeeds (rollBack start.1) start.2 = true

instance (c : Changes RawText) (d : Disk) : Decidable (RollsBack c d) :=
  inferInstanceAs (Decidable (∀ start ∈ rollBackStart? [] c d, _))

theorem RollsBack.not_error {before later : Changes RawText} {d₁ d₂ d₃ : Disk}
    {previous : Option Text} {e : FileError} {e' : Failure}
    (h : RollsBack (before ++ (p, raw) :: later) d) (hbefore : commit before d = .ok written d₁)
    (hprev : previousText p d₁ = .ok previous d₁) (hw : Disk.write p raw d₁ = .error e d₂)
    (hsys : e.isFromSystem = true) : rollBack written.reverse d₂ ≠ .error e' d₃ := by
  have hstart : rollBackStart? [] (before ++ (p, raw) :: later) d = some (written.reverse, d₂) := by
    rw [rollBackStart?_append hbefore, rollBackStart?, hprev]
    dsimp only
    rw [hw]
    dsimp only
    rw [if_pos hsys]
  obtain ⟨_, d₄, hok⟩ := succeeds_iff.1 (h _ hstart)
  dsimp only at hok
  rw [hok]
  simp

/-- **All or nothing.** A commit that fails, with no step of its rollback failing, leaves every file
as it was, whichever step of whichever write the system refused; only from exposed places a file may
be gone. The exception is a commit that breaks off at a path that it cannot take over, or at a text
that it cannot encode: there the changes before it stay written, and nothing is undone. -/
theorem commit_failure_restores (s : Session) (c : Changes RawText) (hwf : s.disk.tree.WF)
    (hroll : RollsBack c s.disk) {e : Failure} {s' : Session}
    (h : Generation.commit c false s = .error e s') :
    let t := s.disk.tree
    (∀ l, s'.disk.tree.file? l = t.file? l ∨ Exposed t c l ∧ s'.disk.tree.file? l = none) ∨
    ∃ before p raw later written d₁, c = before ++ (p, raw) :: later ∧
      commit before s.disk = .ok written d₁ ∧ BreaksOff d₁.tree p raw e s'.disk.tree := by
  intro t
  have hc : commit c s.disk = .error e s'.disk := by
    rcases Generation.commit_cases c s with ⟨_, _, -, hrun⟩ | ⟨_, _, hc, hrun⟩
    · rw [h] at hrun
      cases hrun
    · rw [h] at hrun
      cases hrun
      exact hc
  obtain ⟨before, p, raw, later, written, d₁, rfl, hbefore, hs⟩ := stops_of_writeAll hc
  generalize hd' : s'.disk = d' at hs ⊢
  cases hs with
  | unread hprev =>
    exact .inr ⟨before, p, raw, later, written, _, rfl, hbefore,
      .unfit (unfit_of_previousText hprev) rfl⟩
  | unwritten hw hsys =>
    exact .inr ⟨before, p, raw, later, written, d₁, rfl, hbefore, breaksOff_of_write hw hsys⟩
  | notUndone hprev hw hsys hr => exact absurd hr (hroll.not_error hbefore hprev hw hsys)
  | undone _ hw hsys hr =>
    have hstart : Undoable t (before ++ (p, raw) :: later) [] s.disk :=
      ⟨.refl hwf, fun _ => .inl rfl⟩
    have hwritten := hstart.writeAll (List.subset_append_left _ _) hbefore
    have hundo := hwritten.failedWrite (by simp) hw hsys
    exact .inl (hundo.rollBack (mem_paths_of_commit hbefore _) hr)

/-- One file under two paths is written twice before a third write is refused: both writes are
undone, the last one first. -/
theorem commit_failure_restores_twice_written :
    let tree : FileTree := ⟨["w".toList], [(["w".toList], .directory),
      (["w".toList, "src".toList], .directory),
      (["w".toList, "a.rs".toList], .file (Utf8.encode "old".toList))]⟩
    let s : Session := { disk := { tree, refused := [2] } }
    let c : Changes RawText := [(Path.ofText "a.rs".toList, Text.raw "new".toList),
      (Path.ofText "src/../a.rs".toList, Text.raw "newer".toList), (Path.ofText "b.rs".toList, [])]
    tree.WF ∧ RollsBack c s.disk ∧ ∃ e s', Generation.commit c false s = .error e s' ∧
      ((∀ l, s'.disk.tree.file? l = tree.file? l ∨
          Exposed tree c l ∧ s'.disk.tree.file? l = none) ∨
        ∃ before p raw later written d₁, c = before ++ (p, raw) :: later ∧
          commit before s.disk = .ok written d₁ ∧ BreaksOff d₁.tree p raw e s'.disk.tree) := by
  intro tree s c
  have hwf : tree.WF := FileTree.wf_of_nodes (by decide)
  have hroll : RollsBack c s.disk := by decide +kernel
  have hfails : succeeds (Generation.commit c false) s = false := by decide +kernel
  obtain ⟨e, s', hrun⟩ := not_succeeds_iff.1 hfails
  exact ⟨hwf, hroll, e, s', hrun, commit_failure_restores s c hwf hroll hrun⟩

/-- A directory stands where a file is to be written: the commit fails, and the file before it
keeps its new text. -/
theorem commit_breaks_off_at_directory :
    let tree : FileTree := ⟨["w".toList], [(["w".toList], .directory),
      (["w".toList, "d".toList], .directory),
      (["w".toList, "a.rs".toList], .file (Utf8.encode "old\n".toList))]⟩
    let s : Session := { disk := { tree } }
    let c : Changes RawText := [(Path.ofText "a.rs".toList, Text.raw "new\n".toList),
      (Path.ofText "d".toList, Text.raw "text\n".toList)]
    tree.WF ∧ RollsBack c s.disk ∧ ¬ Exposed tree c ["w".toList, "a.rs".toList] ∧ ∃ e s',
      Generation.commit c false s = .error e s' ∧
      tree.file? ["w".toList, "a.rs".toList] = some (Utf8.encode "old\n".toList) ∧
      s'.disk.tree.file? ["w".toList, "a.rs".toList] = some (Utf8.encode "new\n".toList) := by
  intro tree s c
  have hwf : tree.WF := FileTree.wf_of_nodes (by decide)
  have hroll : RollsBack c s.disk := by decide +kernel
  have hexposed : ¬ Exposed tree c ["w".toList, "a.rs".toList] := by
    rintro ⟨w, hw, ⟨q, hq, hl⟩ | ⟨habove, -⟩⟩
    · have hne : ∀ w ∈ c, ∀ q ∈ w.1.sibling?,
          tree.locate q ≠ ["w".toList, "a.rs".toList] := by decide
      exact hne w hw q hq hl
    · have hplain : ∀ w ∈ c, FileTree.above ∉ w.1.parts := by decide
      exact hplain w hw habove
  have hfails : succeeds (Generation.commit c false) s = false := by decide +kernel
  have hfile : (after (Generation.commit c false) s).disk.tree.file? ["w".toList, "a.rs".toList] =
      some (Utf8.encode "new\n".toList) := by decide +kernel
  obtain ⟨e, s', hrun⟩ := not_succeeds_iff.1 hfails
  rw [after_of_error hrun] at hfile
  exact ⟨hwf, hroll, hexposed, e, s', hrun, by decide, hfile⟩

end Changes

end OpScaffold
