import Mathlib.Data.List.Induction
import Mathlib.Data.List.Nodup
import OpScaffold.Changes
import OpScaffold.Proofs.Files.Disk
import OpScaffold.Proofs.Text.Utf8

/-!
# OpScaffold.Proofs.Changes

A commit writes all files or none. While it runs, the files are those of the tree at its start
with the texts of the first changes written over them (`Progress`), and what is to be undone is
recorded beside them. A commit fails at the first change that it cannot carry out, in one of four
ways (`Stops`). So a commit that ends well has written everything, one that is reported to have
failed has undone everything, and one that breaks off leaves each file either as it was or with its
whole new text; only a raw text that cannot be encoded leaves an empty temporary sibling as well
(`commit_ends`). Into directories that are there a commit makes no others (`level_commit`).
-/

namespace OpScaffold

open OpScaffold.Action

/-- Whether a failure is that of a text that cannot be encoded. -/
def Failure.isUnencodable : Failure → Bool
  | .file e => e.isUnencodable
  | _ => false

namespace Changes

variable {t t₀ : FileTree} {d d' : Disk} {p : Path} {text : Text} {raw : RawText}

/-- The files of a tree with texts written over them, one after another. -/
def overwritten (t : FileTree) (c : Changes) : Location → Option Bytes :=
  c.foldl (fun files w => Function.update files (t.locate w.1) (some (Utf8.encode w.2))) t.file?

theorem overwritten_concat (t : FileTree) (c : Changes) (p : Path) (text : Text) :
    overwritten t (c ++ [(p, text)]) =
      Function.update (overwritten t c) (t.locate p) (some (Utf8.encode text)) := by
  simp [overwritten]

/-- A place to which no path of the later changes leads holds what the earlier ones wrote. -/
theorem overwritten_append_of_not_mem (c later : Changes) {l : Location}
    (h : l ∉ later.map fun w => t.locate w.1) :
    overwritten t (c ++ later) l = overwritten t c l := by
  induction later using List.reverseRecOn with
  | nil => simp
  | append_singleton later w ih =>
    rw [List.map_append, List.mem_append, not_or] at h
    rw [← List.append_assoc, overwritten_concat, Function.update_of_ne (by simpa using h.2),
      ih h.1]

theorem overwritten_of_not_mem (c : Changes) {l : Location}
    (h : l ∉ c.map fun w => t.locate w.1) : overwritten t c l = t.file? l :=
  overwritten_append_of_not_mem [] c h

/-- Where all paths lead to different places, each file holds its text. -/
theorem overwritten_of_mem {c : Changes} (hc : (c.map fun w => t.locate w.1).Nodup)
    (h : (p, text) ∈ c) : overwritten t c (t.locate p) = some (Utf8.encode text) := by
  obtain ⟨before, later, rfl⟩ := List.append_of_mem h
  have hlater : t.locate p ∉ later.map fun w => t.locate w.1 := by
    rw [List.map_append, List.map_cons] at hc
    exact (List.nodup_cons.1 (List.nodup_append.1 hc).2.1).1
  rw [List.append_cons, overwritten_append_of_not_mem _ _ hlater, overwritten_concat,
    Function.update_self]

/-! ## Paths of a commit -/

/-- Whether asking at a path tells in `t`, and still does when directories are added, that no file
stands there. -/
def Tells (t : FileTree) (p : Path) : Prop :=
  ∀ t', t.Sound t' → p.hasNull = false → t'.exists? p = .ok false → t'.file? (t.locate p) = none

theorem tells_of_not_mem_above (hp : FileTree.above ∉ p.parts) : Tells t p := by
  intro t' h hnull hx
  have hn := h.wf.node?_of_exists?_eq_false hp hnull hx
  rw [h.keeps.locate_eq] at hn
  rw [FileTree.file?, hn]

theorem tells_of_reachesDirectory (hp : t.ReachesDirectory p.parent) : Tells t p := by
  intro t' h hnull hx
  have hn := FileTree.node?_of_exists?_eq_false (hp.extends h.keeps) hnull hx
  rw [h.keeps.locate_eq] at hn
  rw [FileTree.file?, hn]

/-- Paths that lead to different places, of which none is that of a temporary sibling, and beside
which no such sibling stands. -/
structure Apart (t : FileTree) (paths : List Path) : Prop where
  distinct : (paths.map t.locate).Nodup
  siblings : ∀ p ∈ paths, ∀ s, p.sibling? = some s →
    t.file? (t.locate s) = none ∧ t.locate s ∉ paths.map t.locate
  tells : ∀ p ∈ paths, Tells t p

theorem Apart.nodup_locations {c : Changes} (h : Apart t (c.map (·.1))) :
    (c.map fun w => t.locate w.1).Nodup := by
  have hd := h.distinct
  rwa [List.map_map] at hd

/-! ## Single steps -/

theorem onDisk_apply {α : Type} (action : Disk.Action α) (d : Disk) :
    onDisk action d = (match action d with
      | .ok a d' => .ok a d'
      | .error e d' => .error (.file e) d') := rfl

theorem preserves_onDisk {I : Disk → Prop} {α : Type} {action : Disk.Action α}
    (h : Preserves I action) : Preserves I (onDisk action) := by
  intro d hd
  have hd' := h d hd
  rw [after, onDisk_apply]
  rw [after] at hd'
  cases ha : action d <;> rw [ha] at hd' <;> exact hd'

theorem failsOnly_onDisk {E : Failure → Prop} {α : Type} {action : Disk.Action α}
    (h : FailsOnly (fun e => E (.file e)) action) : FailsOnly E (onDisk action) := by
  intro d e d' hd
  rw [onDisk_apply] at hd
  cases ha : action d with
  | ok a d₁ => rw [ha] at hd; cases hd
  | error e₁ d₁ => rw [ha] at hd; cases hd; exact h d e₁ d' ha

/-- A text that is read is that of the file to which the path leads. -/
theorem files_of_readText {text : Text} (h : t.readText p = .ok text) :
    t.file? (t.locate p) = some (Utf8.encode text) := by
  unfold FileTree.readText at h
  split at h
  · cases h
  · next bytes hb =>
    split at h
    · cases h
    · next text' ht =>
      cases h
      rw [Utf8.encode_of_decode ht]
      exact FileTree.read_eq_ok hb

theorem previousText_apply (path : Path) (d : Disk) :
    previousText path d = (match d.tree.exists? path with
      | .error e => .error (.file e) d
      | .ok false => .ok none d
      | .ok true => match d.tree.readText path with
        | .error e => .error e d
        | .ok text => .ok (some text) d) := by
  unfold previousText
  rw [get_bind, bind_apply, onDisk_apply, Disk.ask_apply]
  cases d.tree.exists? path with
  | error e => rfl
  | ok b =>
    cases b with
    | false => rfl
    | true => cases d.tree.readText path <;> rfl

/-- The text that is told is that of the file, if one is found. -/
theorem previousText_eq_ok {previous : Option Text} (h : previousText p d = .ok previous d') :
    d' = d ∧ (d.tree.exists? p = .ok false ∧ previous = none ∨
      d.tree.exists? p = .ok true ∧ ∃ text, d.tree.readText p = .ok text ∧ previous = some text) := by
  rw [previousText_apply] at h
  cases hx : d.tree.exists? p with
  | error e => rw [hx] at h; cases h
  | ok b =>
    rw [hx] at h
    cases b with
    | false => cases h; exact ⟨rfl, .inl ⟨rfl, rfl⟩⟩
    | true =>
      dsimp only at h
      cases ht : d.tree.readText p with
      | error e => rw [ht] at h; cases h
      | ok text => rw [ht] at h; cases h; exact ⟨rfl, .inr ⟨rfl, text, rfl, rfl⟩⟩

/-- No text is told where a file cannot be looked for, or cannot be read. -/
theorem previousText_eq_error {e : Failure} (h : previousText p d = .error e d') :
    d' = d ∧ ((∃ e', d.tree.exists? p = .error e' ∧ e = .file e') ∨
      d.tree.exists? p = .ok true ∧ d.tree.readText p = .error e) := by
  rw [previousText_apply] at h
  cases hx : d.tree.exists? p with
  | error e' => rw [hx] at h; cases h; exact ⟨rfl, .inl ⟨e', rfl, rfl⟩⟩
  | ok b =>
    rw [hx] at h
    cases b with
    | false => cases h
    | true =>
      dsimp only at h
      cases ht : d.tree.readText p with
      | ok text => rw [ht] at h; cases h
      | error e' => rw [ht] at h; cases h; exact ⟨rfl, .inr ⟨rfl, rfl⟩⟩

/-- A failure to tell the text of a file is not one that is reported. -/
theorem failsOnly_previousText (p : Path) :
    FailsOnly (fun e => e.isReported = false ∧ e.isUnencodable = false) (previousText p) := by
  intro d e d' h
  obtain ⟨-, ⟨e', hx, rfl⟩ | ⟨-, ht⟩⟩ := previousText_eq_error h
  · exact ⟨rfl, FileError.isUnencodable_of_isFromSystem (Disk.isFromSystem_of_exists? hx)⟩
  · unfold FileTree.readText at ht
    split at ht
    · next e' hr => cases ht; exact ⟨rfl, (Disk.refuses_of_read hr).isUnencodable⟩
    · split at ht <;> cases ht
      exact ⟨rfl, rfl⟩

/-- The text that is told is that of the file there, if there is one. -/
theorem files_of_previousText {previous : Option Text} (hd : t₀.Sound d.tree) (hp : Tells t₀ p)
    (h : previousText p d = .ok previous d') (hnull : p.hasNull = false) :
    d.tree.file? (t₀.locate p) = previous.map Utf8.encode := by
  obtain ⟨-, ⟨hx, rfl⟩ | ⟨-, text, ht, rfl⟩⟩ := previousText_eq_ok h
  · exact hp _ hd hnull hx
  · rw [← hd.keeps.locate_eq, files_of_readText ht]
    rfl

/-- An invariant of writing and removing a file is one of undoing what was written there. -/
theorem preserves_undo {I : Disk → Prop} {w : Written}
    (hw : ∀ text : Text, Preserves I (Disk.write w.1 text))
    (hu : Preserves I (Disk.change (·.unlink w.1))) : Preserves I (undo w) := by
  obtain ⟨path, _ | text⟩ := w
  · exact preserves_onDisk hu
  · exact preserves_onDisk (hw text)

theorem preserves_sound_undo (t₀ : FileTree) (w : Written) :
    Preserves (fun d => t₀.Sound d.tree) (undo w) :=
  preserves_undo (fun text => Disk.preserves_sound_write t₀ w.1 text)
    (Disk.preserves_sound fun _ _ => FileTree.sound_unlink)

/-- What is written again is a text. -/
theorem failsOnly_undo (w : Written) : FailsOnly (fun e => e.isUnencodable = false) (undo w) := by
  obtain ⟨path, _ | text⟩ := w
  · exact failsOnly_onDisk (Disk.failsOnly_change fun _ _ h =>
      (Disk.refuses_of_unlink h).isUnencodable)
  · exact failsOnly_onDisk fun _ _ _ h => Disk.isUnencodable_of_write h

/-- Undoing gives a file its text before, or changes no file. -/
theorem files_after_undo {w : Written} (hd : t₀.Sound d.tree)
    (hs : ∀ s, w.1.sibling? = some s → d.tree.file? (t₀.locate s) = none) :
    (∃ d', undo w d = .ok () d' ∧ d'.tree.file? =
      Function.update d.tree.file? (t₀.locate w.1) (w.2.map Utf8.encode)) ∨
    ∃ e d', undo w d = .error (.file e) d' ∧ d'.tree.file? = d.tree.file? := by
  obtain ⟨path, _ | text⟩ := w
  · rw [undo, onDisk_apply, Disk.change_apply]
    cases hu : d.tree.unlink path with
    | ok tree =>
      obtain ⟨hslot, -, rfl⟩ := FileTree.unlink_eq_ok hu
      refine .inl ⟨_, rfl, ?_⟩
      exact (FileTree.file?_erase hslot.ne_nil).trans (by rw [hd.keeps.locate_eq]; rfl)
    | error e => exact .inr ⟨e, d, rfl, rfl⟩
  · rw [undo, onDisk_apply]
    have hs' : ∀ s, path.sibling? = some s → d.tree.file? (d.tree.locate s) = none :=
      fun s h => by rw [hd.keeps.locate_eq]; exact hs s h
    cases hw : Disk.write path text d with
    | ok _ d' =>
      refine .inl ⟨d', rfl, ?_⟩
      rw [(Disk.files_of_write_eq_ok hs' hw).2, hd.keeps.locate_eq]
      rfl
    | error e d' => exact .inr ⟨e, d', rfl, Disk.files_of_write_eq_error hs' hw⟩

/-! ## Rolling back -/

theorem failsOnly_rollBack (done : List Written) :
    FailsOnly (fun e => e.isUnencodable = false) (rollBack done) := by
  induction done with
  | nil => exact .pure _
  | cons w rest ih => exact (failsOnly_undo w).bind fun _ => ih

/-- An invariant of undoing what was recorded, one file after another. -/
theorem preserves_rollBack {I : Disk → Prop} {done : List Written}
    (h : ∀ w ∈ done, Preserves I (undo w)) : Preserves I (rollBack done) := by
  induction done with
  | nil => exact .pure _
  | cons w rest ih =>
    rw [List.forall_mem_cons] at h
    exact h.1.bind fun _ => ih h.2

/-- Rolling back gives all recorded files their contents in `t₀`. Where it fails each file has its
contents in `t₀` or those of before. -/
theorem files_after_rollBack {done : List Written} (hd : t₀.Sound d.tree)
    (hrec : ∀ w ∈ done, t₀.file? (t₀.locate w.1) = w.2.map Utf8.encode)
    (hs : ∀ w ∈ done, ∀ s, w.1.sibling? = some s → d.tree.file? (t₀.locate s) = none ∧
      t₀.locate s ∉ done.map fun w => t₀.locate w.1) :
    (∃ d', rollBack done d = .ok () d' ∧
      (∀ l ∈ done.map fun w => t₀.locate w.1, d'.tree.file? l = t₀.file? l) ∧
      ∀ l ∉ done.map fun w => t₀.locate w.1, d'.tree.file? l = d.tree.file? l) ∨
    ∃ e d', rollBack done d = .error (.file e) d' ∧
      ∀ l, d'.tree.file? l = d.tree.file? l ∨ d'.tree.file? l = t₀.file? l := by
  induction done generalizing d with
  | nil => exact .inl ⟨d, rfl, by simp, fun _ _ => rfl⟩
  | cons w rest ih =>
    rw [rollBack, bind_apply]
    rcases files_after_undo hd (fun s h => (hs w List.mem_cons_self s h).1) with
      ⟨d₁, hu, hf⟩ | ⟨e, d₁, hu, hf⟩
    · rw [hu]
      rw [← hrec w List.mem_cons_self] at hf
      have hd₁ : t₀.Sound d₁.tree := (preserves_sound_undo t₀ w).of_ok hd hu
      have hs₁ : ∀ w' ∈ rest, ∀ s, w'.1.sibling? = some s → d₁.tree.file? (t₀.locate s) = none ∧
          t₀.locate s ∉ rest.map fun w => t₀.locate w.1 := by
        intro w' hw' s h
        obtain ⟨hnone, hnot⟩ := hs w' (List.mem_cons_of_mem _ hw') s h
        rw [List.map_cons, List.mem_cons, not_or] at hnot
        rw [hf, Function.update_of_ne hnot.1]
        exact ⟨hnone, hnot.2⟩
      rcases ih hd₁ (fun w' hw' => hrec w' (List.mem_cons_of_mem _ hw')) hs₁ with
        ⟨d', hr, hin, hout⟩ | ⟨e, d', hr, hl⟩
      · refine .inl ⟨d', hr, fun l hl => ?_, fun l hl => ?_⟩
        · by_cases hrest : l ∈ rest.map fun w => t₀.locate w.1
          · exact hin l hrest
          · have heq : l = t₀.locate w.1 := (List.mem_cons.1 hl).resolve_right hrest
            rw [hout l hrest, hf, heq, Function.update_self]
        · rw [List.map_cons, List.mem_cons, not_or] at hl
          rw [hout l hl.2, hf, Function.update_of_ne hl.1]
      · refine .inr ⟨e, d', hr, fun l => ?_⟩
        by_cases heq : l = t₀.locate w.1
        · subst heq
          rcases hl (t₀.locate w.1) with h | h
          · exact .inr (by rw [h, hf, Function.update_self])
          · exact .inr h
        · have h := hl l
          rwa [hf, Function.update_of_ne heq] at h
    · rw [hu]
      exact .inr ⟨e, d₁, rfl, fun l => .inl (by rw [hf])⟩

/-! ## The run of a commit -/

section Run

variable {done written : List Written} {later c : Changes RawText} {e : Failure}

/-- Only the first change that fails ends a commit; then what was written before is undone. -/
theorem writeAll_cons (done : List Written) (p : Path) (raw : RawText) (later : Changes RawText)
    (d : Disk) :
    writeAll done ((p, raw) :: later) d = (match previousText p d with
      | .error e d₁ => .error e d₁
      | .ok previous d₁ => match Disk.write p raw d₁ with
        | .ok () d₂ => writeAll ((p, previous) :: done) later d₂
        | .error e d₂ =>
          if e.isFromSystem then
            match rollBack done d₂ with
            | .ok () d₃ => .error (.notWritten p e done.length) d₃
            | .error e' d₃ => .error e' d₃
          else .error (.file e) d₂) := by
  rw [writeAll, bind_apply]
  cases previousText p d with
  | error e d₁ => rfl
  | ok previous d₁ =>
    dsimp only
    rw [get_bind]
    cases Disk.write p raw d₁ with
    | ok _ d₂ => rfl
    | error e d₂ =>
      dsimp only
      cases e.isFromSystem with
      | false => rfl
      | true =>
        change (do rollBack done; throw (.notWritten p e done.length) : Commit (List Written)) d₂ = _
        rw [bind_apply]
        cases rollBack done d₂ <;> rfl

/-- How a commit ends at a change that it cannot carry out: `d` is the disk behind the changes
before that one, and `done` what is recorded of them. -/
inductive Stops (done : List Written) (p : Path) (raw : RawText) (d : Disk) : Failure → Disk → Prop
  /-- The text of the file before cannot be told. -/
  | unread {e : Failure} (hprev : previousText p d = .error e d) : Stops done p raw d e d
  /-- The system refuses to write the file, and everything is undone. -/
  | undone {previous : Option Text} {e : FileError} {d₁ d₂ : Disk}
    (hprev : previousText p d = .ok previous d) (hw : Disk.write p raw d = .error e d₁)
    (hsys : e.isFromSystem = true) (hr : rollBack done d₁ = .ok () d₂) :
    Stops done p raw d (.notWritten p e done.length) d₂
  /-- The system refuses to write the file, and undoing fails as well. -/
  | notUndone {previous : Option Text} {e : FileError} {e' : Failure} {d₁ d₂ : Disk}
    (hprev : previousText p d = .ok previous d) (hw : Disk.write p raw d = .error e d₁)
    (hsys : e.isFromSystem = true) (hr : rollBack done d₁ = .error e' d₂) :
    Stops done p raw d e' d₂
  /-- The file cannot be written for another reason; nothing is undone. -/
  | unwritten {e : FileError} {d₁ : Disk} (hw : Disk.write p raw d = .error e d₁)
    (hsys : ¬ e.isFromSystem = true) : Stops done p raw d (.file e) d₁

/-- A commit takes over and writes its first file and goes on behind it, or stops there. -/
theorem writeAll_cons_cases (done : List Written) (p : Path) (raw : RawText)
    (later : Changes RawText) (d : Disk) :
    (∃ previous d₁, previousText p d = .ok previous d ∧ Disk.write p raw d = .ok () d₁ ∧
      writeAll done ((p, raw) :: later) d = writeAll ((p, previous) :: done) later d₁) ∨
    ∃ e d', writeAll done ((p, raw) :: later) d = .error e d' ∧ Stops done p raw d e d' := by
  rw [writeAll_cons]
  cases hprev : previousText p d with
  | error e d₁ =>
    obtain ⟨rfl, -⟩ := previousText_eq_error hprev
    exact .inr ⟨e, d₁, rfl, .unread hprev⟩
  | ok previous d₁ =>
    obtain ⟨rfl, -⟩ := previousText_eq_ok hprev
    dsimp only
    cases hw : Disk.write p raw d₁ with
    | ok _ d₂ => exact .inl ⟨previous, d₂, rfl, rfl, rfl⟩
    | error e d₂ =>
      right
      dsimp only
      by_cases hsys : e.isFromSystem = true
      · rw [if_pos hsys]
        cases hr : rollBack done d₂ with
        | ok _ d₃ => exact ⟨_, d₃, rfl, .undone hprev hw hsys hr⟩
        | error e' d₃ => exact ⟨e', d₃, rfl, .notUndone hprev hw hsys hr⟩
      · rw [if_neg hsys]
        exact ⟨_, d₂, rfl, .unwritten hw hsys⟩

/-- A commit that succeeds has taken over and written its first file, and goes on behind it. -/
theorem writeAll_cons_eq_ok_iff :
    writeAll done ((p, raw) :: later) d = .ok written d' ↔
      ∃ previous d₁, previousText p d = .ok previous d ∧ Disk.write p raw d = .ok () d₁ ∧
        writeAll ((p, previous) :: done) later d₁ = .ok written d' := by
  constructor
  · intro h
    rcases writeAll_cons_cases done p raw later d with
      ⟨previous, d₁, hprev, hw, heq⟩ | ⟨e, d₁, he, -⟩
    · exact ⟨previous, d₁, hprev, hw, heq ▸ h⟩
    · rw [h] at he
      cases he
  · rintro ⟨previous, d₁, hprev, hw, h⟩
    rw [writeAll_cons, hprev]
    dsimp only
    rw [hw]
    exact h

/-- A commit that fails has written the changes before the one at which it stops. -/
theorem stops_of_writeAll (h : writeAll done c d = .error e d') :
    ∃ before p raw later written d₁, c = before ++ (p, raw) :: later ∧
      writeAll done before d = .ok written d₁ ∧ Stops written.reverse p raw d₁ e d' := by
  induction c generalizing done d with
  | nil => cases h
  | cons w rest ih =>
    obtain ⟨p, raw⟩ := w
    rcases writeAll_cons_cases done p raw rest d with
      ⟨previous, d₁, hprev, hw, heq⟩ | ⟨e₁, d₁, he, hs⟩
    · rw [heq] at h
      obtain ⟨before, q, new, later, written, d₂, rfl, hbefore, hs⟩ := ih h
      exact ⟨(p, raw) :: before, q, new, later, written, d₂, rfl,
        writeAll_cons_eq_ok_iff.2 ⟨previous, d₁, hprev, hw, hbefore⟩, hs⟩
    · rw [h] at he
      cases he
      refine ⟨[], p, raw, rest, done.reverse, d, rfl, rfl, ?_⟩
      rwa [List.reverse_reverse]

/-- Where the rollback of a commit starts, if the commit calls for one: what is recorded, the last
file first, and the disk behind the write that failed. -/
def rollBackStart? (done : List Written) : Changes RawText → Disk → Option (List Written × Disk)
  | [], _ => none
  | (path, text) :: rest, d =>
    match previousText path d with
    | .error _ _ => none
    | .ok previous d₁ =>
      match Disk.write path text d₁ with
      | .ok () d₂ => rollBackStart? ((path, previous) :: done) rest d₂
      | .error e d₂ => if e.isFromSystem then some (done, d₂) else none

/-- No rollback starts while changes are written. -/
theorem rollBackStart?_append {before : Changes RawText} (h : writeAll done before d = .ok written d')
    (later : Changes RawText) :
    rollBackStart? done (before ++ later) d = rollBackStart? written.reverse later d' := by
  induction before generalizing done d with
  | nil => cases h; rw [List.reverse_reverse]; rfl
  | cons w rest ih =>
    obtain ⟨p, raw⟩ := w
    obtain ⟨previous, d₁, hprev, hw, h⟩ := writeAll_cons_eq_ok_iff.1 h
    rw [List.cons_append, rollBackStart?, hprev]
    dsimp only
    rw [hw]
    exact ih h

/-- A commit that succeeds writes texts. -/
theorem texts_of_writeAll (h : writeAll done c d = .ok written d') :
    ∃ texts : Changes, c = texts := by
  induction c generalizing done d with
  | nil => exact ⟨[], rfl⟩
  | cons w rest ih =>
    obtain ⟨p, raw⟩ := w
    obtain ⟨previous, d₁, -, hw, hrest⟩ := writeAll_cons_eq_ok_iff.1 h
    obtain ⟨texts, rfl⟩ := ih hrest
    obtain ⟨text, rfl⟩ := Disk.text_of_write hw
    exact ⟨(p, text) :: texts, rfl⟩

/-- The paths of what was written are recorded in their order. -/
theorem paths_of_writeAll (h : writeAll done c d = .ok written d') :
    written.map (·.1) = (done.map (·.1)).reverse ++ c.map (·.1) := by
  induction c generalizing done d with
  | nil => cases h; simp
  | cons w rest ih =>
    obtain ⟨p, raw⟩ := w
    obtain ⟨previous, d₁, -, -, h⟩ := writeAll_cons_eq_ok_iff.1 h
    simpa using ih h

theorem mem_paths_of_commit {before : Changes RawText} (h : commit before d = .ok written d')
    (later : Changes RawText) : ∀ w ∈ written.reverse, w.1 ∈ (before ++ later).map (·.1) := by
  intro w hw
  have hpath : w.1 ∈ written.map (·.1) := List.mem_map_of_mem (List.mem_reverse.1 hw)
  rw [paths_of_writeAll h, List.map_nil, List.reverse_nil, List.nil_append] at hpath
  rw [List.map_append]
  exact List.mem_append_left _ hpath

/-- An invariant of writing the files of a commit and of undoing that is one of the commit. -/
theorem preserves_writeAll {I : Disk → Prop} (hw : ∀ w ∈ c, Preserves I (Disk.write w.1 w.2))
    (hu : ∀ w ∈ c, ∀ previous, Preserves I (undo (w.1, previous)))
    (hdone : ∀ w ∈ done, Preserves I (undo w)) : Preserves I (writeAll done c) := by
  induction c generalizing done with
  | nil => exact .pure _
  | cons w rest ih =>
    obtain ⟨p, raw⟩ := w
    rw [List.forall_mem_cons] at hw hu
    intro d hd
    rcases writeAll_cons_cases done p raw rest d with
      ⟨previous, d₁, -, hwrite, heq⟩ | ⟨e, d', he, hs⟩
    · have hnext := ih hw.2 hu.2 (List.forall_mem_cons.2 ⟨hu.1 previous, hdone⟩)
      rw [after, heq]
      exact hnext d₁ (hw.1.of_ok hd hwrite)
    · rw [after_of_error he]
      cases hs with
      | unread => exact hd
      | undone _ hwrite _ hr => exact (preserves_rollBack hdone).of_ok (hw.1.of_error hd hwrite) hr
      | notUndone _ hwrite _ hr =>
        exact (preserves_rollBack hdone).of_error (hw.1.of_error hd hwrite) hr
      | unwritten hwrite => exact hw.1.of_error hd hwrite

end Run

/-! ## The files of a commit -/

/-- How far a commit has come: the texts of `before` are written, and what is to be undone is
recorded, the last file first. -/
structure Progress (t₀ : FileTree) (before : Changes) (done : List Written) (d : Disk) : Prop where
  sound : t₀.Sound d.tree
  paths : done.map (·.1) = (before.map (·.1)).reverse
  recorded : ∀ w ∈ done, t₀.file? (t₀.locate w.1) = w.2.map Utf8.encode
  files : d.tree.file? = overwritten t₀ before

/-- How a commit ends: with which failure, if it fails, and with which files. -/
inductive Ends (t : FileTree) (c : Changes RawText) :
    Option Failure → (Location → Option Bytes) → Prop
  /-- All texts are written. -/
  | written {texts : Changes} (hc : c = texts) : Ends t c none (overwritten t texts)
  /-- It fails while the first texts are written or undone. -/
  | failed {before : Changes} {later : Changes RawText} {e : Failure}
    {files : Location → Option Bytes} (hc : c = before ++ later) (he : e.isUnencodable = false)
    (hundone : e.isReported = true → files = t.file?)
    (hfiles : ∀ l, files l = t.file? l ∨ files l = overwritten t before l) : Ends t c (some e) files
  /-- It breaks off at a text that cannot be encoded, and the temporary sibling stays. -/
  | brokenOff {before : Changes} {p q : Path} {raw : RawText} {later : Changes RawText}
    {e : Utf8.EncodeError} (hc : c = before ++ (p, raw) :: later)
    (hraw : Utf8.encodeRaw raw = .error e) (hq : p.sibling? = some q) :
    Ends t c (some (.file (.unencodable e)))
      (Function.update (overwritten t before) (t.locate q) (some []))

/-- A commit that does not fail writes texts. -/
theorem Ends.of_none {c : Changes RawText} {files : Location → Option Bytes}
    (h : Ends t c none files) : ∃ texts : Changes, c = texts ∧ files = overwritten t texts := by
  cases h with
  | written hc => exact ⟨_, hc, rfl⟩

/-- A commit that is reported to have failed changes no file. -/
theorem Ends.undone {c : Changes RawText} {e : Failure} {files : Location → Option Bytes}
    (h : Ends t c (some e) files) (he : e.isReported = true) : files = t.file? := by
  cases h with
  | failed _ _ hundone => exact hundone he
  | brokenOff => cases he

namespace Progress

variable {before texts : Changes} {done written : List Written} {paths : List Path}

theorem mem_locations (h : Progress t₀ before done d) {l : Location} :
    (l ∈ done.map fun w => t₀.locate w.1) ↔ l ∈ before.map fun w => t₀.locate w.1 := by
  have hdone : (done.map fun w => t₀.locate w.1) = (done.map (·.1)).map t₀.locate := by
    rw [List.map_map]; rfl
  have hbefore : (before.map fun w => t₀.locate w.1) = (before.map (·.1)).map t₀.locate := by
    rw [List.map_map]; rfl
  rw [hdone, hbefore, h.paths, List.map_reverse, List.mem_reverse]

/-- Beside none of the paths stands a sibling. -/
theorem siblings (h : Progress t₀ before done d) (hap : Apart t₀ (before.map (·.1) ++ paths))
    {p s : Path} (hp : p ∈ before.map (·.1) ++ paths) (hs : p.sibling? = some s) :
    d.tree.file? (t₀.locate s) = none := by
  obtain ⟨hnone, hnot⟩ := hap.siblings p hp s hs
  rw [h.files, overwritten_of_not_mem, hnone]
  intro hm
  rw [List.map_append, List.map_map] at hnot
  exact hnot (List.mem_append_left _ hm)

/-- One more file is taken over and written. -/
theorem next {d₁ : Disk} {previous : Option Text} (h : Progress t₀ before done d)
    (hap : Apart t₀ (before.map (·.1) ++ p :: paths)) (hprev : previousText p d = .ok previous d)
    (hw : Disk.write p text d = .ok () d₁) :
    Progress t₀ (before ++ [(p, text)]) ((p, previous) :: done) d₁ := by
  have hs : ∀ s, p.sibling? = some s → d.tree.file? (d.tree.locate s) = none := fun s hs => by
    rw [h.sound.keeps.locate_eq]
    exact h.siblings hap (by simp) hs
  obtain ⟨hnull, hfiles⟩ := Disk.files_of_write_eq_ok hs hw
  have hnew : t₀.locate p ∉ before.map fun w => t₀.locate w.1 := by
    have hd := hap.distinct
    rw [List.map_append, List.map_cons, List.map_map] at hd
    exact fun hm => (List.nodup_append.1 hd).2.2 _ hm _ List.mem_cons_self rfl
  refine ⟨(Disk.preserves_sound_write t₀ p text).of_ok h.sound hw, ?_, ?_, ?_⟩
  · simp [h.paths]
  · intro w hw
    rcases List.mem_cons.1 hw with rfl | hw
    · rw [← files_of_previousText h.sound (hap.tells p (by simp)) hprev hnull, h.files,
        overwritten_of_not_mem before hnew]
    · exact h.recorded w hw
  · rw [hfiles, h.sound.keeps.locate_eq, h.files, overwritten_concat]

/-- Texts are written one after another. -/
theorem writeAll (h : Progress t₀ before done d)
    (hap : Apart t₀ (before.map (·.1) ++ texts.map (·.1) ++ paths))
    (hw : Changes.writeAll done texts d = .ok written d') :
    Progress t₀ (before ++ texts) written.reverse d' := by
  induction texts generalizing before done d with
  | nil => cases hw; simpa using h
  | cons w rest ih =>
    obtain ⟨p, text⟩ := w
    obtain ⟨previous, d₁, hprev, hwrite, hw⟩ := writeAll_cons_eq_ok_iff.1 hw
    have hnext := h.next (by simpa using hap) hprev hwrite
    rw [List.append_cons]
    exact ih hnext (by simpa using hap) hw

/-- A write that the system refuses changes nothing. -/
theorem failedWrite {d₁ : Disk} {e : FileError} (h : Progress t₀ before done d)
    (hap : Apart t₀ (before.map (·.1) ++ p :: paths)) (hw : Disk.write p raw d = .error e d₁)
    (hsys : e.isFromSystem = true) : Progress t₀ before done d₁ := by
  refine ⟨(Disk.preserves_sound_write t₀ p raw).of_error h.sound hw, h.paths, h.recorded, ?_⟩
  have he := FileError.isUnencodable_of_isFromSystem hsys
  rcases (Disk.fails_of_write hw).files_cases he with hf | ⟨q, hq, hf⟩
  · exact hf.trans h.files
  · have hnone := h.siblings hap (by simp) hq
    rw [← h.sound.keeps.locate_eq] at hnone
    rw [hf, ← hnone, Function.update_eq_self, h.files]

/-- Rolling back gives every file its contents of before, or fails on the way. -/
theorem rollBack (h : Progress t₀ before done d) (hap : Apart t₀ (before.map (·.1) ++ paths)) :
    (∃ d', rollBack done d = .ok () d' ∧ d'.tree.file? = t₀.file?) ∨
    ∃ e d', rollBack done d = .error (.file e) d' ∧
      ∀ l, d'.tree.file? l = t₀.file? l ∨ d'.tree.file? l = overwritten t₀ before l := by
  have hpaths : ∀ w ∈ done, w.1 ∈ before.map (·.1) ++ paths := fun w hw => by
    have hm : w.1 ∈ done.map (·.1) := List.mem_map_of_mem hw
    rw [h.paths, List.mem_reverse] at hm
    exact List.mem_append_left _ hm
  have hs : ∀ w ∈ done, ∀ s, w.1.sibling? = some s → d.tree.file? (t₀.locate s) = none ∧
      t₀.locate s ∉ done.map fun w => t₀.locate w.1 := by
    intro w hw s hs
    refine ⟨h.siblings hap (hpaths w hw) hs, fun hin => (hap.siblings w.1 (hpaths w hw) s hs).2 ?_⟩
    rw [h.mem_locations] at hin
    rw [List.map_append, List.map_map]
    exact List.mem_append_left _ hin
  rcases files_after_rollBack h.sound h.recorded hs with ⟨d', hr, hin, hout⟩ | ⟨e, d', hr, hl⟩
  · refine .inl ⟨d', hr, funext fun l => ?_⟩
    by_cases hl : l ∈ done.map fun w => t₀.locate w.1
    · exact hin l hl
    · rw [hout l hl, h.files]
      exact overwritten_of_not_mem before (by rwa [← h.mem_locations])
  · refine .inr ⟨e, d', hr, fun l => ?_⟩
    rw [← h.files]
    exact (hl l).symm

/-- The end of a commit that cannot go on. -/
theorem ends (h : Progress t₀ before done d) (later : Changes RawText)
    (hap : Apart t₀ (before.map (·.1) ++ p :: paths)) {e : Failure}
    (hs : Stops done p raw d e d') :
    Ends t₀ (before.raw ++ (p, raw) :: later) (some e) d'.tree.file? := by
  cases hs with
  | unread hprev =>
    obtain ⟨hrep, hun⟩ := failsOnly_previousText p _ e _ hprev
    exact .failed rfl hun (by simp [hrep]) fun l => .inr (by rw [h.files])
  | undone _ hw hsys hr =>
    rcases (h.failedWrite hap hw hsys).rollBack hap with ⟨d₂, hok, hf⟩ | ⟨e', d₂, herr, -⟩
    · rw [hok] at hr
      cases hr
      exact .failed rfl rfl (fun _ => hf) fun l => .inl (by rw [hf])
    · rw [herr] at hr
      cases hr
  | notUndone _ hw hsys hr =>
    have hun := failsOnly_rollBack done _ _ _ hr
    rcases (h.failedWrite hap hw hsys).rollBack hap with ⟨d₂, hok, -⟩ | ⟨e', d₂, herr, hl⟩
    · rw [hok] at hr
      cases hr
    · rw [herr] at hr
      cases hr
      exact .failed rfl hun (fun hrep => by cases hrep) hl
  | unwritten hw hsys =>
    cases Disk.fails_of_write hw with
    | refused h' => exact absurd h' hsys
    | nullCharacter _ hf =>
      exact .failed rfl rfl (fun hrep => by cases hrep) fun l => .inr (by rw [hf, h.files])
    | noName _ hf =>
      exact .failed rfl rfl (fun hrep => by cases hrep) fun l => .inr (by rw [hf, h.files])
    | unencodable hraw hq hf =>
      rw [hf, h.files, h.sound.keeps.locate_eq]
      exact .brokenOff rfl hraw hq

end Progress

theorem progress_start (hwf : d.tree.WF) : Progress d.tree [] [] d := ⟨.refl hwf, rfl, by simp, rfl⟩

/-- A commit of texts that succeeds has written them all. -/
theorem files_of_commit {c : Changes} {written : List Written} (hwf : d.tree.WF)
    (hap : Apart d.tree (c.map (·.1))) (h : commit c d = .ok written d') :
    d'.tree.file? = overwritten d.tree c := by
  rw [← List.append_nil (c.map (·.1))] at hap
  exact ((progress_start hwf).writeAll hap h).files

/-- How a commit ends. -/
theorem commit_ends {c : Changes RawText} (hwf : d.tree.WF) (hap : Apart d.tree (c.map (·.1))) :
    Ends d.tree c (error? (commit c) d) (after (commit c) d).tree.file? := by
  cases hc : commit c d with
  | ok written d' =>
    obtain ⟨texts, rfl⟩ := texts_of_writeAll hc
    rw [map_fst_raw] at hap
    rw [error?, hc, after_of_ok hc, files_of_commit hwf hap hc]
    exact .written rfl
  | error e d' =>
    obtain ⟨before, p, raw, later, written, d₁, rfl, hbefore, hs⟩ := stops_of_writeAll hc
    obtain ⟨texts, rfl⟩ := texts_of_writeAll hbefore
    rw [List.map_append, List.map_cons, map_fst_raw] at hap
    rw [error?, hc, after_of_error hc]
    exact ((progress_start hwf).writeAll hap hbefore).ends later hap hs

/-! ## Directories of a commit -/

/-- Whatever is written, the tree stays well-formed, and its directories stay. -/
theorem preserves_sound_writeAll (t : FileTree) (done : List Written) (c : Changes RawText) :
    Preserves (fun d => t.Sound d.tree) (writeAll done c) :=
  preserves_writeAll (fun w _ => Disk.preserves_sound_write t w.1 w.2)
    (fun _ _ _ => preserves_sound_undo t _) fun w _ => preserves_sound_undo t w

/-- A commit into directories that are there leaves the directories as they are. -/
theorem level_commit {c : Changes} (hwf : d.tree.WF)
    (hc : ∀ w ∈ c, d.tree.ReachesDirectory w.1.parent) :
    d.tree.Level (after c.commit d).tree := by
  have hreach : ∀ w ∈ c.raw, d.tree.ReachesDirectory w.1.parent := by
    rintro _ hw
    obtain ⟨w, hmem, rfl⟩ := List.mem_map.1 hw
    exact hc w hmem
  have hcommit : Preserves (fun d' => d.tree.Level d'.tree) c.commit := by
    refine preserves_writeAll (fun w hw => Disk.preserves_level_write (hreach w hw) w.2)
      (fun w hw _ => ?_) (by simp)
    exact preserves_undo (fun text => Disk.preserves_level_write (hreach w hw) text)
      (Disk.preserves_level fun _ _ => FileTree.level_unlink)
  exact hcommit d (.refl hwf)

end Changes

end OpScaffold
