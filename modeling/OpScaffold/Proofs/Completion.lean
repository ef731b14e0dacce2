import OpScaffold.Proofs.Changes
import OpScaffold.Proofs.Files.Takes

/-!
# OpScaffold.Proofs.Completion

What a commit that succeeds leaves behind, whatever its paths: they may lead to one place, or to
that of a temporary sibling. Each place keeps its file, is emptied because a sibling was there, or
holds one of the new texts (`leaves_of_writeAll`). The file that was written last is there
(`exists?_of_write`).
-/

namespace OpScaffold.Changes

open OpScaffold.Action

variable {t : FileTree} {d d' d₁ : Disk} {p q : Path} {text : Text} {c c' : Changes}
  {done written : List Written} {l : Location} {old mid new : Option Bytes}

/-! ## Places behind a commit -/

/-- What changes that are written may make of the file at a place. -/
inductive Leaves (t : FileTree) (c : Changes) (l : Location) (old : Option Bytes) :
    Option Bytes → Prop
  | kept : (∀ w ∈ c, t.locate w.1 ≠ l) → Leaves t c l old old
  | cleared {w : Path × Text} {q : Path} :
    w ∈ c → w.1.sibling? = some q → t.locate q = l → Leaves t c l old none
  | written {w : Path × Text} :
    w ∈ c → t.locate w.1 = l → Leaves t c l old (some (Utf8.encode w.2))

theorem Leaves.trans (h : Leaves t c l old mid) (h' : Leaves t c' l mid new) :
    Leaves t (c ++ c') l old new := by
  cases h' with
  | kept hnot' =>
    cases h with
    | kept hnot => exact .kept (List.forall_mem_append.2 ⟨hnot, hnot'⟩)
    | cleared hw hq hl => exact .cleared (List.mem_append_left _ hw) hq hl
    | written hw hl => exact .written (List.mem_append_left _ hw) hl
  | cleared hw hq hl => exact .cleared (List.mem_append_right _ hw) hq hl
  | written hw hl => exact .written (List.mem_append_right _ hw) hl

/-- A file stays where no temporary sibling comes. -/
theorem Leaves.isSome (h : Leaves t c l old new) (hold : old.isSome)
    (hs : ∀ w ∈ c, ∀ q ∈ w.1.sibling?, t.locate q ≠ l) : new.isSome := by
  cases h with
  | kept => exact hold
  | cleared hw hq hl => exact absurd hl (hs _ hw _ hq)
  | written => rfl

/-- Nothing comes to an empty place when files are written that are there. -/
theorem Leaves.node?_eq_none {t' : FileTree} (h : Leaves t c l (t.file? l) (t'.file? l))
    (hlevel : t.Level t') (hnow : ∀ w ∈ c, (t.file? (t.locate w.1)).isSome)
    (hnone : t.node? l = none) : t'.node? l = none := by
  have hold : t.file? l = none := by rw [FileTree.file?, hnone]
  refine FileTree.node?_eq_none ?_ fun hd => ?_
  · generalize t'.file? l = new at h
    cases h with
    | kept => exact hold
    | cleared => rfl
    | written hw hl =>
      have hsome := hnow _ hw
      rw [hl, hold] at hsome
      cases hsome
  · have hd' := hlevel.only l hd
    rw [FileTree.HasDirectory, hnone] at hd'
    cases hd'

theorem leaves_of_write (hd : t.Sound d.tree) (h : Disk.write p text d = .ok () d₁)
    (l : Location) : Leaves t [(p, text)] l (d.tree.file? l) (d₁.tree.file? l) := by
  obtain ⟨-, q, hq, hf⟩ := Disk.files_of_write h
  rw [hd.keeps.locate_eq, hd.keeps.locate_eq] at hf
  rw [hf]
  by_cases hp : t.locate p = l
  · subst hp
    rw [Function.update_self]
    exact .written (List.mem_singleton_self _) rfl
  rw [Function.update_of_ne (Ne.symm hp)]
  by_cases hl : t.locate q = l
  · subst hl
    rw [Function.update_self]
    exact .cleared (List.mem_singleton_self _) hq rfl
  · rw [Function.update_of_ne (Ne.symm hl)]
    exact .kept (by simpa using hp)

/-- **Completion.** Behind a commit that succeeds each place has its old file, or none because it
is that of a temporary sibling, or one with a new text. -/
theorem leaves_of_writeAll (hd : t.Sound d.tree) (h : writeAll done c d = .ok written d')
    (l : Location) : Leaves t c l (d.tree.file? l) (d'.tree.file? l) := by
  induction c generalizing done d with
  | nil => cases h; exact .kept (by simp)
  | cons w rest ih =>
    obtain ⟨p, text⟩ := w
    obtain ⟨previous, d₁, -, hw, h⟩ := writeAll_cons_eq_ok_iff.1 h
    have hd₁ := (Disk.preserves_sound_write t p text).of_ok hd hw
    exact (leaves_of_write hd hw l).trans (ih hd₁ h)

/-! ## Steps of a commit -/

/-- A commit goes on where a part of it has ended. -/
theorem writeAll_append_eq_ok {c c' : Changes RawText} :
    writeAll done (c ++ c') d = .ok written d' ↔
      ∃ done' d₁, writeAll done c d = .ok done'.reverse d₁ ∧
        writeAll done' c' d₁ = .ok written d' := by
  induction c generalizing done d with
  | nil =>
    constructor
    · exact fun h => ⟨done, d, rfl, h⟩
    · rintro ⟨done', d₁, h, h'⟩
      obtain ⟨hdone, rfl⟩ := EStateM.Result.ok.inj h
      rwa [List.reverse_inj.1 hdone]
  | cons w rest ih =>
    obtain ⟨p, raw⟩ := w
    rw [List.cons_append, writeAll_cons_eq_ok_iff]
    constructor
    · rintro ⟨previous, d₂, hprev, hw, h⟩
      obtain ⟨done', d₁, h, h'⟩ := ih.1 h
      exact ⟨done', d₁, writeAll_cons_eq_ok_iff.2 ⟨previous, d₂, hprev, hw, h⟩, h'⟩
    · rintro ⟨done', d₁, h, h'⟩
      obtain ⟨previous, d₂, hprev, hw, h⟩ := writeAll_cons_eq_ok_iff.1 h
      exact ⟨previous, d₂, hprev, hw, ih.2 ⟨done', d₁, h, h'⟩⟩

/-- A file is recorded as there before if it is found when its turn comes. -/
theorem isSome_of_previousText {previous : Option Text} {b : Bool}
    (h : previousText p d = .ok previous d) (hx : d.tree.exists? p = .ok b) :
    previous.isSome = b := by
  obtain ⟨-, ⟨hx', rfl⟩ | ⟨hx', old, -, rfl⟩⟩ := previousText_eq_ok h
  · exact Except.ok.inj (hx'.symm.trans hx)
  · exact Except.ok.inj (hx'.symm.trans hx)

/-- A file that was written is found. -/
theorem exists?_of_write (hwf : d.tree.WF) (h : Disk.write p text d = .ok () d') :
    d'.tree.exists? p = .ok true := by
  obtain ⟨_, d₁, q, t₁, -, hmake, -, hw, hreplace⟩ := Disk.steps_of_write_eq_ok h
  have hwf₁ : d₁.tree.WF :=
    ((Disk.preserves_ensureDirectories (fun _ => Disk.preserves_sound fun _ _ =>
      FileTree.sound_makeDirectory) p.parent).of_ok (.refl hwf) hmake).wf
  have hlevel := FileTree.level_write hwf₁ hw
  have hlevel' := hlevel.trans (FileTree.level_replace hlevel.sound.wf hreplace)
  have hopen := (FileTree.exists_replace_written hwf₁ hw).1 ⟨_, hreplace⟩
  obtain ⟨-, _, -, hf⟩ := Disk.files_of_write h
  have hloc := ((Disk.preserves_sound_write d.tree p text).of_ok (.refl hwf) h).keeps.locate_eq p
  have hfile : d'.tree.file? (d'.tree.locate p) = some (Utf8.encode text) := by
    rw [hloc, hf, Function.update_self]
  rw [(hlevel'.opens_iff.2 hopen).exists?_eq, FileTree.file?_eq_some.1 hfile]
  rfl

end OpScaffold.Changes
