import OpScaffold.Proofs.Commit

/-!
# OpScaffold.Proofs.Frame

What a commit leaves alone (`commit_frame`). Every write and every undoing goes through two places
only, that of its path and that of the temporary sibling beside it, and at the second nothing is
left behind, unless the text cannot be encoded. So outside the paths of a commit no file changes and
none appears but that sibling; but a file that stands where a temporary sibling is to be written is
overwritten by it, and goes away with it.

Nothing is assumed of the paths, nor of the steps that fail.
-/

namespace OpScaffold

open OpScaffold.Action

namespace Changes

variable {t : FileTree} {c : Changes RawText} {d d' : Disk} {p : Path} {raw : RawText}
  {l : Location} {files : Location → Option Bytes} {done : List Written}

/-- Whether a place is that of the temporary sibling of a path of a commit. -/
def IsSibling (t : FileTree) (c : Changes RawText) (l : Location) : Prop :=
  ∃ w ∈ c, ∃ q ∈ w.1.sibling?, t.locate q = l

/-- Whether files are those of a tree outside the paths of a commit, save that some may be gone
from the places of temporary siblings. -/
def Framed (t : FileTree) (c : Changes RawText) (files : Location → Option Bytes) : Prop :=
  ∀ l, (∀ w ∈ c, t.locate w.1 ≠ l) → files l = t.file? l ∨ IsSibling t c l ∧ files l = none

/-- What happens at a path of the commit is no matter. -/
theorem Framed.update (h : Framed t c files) (hp : p ∈ c.map (·.1)) (bytes : Option Bytes) :
    Framed t c (Function.update files (t.locate p) bytes) := by
  obtain ⟨w, hw, rfl⟩ := List.mem_map.1 hp
  intro m hm
  rw [Function.update_of_ne (hm w hw).symm]
  exact h m hm

/-- At the place of a temporary sibling a file may go away. -/
theorem Framed.clear {q : Path} (h : Framed t c files) (hp : p ∈ c.map (·.1))
    (hq : p.sibling? = some q) : Framed t c (Function.update files (t.locate q) none) := by
  obtain ⟨w, hw, rfl⟩ := List.mem_map.1 hp
  intro m hm
  by_cases hmq : m = t.locate q
  · subst hmq
    exact .inr ⟨⟨w, hw, q, hq, rfl⟩, Function.update_self ..⟩
  · rw [Function.update_of_ne hmq]
    exact h m hm

/-! ## Single steps -/

/-- The state of a commit that has kept to its own files. -/
structure KeepsFrame (t : FileTree) (c : Changes RawText) (d : Disk) : Prop where
  sound : t.Sound d.tree
  files : Framed t c d.tree.file?

theorem KeepsFrame.refl (c : Changes RawText) (hwf : d.tree.WF) : KeepsFrame d.tree c d :=
  ⟨.refl hwf, fun _ _ => .inl rfl⟩

/-- Writing a file of the commit fails on the way. -/
theorem KeepsFrame.failedWrite {e : FileError} (h : KeepsFrame t c d) (hp : p ∈ c.map (·.1))
    (hw : Disk.write p raw d = .error e d') (he : e.isUnencodable = false) :
    KeepsFrame t c d' := by
  refine ⟨(Disk.preserves_sound_write t p raw).of_error h.sound hw, ?_⟩
  rcases (Disk.fails_of_write hw).files_cases he with hf | ⟨q, hq, hf⟩
  · rw [hf]
    exact h.files
  · rw [hf, h.sound.keeps.locate_eq]
    exact h.files.clear hp hq

/-- Writing a text to a file of the commit, whether it succeeds or fails on the way. -/
theorem preserves_frame_write (hp : p ∈ c.map (·.1)) (text : Text) :
    Preserves (KeepsFrame t c) (Disk.write p text) := by
  intro d hd
  cases hw : Disk.write p text d with
  | ok _ d' =>
    rw [after_of_ok hw]
    refine ⟨(Disk.preserves_sound_write t p text).of_ok hd.sound hw, ?_⟩
    obtain ⟨-, q, hq, hf⟩ := Disk.files_of_write hw
    rw [hd.sound.keeps.locate_eq, hd.sound.keeps.locate_eq] at hf
    rw [hf]
    exact (hd.files.clear hp hq).update hp _
  | error e d' =>
    rw [after_of_error hw]
    exact hd.failedWrite hp hw (Disk.isUnencodable_of_write hw)

/-- Removing a new file of the commit again. -/
theorem preserves_frame_unlink (hp : p ∈ c.map (·.1)) :
    Preserves (KeepsFrame t c) (Disk.change (·.unlink p)) := by
  refine Disk.preserves_change fun d tree hd hu =>
    ⟨hd.sound.trans (FileTree.sound_unlink hd.sound.wf hu), ?_⟩
  obtain ⟨hslot, -, rfl⟩ := FileTree.unlink_eq_ok hu
  rw [FileTree.file?_erase hslot.ne_nil, hd.sound.keeps.locate_eq]
  exact hd.files.update hp none

theorem preserves_frame_undo {w : Written} (hp : w.1 ∈ c.map (·.1)) :
    Preserves (KeepsFrame t c) (undo w) :=
  preserves_undo (preserves_frame_write hp) (preserves_frame_unlink hp)

/-! ## The run of a commit -/

/-- Writing some texts of the commit. -/
theorem preserves_frame_writeAll {texts : Changes} (hsub : texts.raw ⊆ c) :
    Preserves (KeepsFrame t c) (writeAll [] texts) := by
  have hpaths : ∀ w ∈ texts.raw, w.1 ∈ c.map (·.1) := fun w hw => List.mem_map_of_mem (hsub hw)
  refine preserves_writeAll (fun w hw => ?_) (fun w hw _ => preserves_frame_undo (hpaths w hw))
    (by simp)
  obtain ⟨w, -, rfl⟩ := List.mem_map.1 hw
  exact preserves_frame_write (hpaths _ hw) w.2

/-- A commit that stops has kept to its own files, or leaves an empty sibling beside them. -/
theorem KeepsFrame.stops {e : Failure} (h : KeepsFrame t c d) (hp : p ∈ c.map (·.1))
    (hdone : ∀ w ∈ done, w.1 ∈ c.map (·.1)) (hs : Stops done p raw d e d') :
    KeepsFrame t c d' ∧ e.isUnencodable = false ∨
      ∃ e' q, e = .file (.unencodable e') ∧ Utf8.encodeRaw raw = .error e' ∧
        p.sibling? = some q ∧
        d'.tree.file? = Function.update d.tree.file? (t.locate q) (some []) := by
  have hrolled : Preserves (KeepsFrame t c) (rollBack done) :=
    preserves_rollBack fun w hw => preserves_frame_undo (hdone w hw)
  cases hs with
  | unread hprev => exact .inl ⟨h, (failsOnly_previousText p _ _ _ hprev).2⟩
  | undone _ hw hsys hr =>
    have hkeeps := h.failedWrite hp hw (FileError.isUnencodable_of_isFromSystem hsys)
    exact .inl ⟨hrolled.of_ok hkeeps hr, rfl⟩
  | notUndone _ hw hsys hr =>
    have hkeeps := h.failedWrite hp hw (FileError.isUnencodable_of_isFromSystem hsys)
    exact .inl ⟨hrolled.of_error hkeeps hr, failsOnly_rollBack done _ _ _ hr⟩
  | unwritten hw hsys =>
    cases Disk.fails_of_write hw with
    | refused h' => exact absurd h' hsys
    | nullCharacter => exact .inl ⟨h.failedWrite hp hw rfl, rfl⟩
    | noName => exact .inl ⟨h.failedWrite hp hw rfl, rfl⟩
    | unencodable hraw hq hf =>
      rw [h.sound.keeps.locate_eq] at hf
      exact .inr ⟨_, _, rfl, hraw, hq, hf⟩

/-- However a commit ends, it has kept to its own files, but for the sibling that it leaves
behind. -/
theorem framed_of_commit (c : Changes RawText) (hwf : d.tree.WF) :
    ∃ files, Framed d.tree c files ∧ (after (commit c) d).tree.file? =
      ((error? (commit c) d).bind (leftBehind? c)).elim files fun q =>
        Function.update files (d.tree.locate q) (some []) := by
  have hstart : KeepsFrame d.tree c d := .refl c hwf
  cases hc : commit c d with
  | ok written d' =>
    obtain ⟨texts, rfl⟩ := texts_of_writeAll hc
    rw [error?, hc, after_of_ok hc]
    exact ⟨_, ((preserves_frame_writeAll (List.Subset.refl _)).of_ok hstart hc).files, rfl⟩
  | error e d' =>
    rw [error?, hc, after_of_error hc]
    obtain ⟨before, p, raw, later, written, d₁, rfl, hbefore, hs⟩ := stops_of_writeAll hc
    obtain ⟨texts, rfl⟩ := texts_of_writeAll hbefore
    have hkeeps := (preserves_frame_writeAll (List.subset_append_left _ _)).of_ok hstart hbefore
    rcases hkeeps.stops (by simp) (mem_paths_of_commit hbefore _) hs with
      ⟨hend, he⟩ | ⟨e', q, rfl, hraw, hq, hf⟩
    · exact ⟨_, hend.files, by simp [leftBehind?, he]⟩
    · refine ⟨_, hkeeps.files, ?_⟩
      rw [Option.bind_some, leftBehind?_of_encodeRaw_eq_error hraw, hq, hf]
      rfl

/-- **Frame.** However a commit or a dry run of one ends, a file that is none of its own and does
not stand in the place of one of its temporary siblings is as before. A file that is there
afterwards is one of its own, or was there before with the same bytes, or is the empty sibling that
stays beside a text that cannot be encoded. -/
theorem commit_frame (s : Session) (c : Changes RawText) (dryRun : Bool) (hwf : s.disk.tree.WF) :
    let t := s.disk.tree
    let t' := (after (Generation.commit c dryRun) s).disk.tree
    let left := (error? (Generation.commit c dryRun) s).bind (leftBehind? c)
    (∀ l, (∀ w ∈ c, t.locate w.1 ≠ l) → ¬ IsSibling t c l → t'.file? l = t.file? l) ∧
    ∀ l bytes, t'.file? l = some bytes → t.file? l = some bytes ∨ (∃ w ∈ c, t.locate w.1 = l) ∨
      bytes = [] ∧ ∃ q ∈ left, t.locate q = l := by
  intro t t' left
  cases dryRun with
  | true =>
    have hsame : t' = t := congrArg (·.tree) (Generation.talks_commit c s s (.refl s)).disk
    exact ⟨fun l _ _ => by rw [hsame], fun l bytes hl => .inl (by rwa [hsame] at hl)⟩
  | false =>
    obtain ⟨files, hframe, hfiles⟩ : ∃ files, Framed t c files ∧
        t'.file? = left.elim files fun q => Function.update files (t.locate q) (some []) := by
      have h := framed_of_commit c hwf
      rwa [← Generation.error?_commit, ← Generation.disk_after_commit] at h
    -- away from the sibling that is left behind the files are those of the frame
    have haway : ∀ l, (∀ q ∈ left, t.locate q ≠ l) → t'.file? l = files l := by
      intro l hl
      rw [hfiles]
      cases hleft : left with
      | none => rfl
      | some q => exact Function.update_of_ne (hl q hleft).symm _ _
    refine ⟨fun l hl hsib => ?_, fun l bytes hl => ?_⟩
    · rw [haway l fun q hleft heq => ?_]
      · exact (hframe l hl).resolve_right fun h => hsib h.1
      · obtain ⟨w, hw, hq⟩ := sibling_of_leftBehind hleft
        exact hsib ⟨w, hw, q, hq, heq⟩
    · by_cases hkey : ∃ w ∈ c, t.locate w.1 = l
      · exact .inr (.inl hkey)
      by_cases hq : ∃ q ∈ left, t.locate q = l
      · obtain ⟨q, hleft, rfl⟩ := hq
        rw [Option.mem_def] at hleft
        rw [hfiles, hleft, Option.elim_some, Function.update_self] at hl
        exact .inr (.inr ⟨(Option.some.inj hl).symm, q, hleft, rfl⟩)
      · rw [haway l fun q hleft heq => hq ⟨q, hleft, heq⟩] at hl
        left
        rcases hframe l (fun w hw heq => hkey ⟨w, hw, heq⟩) with h | ⟨-, h⟩
        · rw [← h, hl]
        · rw [h] at hl
          cases hl

/-- The second of two files is refused, and the first is removed again: the file beside them is
left alone. -/
theorem commit_frame_second_refused :
    let tree : FileTree := ⟨["w".toList], [(["w".toList], .directory),
      (["w".toList, "b.rs".toList], .file (Utf8.encode "mine".toList))]⟩
    let s : Session := { disk := { tree, refused := [1] } }
    let c : Changes RawText := [(Path.ofText "a.rs".toList, Text.raw "new".toList),
      (Path.ofText "src/c.rs".toList, [])]
    let l : Location := ["w".toList, "b.rs".toList]
    tree.WF ∧ succeeds (Generation.commit c false) s = false ∧
      (∀ w ∈ c, tree.locate w.1 ≠ l) ∧ ¬ IsSibling tree c l ∧
      (after (Generation.commit c false) s).disk.tree.file? l = some (Utf8.encode "mine".toList) ∧
      ∀ l bytes, (after (Generation.commit c false) s).disk.tree.file? l = some bytes →
        tree.file? l = some bytes ∨ (∃ w ∈ c, tree.locate w.1 = l) ∨ bytes = [] ∧
          ∃ q ∈ (error? (Generation.commit c false) s).bind (leftBehind? c), tree.locate q = l := by
  intro tree s c l
  have hwf : tree.WF := FileTree.wf_of_nodes (by decide)
  have hfails : succeeds (Generation.commit c false) s = false := by decide +kernel
  have hl : ∀ w ∈ c, tree.locate w.1 ≠ l := by decide
  have hsib : ¬ IsSibling tree c l := by
    rintro ⟨w, hw, q, hq, heq⟩
    have hne : ∀ w ∈ c, ∀ q ∈ w.1.sibling?, tree.locate q ≠ l := by decide
    exact hne w hw q hq heq
  obtain ⟨hkept, hnew⟩ := commit_frame s c false hwf
  have hmine : tree.file? l = some (Utf8.encode "mine".toList) := by decide
  exact ⟨hwf, hfails, hl, hsib, (hkept l hl hsib).trans hmine, hnew⟩

/-- A file of the user has the name of a temporary sibling: the commit fails and reports it, and
that file is gone. -/
theorem commit_loses_file_beside :
    let tree : FileTree := ⟨["w".toList], [(["w".toList], .directory),
      (["w".toList, "a.rs".toList], .file (Utf8.encode "old\n".toList)),
      (["w".toList, ".a.rs.new_unary".toList], .file (Utf8.encode "mine\n".toList))]⟩
    let s : Session := { disk := { tree, refused := [0] } }
    let c : Changes RawText := [(Path.ofText "a.rs".toList, Text.raw "new\n".toList)]
    let l : Location := ["w".toList, ".a.rs.new_unary".toList]
    tree.WF ∧ (∀ w ∈ c, w.1.IsPlain) ∧ (∀ w ∈ c, tree.locate w.1 ≠ l) ∧
      tree.file? l = some (Utf8.encode "mine\n".toList) ∧
      ∃ e s', Generation.commit c false s = .error e s' ∧ e.isReported = true ∧
        s'.disk.tree.file? l = none := by
  intro tree s c l
  have hwf : tree.WF := FileTree.wf_of_nodes (by decide)
  have hfails : (error? (Generation.commit c false) s).any (·.isReported) = true := by
    decide +kernel
  have hgone : (after (Generation.commit c false) s).disk.tree.file? l = none := by decide +kernel
  obtain ⟨e, he, hrep⟩ := (Option.any_eq_true ..).1 hfails
  obtain ⟨s', hrun⟩ := error?_eq_some_iff.1 he
  rw [after_of_error hrun] at hgone
  exact ⟨hwf, by decide, by decide, by decide, e, s', hrun, hrep, hgone⟩

end Changes

end OpScaffold
