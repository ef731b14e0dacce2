import OpScaffold.Proofs.Changes
import OpScaffold.Proofs.Session

/-!
# OpScaffold.Proofs.Commit

A commit in a run: it ends as it does on the disk, whatever is told about it (`commit_cases`), and
so writes all files or none (`commit_outcome`). Only a raw text that cannot be encoded leaves
something behind, an empty temporary sibling (`leftBehind?`).
-/

namespace OpScaffold

open OpScaffold.Action Changes

/-! ## A commit in a run -/

theorem Run.onDisk_apply {α : Type} (action : Commit α) (s : Session) :
    Run.onDisk action s = (match action s.disk with
      | .ok a disk => .ok a { s with disk }
      | .error e disk => .error e { s with disk }) := rfl

namespace Generation

theorem report_eq_ok (written : List Written) (s : Session) :
    ∃ s', report written s = .ok () s' ∧ s'.disk = s.disk := by
  induction written generalizing s with
  | nil => exact ⟨s, rfl, rfl⟩
  | cons w rest ih =>
    obtain ⟨s', hr, hd⟩ := ih (after (Run.print _) s)
    exact ⟨s', hr, hd⟩

/-- A commit in a run ends as it does on the disk; telling what was written does not fail. -/
theorem commit_cases (c : Changes RawText) (s : Session) :
    (∃ written s', Changes.commit c s.disk = .ok written s'.disk ∧ commit c false s = .ok () s') ∨
    ∃ e s', Changes.commit c s.disk = .error e s'.disk ∧ commit c false s = .error e s' := by
  have hrun : commit c false s = (Run.onDisk (Changes.commit c) >>= report) s := rfl
  rw [hrun, bind_apply, Run.onDisk_apply]
  cases Changes.commit c s.disk with
  | ok written d' =>
    obtain ⟨s', hr, hd⟩ := report_eq_ok written { s with disk := d' }
    exact .inl ⟨written, s', by rw [hd], hr⟩
  | error e d' => exact .inr ⟨e, { s with disk := d' }, rfl, rfl⟩

/-- A commit in a run leaves the disk of the commit behind. -/
theorem disk_after_commit (c : Changes RawText) (s : Session) :
    (after (commit c false) s).disk = after (Changes.commit c) s.disk := by
  rcases commit_cases c s with ⟨_, s', hd, hrun⟩ | ⟨_, s', hd, hrun⟩
  · rw [after_of_ok hrun, after_of_ok hd]
  · rw [after_of_error hrun, after_of_error hd]

theorem error?_commit (c : Changes RawText) (s : Session) :
    error? (commit c false) s = error? (Changes.commit c) s.disk := by
  rcases commit_cases c s with ⟨_, s', hd, hrun⟩ | ⟨_, s', hd, hrun⟩
  · rw [error?, error?, hrun, hd]
  · rw [error?, error?, hrun, hd]

end Generation

/-! ## The outcome -/

theorem apart_of_isPlain {α : Type} {t : FileTree} {c : Changes α} (hplain : ∀ w ∈ c, w.1.IsPlain)
    (hc : (c.map (·.1)).Nodup)
    (hs : ∀ w ∈ c, ∀ q ∈ w.1.sibling?,
      t.file? (t.locate q) = none ∧ q ∉ c.map (·.1)) : Apart t (c.map (·.1)) := by
  have hpaths : ∀ p ∈ c.map (·.1), p.IsPlain := fun p hp => by
    obtain ⟨w, hw, rfl⟩ := List.mem_map.1 hp
    exact hplain w hw
  refine ⟨?_, fun p hp q hq => ?_, fun p hp => tells_of_not_mem_above (hpaths p hp).parts⟩
  · exact List.Nodup.map_on (fun p hp q hq => FileTree.locate_inj (hpaths p hp) (hpaths q hq)) hc
  · obtain ⟨w, hw, rfl⟩ := List.mem_map.1 hp
    refine ⟨(hs w hw q hq).1, fun hm => (hs w hw q hq).2 ?_⟩
    obtain ⟨p', hp', heq⟩ := List.mem_map.1 hm
    have hsame := FileTree.locate_inj (hpaths p' hp')
      (FileTree.isPlain_of_sibling? (hplain w hw) hq) heq
    exact hsame ▸ hp'

/-- The temporary sibling that a commit leaves behind with a failure: that beside the first path
whose text cannot be encoded, if the failure is that it cannot. -/
def leftBehind? (c : Changes RawText) (e : Failure) : Option Path :=
  if e.isUnencodable then (c.find? fun w => w.2.text?.isNone).bind (·.1.sibling?) else none

/-- Whether a place holds a raw text, which then is a text. -/
def FileTree.Holds (t : FileTree) (l : Location) (raw : RawText) : Prop :=
  ∃ text : Text, raw = text ∧ t.file? l = some (Utf8.encode text)

section Outcome

variable {t : FileTree} {c : Changes RawText} {failure : Option Failure}
  {files : Location → Option Bytes} {p q : Path}

theorem leftBehind?_of_encodeRaw_eq_error {raw : RawText} {e : Utf8.EncodeError}
    (hraw : Utf8.encodeRaw raw = .error e) (before : Changes) (later : Changes RawText) :
    leftBehind? (before.raw ++ (p, raw) :: later) (.file (.unencodable e)) = p.sibling? := by
  have hbefore : before.raw.find? (fun w => w.2.text?.isNone) = none := by
    rw [List.find?_eq_none]
    intro w hw
    obtain ⟨⟨p, text⟩, -, rfl⟩ := List.mem_map.1 hw
    simp
  simp [leftBehind?, Failure.isUnencodable, FileError.isUnencodable, List.find?_append, hbefore,
    Utf8.text?_of_encodeRaw_eq_error hraw]

/-- What is left behind is a sibling. -/
theorem sibling_of_leftBehind (hq : q ∈ failure.bind (leftBehind? c)) :
    ∃ w ∈ c, q ∈ w.1.sibling? := by
  obtain ⟨e, -, hq⟩ := Option.bind_eq_some_iff.1 hq
  unfold leftBehind? at hq
  split at hq
  · obtain ⟨w, hw, hq⟩ := Option.bind_eq_some_iff.1 hq
    exact ⟨w, List.mem_of_find?_eq_some hw, hq⟩
  · cases hq

/-- What is left behind is empty. -/
theorem Changes.Ends.left (h : Ends t c failure files) (hq : q ∈ failure.bind (leftBehind? c)) :
    files (t.locate q) = some [] := by
  cases h with
  | written => cases hq
  | failed _ he => simp [leftBehind?, he] at hq
  | brokenOff hc hraw hsib =>
    rw [hc, Option.bind_some, leftBehind?_of_encodeRaw_eq_error hraw, hsib, Option.mem_some] at hq
    rw [hq, Function.update_self]

/-- Everywhere else the first texts were written, or not even those. -/
theorem Changes.Ends.files_eq (h : Ends t c failure files) :
    ∃ (before : Changes) (later : Changes RawText), c = before.raw ++ later ∧
      ∀ l, (∀ q ∈ failure.bind (leftBehind? c), t.locate q ≠ l) →
        files l = t.file? l ∨ files l = overwritten t before l := by
  cases h with
  | written hc => exact ⟨_, [], by simpa using hc, fun _ _ => .inr rfl⟩
  | failed hc _ _ hfiles => exact ⟨_, _, hc, fun l _ => hfiles l⟩
  | brokenOff hc hraw hsib =>
    refine ⟨_, _, hc, fun l hl => .inr (Function.update_of_ne ?_ _ _)⟩
    rw [hc, Option.bind_some, leftBehind?_of_encodeRaw_eq_error hraw] at hl
    exact (hl _ hsib).symm

/-- What is left behind is in the place of no path. -/
theorem locate_ne_of_leftBehind {w : Path × RawText} (hap : Apart t (c.map (·.1)))
    (hq : q ∈ failure.bind (leftBehind? c)) (hw : w ∈ c) : t.locate q ≠ t.locate w.1 := by
  intro heq
  obtain ⟨w', hw', hsib⟩ := sibling_of_leftBehind hq
  refine (hap.siblings w'.1 (List.mem_map_of_mem hw') q hsib).2 ?_
  exact heq ▸ List.mem_map_of_mem (List.mem_map_of_mem hw)

/-- In the place of a path the bytes are as before, or those of its new text. -/
theorem Changes.Ends.at_path {w : Path × RawText} (h : Ends t c failure files)
    (hap : Apart t (c.map (·.1))) (hw : w ∈ c) :
    files (t.locate w.1) = t.file? (t.locate w.1) ∨
      ∃ text : Text, w.2 = text ∧ files (t.locate w.1) = some (Utf8.encode text) := by
  obtain ⟨before, later, hsplit, hfiles⟩ := h.files_eq
  have hdistinct := hap.distinct
  rw [hsplit, List.map_append, map_fst_raw, List.map_append, List.map_map] at hdistinct
  obtain ⟨hbefore, -, hapart⟩ := List.nodup_append.1 hdistinct
  refine (hfiles _ fun q hq => locate_ne_of_leftBehind hap hq hw).elim .inl fun hover => ?_
  rw [hsplit, List.mem_append] at hw
  rcases hw with hw | hw
  · obtain ⟨⟨p, text⟩, hmem, rfl⟩ := List.mem_map.1 hw
    exact .inr ⟨text, rfl, hover.trans (overwritten_of_mem hbefore hmem)⟩
  · refine .inl (hover.trans (overwritten_of_not_mem before fun hm => ?_))
    exact hapart _ hm _ (List.mem_map_of_mem (List.mem_map_of_mem hw)) rfl

/-- In the place of no path the bytes are as before, unless something is left behind there. -/
theorem Changes.Ends.elsewhere {l : Location} (h : Ends t c failure files)
    (hl : ∀ w ∈ c, t.locate w.1 ≠ l)
    (hleft : ∀ q ∈ failure.bind (leftBehind? c), t.locate q ≠ l) : files l = t.file? l := by
  obtain ⟨before, later, hsplit, hfiles⟩ := h.files_eq
  refine (hfiles l hleft).elim id fun hover => ?_
  refine hover.trans (overwritten_of_not_mem before fun hm => ?_)
  obtain ⟨w, hw, heq⟩ := List.mem_map.1 hm
  exact hl (w.1, w.2.raw) (hsplit ▸ List.mem_append_left _ (List.mem_map_of_mem hw)) heq

end Outcome

/-- **All or nothing.** A commit of changes to plain paths beside which no temporary sibling stands
writes every new text if it ends well. If it fails and says so every file is as before, and if it
breaks off each of its files is as before or holds its whole new text. A sibling is left behind only
if the commit breaks off at a text that cannot be encoded: the one beside the first such path, and
it is empty. No other file changes. -/
theorem commit_outcome (s : Session) (c : Changes RawText) (hwf : s.disk.tree.WF)
    (hplain : ∀ w ∈ c, w.1.IsPlain) (hc : (c.map (·.1)).Nodup)
    (hs : ∀ w ∈ c, ∀ q ∈ w.1.sibling?,
      s.disk.tree.file? (s.disk.tree.locate q) = none ∧ q ∉ c.map (·.1)) :
    let t := s.disk.tree
    let t' := (after (Generation.commit c false) s).disk.tree
    let failure := error? (Generation.commit c false) s
    let left := failure.bind (leftBehind? c)
    (match failure with
      | none => ∀ w ∈ c, t'.Holds (t.locate w.1) w.2
      | some e =>
        if e.isReported then ∀ l, t'.file? l = t.file? l
        else ∀ w ∈ c, t'.file? (t.locate w.1) = t.file? (t.locate w.1) ∨
          t'.Holds (t.locate w.1) w.2) ∧
    (∀ w ∈ c, ∀ q ∈ w.1.sibling?,
      t'.file? (t.locate q) = if left = some q then some [] else none) ∧
    ∀ l, (∀ w ∈ c, t.locate w.1 ≠ l) → (∀ q ∈ left, t.locate q ≠ l) → t'.file? l = t.file? l := by
  intro t t' failure left
  have hap : Apart t (c.map (·.1)) := apart_of_isPlain hplain hc hs
  have hends : Ends t c failure t'.file? := by
    have h := commit_ends hwf hap
    rwa [← Generation.error?_commit, ← Generation.disk_after_commit] at h
  refine ⟨?_, fun w hw q hq => ?_, fun l => hends.elsewhere⟩
  · cases hend : failure with
    | none =>
      rw [hend] at hends
      obtain ⟨texts, htexts, hall⟩ := hends.of_none
      intro w hw
      rw [htexts] at hw hap
      obtain ⟨⟨p, text⟩, hmem, rfl⟩ := List.mem_map.1 hw
      rw [map_fst_raw] at hap
      exact ⟨text, rfl, by rw [hall]; exact overwritten_of_mem hap.nodup_locations hmem⟩
    | some e =>
      rw [hend] at hends
      dsimp only
      split
      · next he => exact fun l => congrFun (hends.undone he) l
      · exact fun w hw => hends.at_path hap hw
  · obtain ⟨hnone, hnot⟩ := hap.siblings w.1 (List.mem_map_of_mem hw) q hq
    by_cases hleft : left = some q
    · rw [if_pos hleft]
      exact hends.left hleft
    · rw [if_neg hleft, ← hnone]
      refine hends.elsewhere (fun w' hw' heq => ?_) fun q' hq' heq => ?_
      · exact hnot (heq ▸ List.mem_map_of_mem (List.mem_map_of_mem hw'))
      · obtain ⟨w', hw', hsib⟩ := sibling_of_leftBehind hq'
        have hsame := FileTree.locate_inj (FileTree.isPlain_of_sibling? (hplain w' hw') hsib)
          (FileTree.isPlain_of_sibling? (hplain w hw) hq) heq
        exact hleft (hsame ▸ hq')

/-- Of three files the second cannot be put in its place: the first gets its text back. -/
theorem commit_outcome_second_refused :
    let tree : FileTree := ⟨["w".toList], [(["w".toList], .directory),
      (["w".toList, "a.rs".toList], .file (Utf8.encode "old".toList))]⟩
    let s : Session := { disk := { tree, refused := [1] } }
    let c : Changes RawText := [(Path.ofText "a.rs".toList, Text.raw "new".toList),
      (Path.ofText "b/c.rs".toList, Text.raw "text".toList), (Path.ofText "d.rs".toList, [])]
    tree.WF ∧ (∀ w ∈ c, w.1.IsPlain) ∧ (c.map (·.1)).Nodup ∧
      (∀ w ∈ c, ∀ q ∈ w.1.sibling?, tree.file? (tree.locate q) = none ∧ q ∉ c.map (·.1)) ∧
      (error? (Generation.commit c false) s).any (·.isReported) = true ∧
        ∀ l, (after (Generation.commit c false) s).disk.tree.file? l = tree.file? l := by
  intro tree s c
  have hwf : tree.WF := FileTree.wf_of_nodes (by decide)
  have hplain : ∀ w ∈ c, w.1.IsPlain := by decide
  have hc : (c.map (·.1)).Nodup := by decide
  have hs : ∀ w ∈ c, ∀ q ∈ w.1.sibling?,
      tree.file? (tree.locate q) = none ∧ q ∉ c.map (·.1) := by decide
  have hfails : (error? (Generation.commit c false) s).any (·.isReported) = true := by
    decide +kernel
  obtain ⟨e, he, hrep⟩ := (Option.any_eq_true ..).1 hfails
  have h := (commit_outcome s c hwf hplain hc hs).1
  rw [he] at h
  dsimp only at h
  rw [if_pos hrep] at h
  exact ⟨hwf, hplain, hc, hs, hfails, h⟩

/-- A text that cannot be encoded: the commit breaks off, and an empty temporary sibling stays
beside the file that was to be written. -/
theorem commit_leaves_sibling :
    let tree : FileTree := ⟨["w".toList], [(["w".toList], .directory)]⟩
    let s : Session := { disk := { tree } }
    let path := Path.ofText "a.rs".toList
    let sibling := Path.ofText ".a.rs.new_unary".toList
    let c : Changes RawText := [(path, [.surrogate 0])]
    tree.WF ∧ (∀ w ∈ c, w.1.IsPlain) ∧ (c.map (·.1)).Nodup ∧
      (∀ w ∈ c, ∀ q ∈ w.1.sibling?, tree.file? (tree.locate q) = none ∧ q ∉ c.map (·.1)) ∧
      (error? (Generation.commit c false) s).map (·.message) = some
        "'utf-8' codec can't encode character '\\ud800' in position 0: surrogates not allowed".toList ∧
      path.sibling? = some sibling ∧
      (after (Generation.commit c false) s).disk.tree.file? (tree.locate sibling) = some [] := by
  intro tree s path sibling c
  exact ⟨FileTree.wf_of_nodes (by decide), by decide, by decide, by decide, by decide +kernel,
    by decide, by decide +kernel⟩

end OpScaffold
