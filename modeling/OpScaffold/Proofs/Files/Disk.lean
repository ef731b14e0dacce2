import OpScaffold.Files.Disk
import OpScaffold.Proofs.Action
import OpScaffold.Proofs.Files.Location

/-!
# OpScaffold.Proofs.Files.Disk

What the actions on a disk do to its files. Writing a text changes its file if it succeeds
(`files_of_write`). How it fails is told with what it leaves behind (`fails_of_write`): if the
system refuses a step, at most the place of the temporary sibling is emptied; if the path cannot
even be handed to it, no file changes; and a raw text that cannot be encoded leaves an empty
sibling. Whether writing succeeds or not, the directories that were there stay there and the tree
stays well-formed (`preserves_sound_write`).
-/

namespace OpScaffold

open OpScaffold.Action

/-- Whether an error is that of a text that cannot be encoded. -/
def FileError.isUnencodable : FileError → Bool
  | .unencodable _ => true
  | _ => false

theorem FileError.isUnencodable_of_isFromSystem {e : FileError} (h : e.isFromSystem = true) :
    e.isUnencodable = false := by
  cases e <;> first | rfl | cases h

/-! ## Trees that grow out of one another -/

namespace FileTree

variable {t t' t₀ : FileTree} {p q : Path}

/-- `t'` is well-formed and has all directories of `t`. -/
structure Sound (t t' : FileTree) : Prop where
  wf : t'.WF
  keeps : t'.Extends t

theorem Sound.refl (h : t.WF) : t.Sound t := ⟨h, .refl t⟩

theorem Sound.trans {t'' : FileTree} (h : t.Sound t') (h' : t'.Sound t'') : t.Sound t'' :=
  ⟨h'.wf, h'.keeps.trans h.keeps⟩

theorem sound_makeDirectory (h : t.WF) (ht : t.makeDirectory p = .ok t') : t.Sound t' := by
  obtain ⟨hp, -, rfl⟩ := makeDirectory_eq_ok ht
  exact ⟨h.put_slot hp (.inl rfl), extends_put_directory hp.ne_nil⟩

theorem sound_write {bytes : Bytes} (h : t.WF) (ht : t.write p bytes = .ok t') : t.Sound t' := by
  obtain ⟨hp, hd, rfl⟩ := write_eq_ok ht
  exact ⟨h.put_slot hp (.inr hd), extends_put_file hp.ne_nil hd bytes⟩

theorem sound_unlink (h : t.WF) (ht : t.unlink p = .ok t') : t.Sound t' := by
  obtain ⟨hp, hf, rfl⟩ := unlink_eq_ok ht
  have hd := not_hasDirectory_of_isSome hf
  exact ⟨h.erase hp.ne_nil hd, extends_erase hp.ne_nil hd⟩

theorem sound_replace (h : t.WF) (ht : t.replace p q = .ok t') : t.Sound t' := by
  obtain ⟨bytes, hp, hq, hf, hd, rfl⟩ := replace_eq_ok ht
  have hdp := not_hasDirectory_of_isSome (t := t) (l := t.locate p) (by rw [hf]; rfl)
  have he : (t.erase (t.locate p)).Extends t := extends_erase hp.ne_nil hdp
  have hde : ¬ (t.erase (t.locate p)).HasDirectory (t.locate q) := by
    rwa [hasDirectory_erase hp.ne_nil hdp]
  have hw := (h.erase hp.ne_nil hdp).put_slot (hq.extends he) (n := .file bytes)
  rw [he.locate_eq] at hw
  exact ⟨hw (.inr hde), (extends_put_file hq.ne_nil hde bytes).trans he⟩

/-- `t'` is well-formed and has the directories of `t` and no others. -/
structure Level (t t' : FileTree) : Prop where
  sound : t.Sound t'
  only : ∀ l, t'.HasDirectory l → t.HasDirectory l

theorem Level.refl (h : t.WF) : t.Level t := ⟨.refl h, fun _ hl => hl⟩

theorem Level.trans {t'' : FileTree} (h : t.Level t') (h' : t'.Level t'') : t.Level t'' :=
  ⟨h.sound.trans h'.sound, fun l hl => h.only l (h'.only l hl)⟩

/-- Where the files are the same as well, everything is. -/
theorem Level.node?_eq {l : Location} (h : t.Level t') (hf : t'.file? l = t.file? l) :
    t'.node? l = t.node? l :=
  node?_eq_of_views hf ⟨h.only l, h.sound.keeps.directories l⟩

theorem level_write {bytes : Bytes} (h : t.WF) (ht : t.write p bytes = .ok t') : t.Level t' := by
  refine ⟨sound_write h ht, fun l hl => ?_⟩
  obtain ⟨hp, hd, rfl⟩ := write_eq_ok ht
  exact (hasDirectory_put_file hp.ne_nil hd bytes).1 hl

theorem level_unlink (h : t.WF) (ht : t.unlink p = .ok t') : t.Level t' := by
  refine ⟨sound_unlink h ht, fun l hl => ?_⟩
  obtain ⟨hp, hf, rfl⟩ := unlink_eq_ok ht
  exact (hasDirectory_erase hp.ne_nil (not_hasDirectory_of_isSome hf)).1 hl

theorem level_replace (h : t.WF) (ht : t.replace p q = .ok t') : t.Level t' := by
  refine ⟨sound_replace h ht, fun l hl => ?_⟩
  obtain ⟨bytes, hp, hq, hf, hd, rfl⟩ := replace_eq_ok ht
  have hdp := not_hasDirectory_of_isSome (t := t) (l := t.locate p) (by rw [hf]; rfl)
  have hde : ¬ (t.erase (t.locate p)).HasDirectory (t.locate q) := by
    rwa [hasDirectory_erase hp.ne_nil hdp]
  exact (hasDirectory_erase hp.ne_nil hdp).1 ((hasDirectory_put_file hq.ne_nil hde bytes).1 hl)

end FileTree

namespace Disk

variable {I : Disk → Prop} {d d' : Disk} {p : Path} {raw : RawText} {text : Text}

/-! ## Single actions -/

theorem ask_apply {α : Type} (question : FileTree → Except FileError α) (d : Disk) :
    ask question d = (match question d.tree with
      | .ok a => .ok a d
      | .error e => .error e d) := by
  change (do MonadExcept.ofExcept (question (← get).tree) : Action α) d = _
  rw [bind_apply]
  change (MonadExcept.ofExcept (question d.tree) : Action α) d = _
  cases question d.tree <;> rfl

theorem change_apply (f : FileTree → Except FileError FileTree) (d : Disk) :
    change f d = (match f d.tree with
      | .ok tree => .ok () { d with tree }
      | .error e => .error e d) := by
  unfold change
  rw [bind_apply, ask_apply]
  cases f d.tree <;> rfl

theorem replace_apply (p q : Path) (d : Disk) :
    replace p q d =
      if d.refused.contains d.replacements then
        .error .diskFull { d with replacements := d.replacements + 1 }
      else change (·.replace p q) { d with replacements := d.replacements + 1 } := by
  change (if d.refused.contains d.replacements then throw .diskFull
    else change (·.replace p q) : Action Unit) { d with replacements := d.replacements + 1 } = _
  split <;> rfl

theorem preserves_ask {α : Type} (question : FileTree → Except FileError α) :
    Preserves I (ask question) := by
  intro d hd
  rw [after, ask_apply]
  cases question d.tree <;> exact hd

theorem preserves_change {f : FileTree → Except FileError FileTree}
    (h : ∀ d tree, I d → f d.tree = .ok tree → I { d with tree }) : Preserves I (change f) := by
  intro d hd
  rw [after, change_apply]
  cases hf : f d.tree with
  | ok tree => exact h d tree hd hf
  | error e => exact hd

/-! ## Invariants -/

/-- An invariant that allows for one more attempt to put a file in its place. -/
theorem preserves_replace (hI : ∀ d, I d → I { d with replacements := d.replacements + 1 })
    {p q : Path} (h : Preserves I (change (·.replace p q))) : Preserves I (replace p q) := by
  intro d hd
  have hr := replace_apply p q d
  split at hr
  · rw [after_of_error hr]
    exact hI d hd
  · rw [after, hr]
    exact h _ (hI d hd)

/-- What making directories preserves, making all directories above preserves. -/
theorem preserves_ensureDirectories (h : ∀ p, Preserves I (change (·.makeDirectory p)))
    (p : Path) : Preserves I (ensureDirectories p) := by
  have hone : ∀ p, Preserves I (ensureDirectory p) := by
    intro p
    refine (h p).tryCatch fun e => (preserves_ask _).bind fun b => ?_
    split
    · exact .pure ()
    · exact .throw e
  have hall : ∀ parts, Preserves I (ensureReversed p.origin parts) := by
    intro parts
    induction parts with
    | nil => exact hone _
    | cons name above ih =>
      refine (h _).tryCatch fun e => ?_
      split
      · exact ih.bind fun _ => hone _
      · refine (preserves_ask _).bind fun b => ?_
        split
        · exact .pure ()
        · exact .throw _
  exact hall p.parts.reverse

/-- An invariant of removing files is one of giving up a write. -/
theorem preserves_abandon (hu : ∀ q, Preserves I (change (·.unlink q))) (sibling : Path)
    (e : FileError) : Preserves I (abandon sibling e) := by
  have hunlink : Preserves I (unlinkIfThere sibling) := by
    refine (hu _).tryCatch fun e => ?_
    split
    · exact .pure ()
    · exact .throw _
  unfold abandon
  dsimp only
  split
  · exact hunlink.bind fun _ => .throw e
  · exact .throw e

/-- An invariant of the single changes, and of making the directories above a file, is one of
writing the file. -/
theorem preserves_write (hd : Preserves I (ensureDirectories p.parent))
    (hw : ∀ q bytes, Preserves I (change (·.write q bytes)))
    (hu : ∀ q, Preserves I (change (·.unlink q))) (hr : ∀ q r, Preserves I (replace q r)) :
    Preserves I (write p raw) := by
  have htext : ∀ q, Preserves I (writeText q raw) := by
    intro q
    unfold writeText
    split
    · exact hw _ _
    · exact (hw _ _).bind fun _ => .throw _
  have hthrough : ∀ sibling, Preserves I (writeThrough sibling p raw) := fun sibling =>
    (htext _).bind fun _ => (preserves_ask _).bind fun _ => hr _ _
  refine hd.bind fun _ => ?_
  split
  · exact .throw _
  · next sibling _ => exact (hthrough sibling).tryCatch (preserves_abandon hu sibling)

/-- The tree of a disk stays sound. -/
theorem preserves_sound {t₀ : FileTree} {f : FileTree → Except FileError FileTree}
    (h : ∀ t t', t.WF → f t = .ok t' → t.Sound t') :
    Preserves (fun d => t₀.Sound d.tree) (change f) :=
  preserves_change fun _ _ hd hf => hd.trans (h _ _ hd.wf hf)

/-- The tree of a disk keeps its directories. -/
theorem preserves_level {t₀ : FileTree} {f : FileTree → Except FileError FileTree}
    (h : ∀ t t', t.WF → f t = .ok t' → t.Level t') :
    Preserves (fun d => t₀.Level d.tree) (change f) :=
  preserves_change fun _ _ hd hf => hd.trans (h _ _ hd.sound.wf hf)

theorem preserves_sound_write (t₀ : FileTree) (p : Path) (raw : RawText) :
    Preserves (fun d => t₀.Sound d.tree) (write p raw) :=
  preserves_write
    (preserves_ensureDirectories (fun _ => preserves_sound fun _ _ => FileTree.sound_makeDirectory) _)
    (fun _ _ => preserves_sound fun _ _ => FileTree.sound_write)
    (fun _ => preserves_sound fun _ _ => FileTree.sound_unlink)
    (fun _ _ => preserves_replace (fun _ hd => hd) (preserves_sound fun _ _ => FileTree.sound_replace))

/-- Which replacements are refused does not change, and their number does not go down. -/
theorem preserves_count_change (r : List Nat) (n : Nat)
    (f : FileTree → Except FileError FileTree) :
    Preserves (fun d => d.refused = r ∧ n ≤ d.replacements) (change f) :=
  preserves_change fun _ _ hd _ => hd

theorem preserves_count_write (r : List Nat) (n : Nat) (p : Path) (raw : RawText) :
    Preserves (fun d => d.refused = r ∧ n ≤ d.replacements) (write p raw) :=
  preserves_write (preserves_ensureDirectories (fun _ => preserves_count_change r n _) _)
    (fun _ _ => preserves_count_change r n _) (fun _ => preserves_count_change r n _)
    fun _ _ => preserves_replace (fun _ hd => ⟨hd.1, Nat.le_succ_of_le hd.2⟩)
      (preserves_count_change r n _)

/-! ## Directories -/

/-- Where the directory is there, making it fails, and it is looked for. -/
theorem ensureDirectories_of_reachesDirectory (h : d.tree.ReachesDirectory p) :
    ∃ e, d.tree.makeDirectory p = .error e ∧ ensureDirectories p d = (do
      if e.isFromSystem && (← ask (·.isDirectory? p)) then pure () else throw e : Action Unit) d := by
  obtain ⟨e, hmake, hne⟩ := FileTree.makeDirectory_of_reachesDirectory h
  refine ⟨e, hmake, ?_⟩
  obtain ⟨origin, parts⟩ := p
  rw [ensureDirectories]
  dsimp only
  cases hr : parts.reverse with
  | nil =>
    obtain rfl := List.reverse_eq_nil_iff.1 hr
    rw [ensureReversed, ensureDirectory, tryCatch_apply, change_apply, hmake]
  | cons name above =>
    obtain rfl : parts = (name :: above).reverse := by rw [← hr, List.reverse_reverse]
    rw [ensureReversed, tryCatch_apply, change_apply, hmake]
    dsimp only
    split
    · next hno => exact absurd rfl (hne _)
    · rfl

/-- Nothing happens where the directory is there. -/
theorem after_ensureDirectories (h : d.tree.ReachesDirectory p) :
    after (ensureDirectories p) d = d := by
  obtain ⟨e, -, hlook⟩ := ensureDirectories_of_reachesDirectory h
  rw [after, hlook]
  refine Preserves.bind (I := (· = d)) (preserves_ask _) (fun b => ?_) d rfl
  split
  · exact .pure ()
  · exact .throw e

/-- Writing into a directory that is there leaves the directories as they are. -/
theorem preserves_level_write {t₀ : FileTree} (h : t₀.ReachesDirectory p.parent) (raw : RawText) :
    Preserves (fun d => t₀.Level d.tree) (write p raw) := by
  refine preserves_write (fun d hd => ?_) (fun _ _ => preserves_level fun _ _ => FileTree.level_write)
    (fun _ => preserves_level fun _ _ => FileTree.level_unlink)
    (fun _ _ => preserves_replace (fun _ hd => hd)
      (preserves_level fun _ _ => FileTree.level_replace))
  rw [after_ensureDirectories (h.extends hd.sound.keeps)]
  exact hd

/-! ## Errors -/

/-- Whether an error is one of handing a path to the system: the system refuses it, or the path
cannot be handed over. -/
def Refuses (p : Path) (e : FileError) : Prop :=
  e.isFromSystem = true ∨ p.hasNull = true ∧ e = .nullCharacter

theorem Refuses.isUnencodable {e : FileError} (h : Refuses p e) : e.isUnencodable = false := by
  rcases h with hsys | ⟨-, rfl⟩
  · exact FileError.isUnencodable_of_isFromSystem hsys
  · rfl

theorem Refuses.congr {q : Path} {e : FileError} (h : Refuses q e) (hq : q.hasNull = p.hasNull) :
    Refuses p e :=
  h.imp_right (.imp_left hq.symm.trans)

theorem refuses_of_read {t : FileTree} {e : FileError} (h : t.read p = .error e) :
    Refuses p e := by
  unfold FileTree.read at h
  split at h
  · next hnull => cases h; exact .inr ⟨hnull, rfl⟩
  · split at h <;> cases h <;> exact .inl rfl

theorem refuses_of_makeDirectory {t : FileTree} {e : FileError}
    (h : t.makeDirectory p = .error e) : Refuses p e := by
  unfold FileTree.makeDirectory at h
  split at h
  · next hnull => cases h; exact .inr ⟨hnull, rfl⟩
  · split at h <;> cases h <;> exact .inl rfl

theorem refuses_of_treeWrite {t : FileTree} {bytes : Bytes} {e : FileError}
    (h : t.write p bytes = .error e) : Refuses p e := by
  unfold FileTree.write at h
  split at h
  · next hnull => cases h; exact .inr ⟨hnull, rfl⟩
  · split at h <;> cases h <;> exact .inl rfl

theorem refuses_of_unlink {t : FileTree} {e : FileError} (h : t.unlink p = .error e) :
    Refuses p e := by
  unfold FileTree.unlink at h
  split at h
  · next hnull => cases h; exact .inr ⟨hnull, rfl⟩
  · split at h <;> cases h <;> exact .inl rfl

theorem isFromSystem_of_isDirectory? {t : FileTree} {e : FileError}
    (h : t.isDirectory? p = .error e) : e.isFromSystem = true := by
  unfold FileTree.isDirectory? FileTree.find? at h
  split at h
  · cases h
  · split at h <;> cases h
    rfl

/-- Asking whether something is there fails only where the system refuses to look. -/
theorem isFromSystem_of_exists? {t : FileTree} {e : FileError} (h : t.exists? p = .error e) :
    e.isFromSystem = true := by
  unfold FileTree.exists? FileTree.find? at h
  split at h
  · cases h
  · split at h <;> cases h
    rfl

/-- A file is not put in the place of another because the system refuses to, or because a path
cannot be handed to it. -/
theorem isFromSystem_of_replace {t : FileTree} {p q : Path} {e : FileError}
    (h : t.replace p q = .error e) (hp : p.hasNull = false) (hq : q.hasNull = false) :
    e.isFromSystem = true := by
  unfold FileTree.replace at h
  rw [hp, hq] at h
  dsimp only at h
  split at h
  · next h' => cases h'
  · split at h
    · cases h; rfl
    · cases h; rfl
    · cases h; rfl
    · cases h; rfl
    · split at h <;> cases h
      rfl
    · cases h; rfl
    · cases h; rfl

theorem failsOnly_ask {α : Type} {E : FileError → Prop} {question : FileTree → Except FileError α}
    (h : ∀ t e, question t = .error e → E e) : FailsOnly E (ask question) := by
  intro d e d' hd
  rw [ask_apply] at hd
  cases hq : question d.tree with
  | ok a => rw [hq] at hd; cases hd
  | error e' => rw [hq] at hd; cases hd; exact h _ _ hq

theorem failsOnly_change {E : FileError → Prop} {f : FileTree → Except FileError FileTree}
    (h : ∀ t e, f t = .error e → E e) : FailsOnly E (change f) := by
  intro d e d' hd
  rw [change_apply] at hd
  cases hf : f d.tree with
  | ok tree => rw [hf] at hd; cases hd
  | error e' => rw [hf] at hd; cases hd; exact h _ _ hf

/-- A path above one that can be handed to the system can be so too. -/
theorem hasNull_of_append {origin : Origin} {names more : List Text}
    (h : (⟨origin, names⟩ : Path).hasNull = true) :
    (⟨origin, names ++ more⟩ : Path).hasNull = true := by
  unfold Path.hasNull at h ⊢
  rw [List.any_append, h, Bool.true_or]

theorem hasNull_of_parent (h : p.parent.hasNull = true) : p.hasNull = true := by
  unfold Path.parent Path.hasNull at h
  obtain ⟨name, hname, hc⟩ := List.any_eq_true.1 h
  exact List.any_eq_true.2 ⟨name, List.dropLast_subset _ hname, hc⟩

theorem failsOnly_ensureDirectories (p : Path) :
    FailsOnly (Refuses p) (ensureDirectories p) := by
  have hmake : ∀ q : Path, FailsOnly (Refuses q) (change (·.makeDirectory q)) := fun q =>
    failsOnly_change fun _ _ => refuses_of_makeDirectory
  have hlook : ∀ (q : Path) (e : FileError), Refuses q e → FailsOnly (Refuses q) (do
      if e.isFromSystem && (← ask (·.isDirectory? q)) then pure () else throw e : Action Unit) := by
    intro q e he
    refine FailsOnly.bind (failsOnly_ask fun _ _ h => .inl (isFromSystem_of_isDirectory? h)) fun b => ?_
    split
    · exact .pure ()
    · exact .throw he
  have hone : ∀ q : Path, FailsOnly (Refuses q) (ensureDirectory q) := fun q =>
    (hmake q).tryCatch (hlook q)
  have hall : ∀ parts, FailsOnly (Refuses ⟨p.origin, parts.reverse⟩)
      (ensureReversed p.origin parts) := by
    intro parts
    induction parts with
    | nil => exact hone _
    | cons name above ih =>
      refine (hmake _).tryCatch fun e he => ?_
      split
      · refine FailsOnly.bind (fun d e d' h => ?_) fun _ => hone _
        refine (ih d e d' h).imp_right fun ⟨hnull, he⟩ => ⟨?_, he⟩
        rw [List.reverse_cons]
        exact hasNull_of_append hnull
      · exact hlook _ _ he
  have h := hall p.parts.reverse
  rwa [List.reverse_reverse] at h

/-! ## Files -/

/-- Making directories changes no file, and no place where paths start. -/
theorem preserves_files_ensureDirectories (t : FileTree) (p : Path) :
    Preserves (fun d => d.tree.file? = t.file? ∧ d.tree.here = t.here) (ensureDirectories p) := by
  refine preserves_ensureDirectories (fun q => preserves_change fun d t' hd ht => ?_) p
  obtain ⟨hq, hn, rfl⟩ := FileTree.makeDirectory_eq_ok ht
  exact ⟨(FileTree.file?_put_directory hq.ne_nil hn).trans hd.1, hd.2⟩

theorem hasNull_of_sibling? {s : Path} (h : p.sibling? = some s) : s.hasNull = p.hasNull := by
  obtain ⟨name, hname, rfl⟩ := Option.map_eq_some_iff.1 h
  obtain ⟨names, hparts⟩ := List.getLast?_eq_some_iff.1 hname
  simp [Path.hasNull, Path.withName, hparts, Path.siblingName]

theorem hasNull_of_write {t t' : FileTree} {bytes : Bytes} (h : t.write p bytes = .ok t') :
    p.hasNull = false := by
  unfold FileTree.write at h
  split at h
  · cases h
  · next hp => simpa using hp

/-- A file that was written can be taken away again. -/
theorem unlink_of_write {t t' : FileTree} {bytes : Bytes} (h : t.write p bytes = .ok t') :
    t'.unlink p = .ok (t'.erase (t.locate p)) := by
  have hnull := hasNull_of_write h
  obtain ⟨hp, hd, rfl⟩ := FileTree.write_eq_ok h
  have he := FileTree.extends_put_file hp.ne_nil hd bytes
  unfold FileTree.write at h
  rw [hnull] at h
  split at h
  · next h' => cases h'
  · split at h
    · cases h
    · cases h
    · cases h
    · next l n _ hs =>
      obtain ⟨rfl, -, -⟩ := FileTree.slot_eq_some hs
      have hs' := he.slot_eq_some hs
      rw [FileTree.node?_put_self t hp.ne_nil] at hs'
      simp [FileTree.unlink, hnull, hs']

theorem unlinkIfThere_of_ok {tree : FileTree} (h : d.tree.unlink p = .ok tree) :
    unlinkIfThere p d = .ok () { d with tree } := by
  unfold unlinkIfThere
  rw [tryCatch_apply, change_apply, h]

/-- Where a file cannot be removed the disk stays as it is, and that may be an error. -/
theorem unlinkIfThere_of_error {e : FileError} (h : d.tree.unlink p = .error e) :
    unlinkIfThere p d = .ok () d ∨ unlinkIfThere p d = .error e d := by
  unfold unlinkIfThere
  rw [tryCatch_apply, change_apply, h]
  dsimp only
  split
  · exact .inl rfl
  · exact .inr rfl

/-- Nothing is left where a file was to be removed, or all files are as before. -/
theorem files_after_unlinkIfThere (p : Path) (d : Disk) :
    (after (unlinkIfThere p) d).tree.file? = d.tree.file? ∨
      (after (unlinkIfThere p) d).tree.file? =
        Function.update d.tree.file? (d.tree.locate p) none := by
  cases hu : d.tree.unlink p with
  | ok tree =>
    rw [after_of_ok (unlinkIfThere_of_ok hu)]
    obtain ⟨hp, -, rfl⟩ := FileTree.unlink_eq_ok hu
    exact .inr (FileTree.file?_erase hp.ne_nil)
  | error e =>
    rcases unlinkIfThere_of_error hu with h | h
    · exact .inl (by rw [after_of_ok h])
    · exact .inl (by rw [after_of_error h])

/-- Writing through a sibling fails before anything is written, or with an empty sibling because the
text cannot be encoded, or the sibling is written and then put in its place or left behind. -/
theorem writeThrough_cases {sibling : Path} (hnull : sibling.hasNull = p.hasNull) (raw : RawText) :
    (∃ e, writeThrough sibling p raw d = .error e d ∧ Refuses p e) ∨
    (∃ e t, Utf8.encodeRaw raw = .error e ∧ d.tree.write sibling [] = .ok t ∧
      writeThrough sibling p raw d = .error (.unencodable e) { d with tree := t }) ∨
    ∃ (text : Text) (t : FileTree), raw = text ∧
      d.tree.write sibling (Utf8.encode text) = .ok t ∧
      ((∃ e d', writeThrough sibling p raw d = .error e d' ∧ e.isFromSystem = true ∧ d'.tree = t) ∨
        ∃ d', writeThrough sibling p raw d = .ok () d' ∧ t.replace sibling p = .ok d'.tree) := by
  unfold writeThrough writeText
  rw [bind_apply]
  cases hraw : Utf8.encodeRaw raw with
  | error e =>
    dsimp only
    rw [bind_apply, change_apply]
    cases hw : d.tree.write sibling [] with
    | error e' => exact .inl ⟨e', rfl, (refuses_of_treeWrite hw).congr hnull⟩
    | ok t => exact .inr (.inl ⟨e, t, rfl, rfl, rfl⟩)
  | ok bytes =>
    obtain ⟨text, rfl, rfl⟩ := Utf8.encodeRaw_eq_ok_iff.1 hraw
    dsimp only
    rw [change_apply]
    cases hw : d.tree.write sibling (Utf8.encode text) with
    | error e => exact .inl ⟨e, rfl, (refuses_of_treeWrite hw).congr hnull⟩
    | ok t =>
      refine .inr (.inr ⟨text, t, rfl, hw, ?_⟩)
      dsimp only
      rw [bind_apply, ask_apply]
      dsimp only
      cases hx : t.exists? p with
      | error e => exact .inl ⟨e, _, rfl, isFromSystem_of_exists? hx, rfl⟩
      | ok b =>
        dsimp only
        rw [replace_apply]
        split
        · exact .inl ⟨_, _, rfl, rfl, rfl⟩
        · rw [change_apply]
          dsimp only
          cases hr : t.replace sibling p with
          | error e =>
            have hp := hasNull_of_write hw
            exact .inl ⟨e, _, rfl, isFromSystem_of_replace hr hp (hnull ▸ hp), rfl⟩
          | ok t' => exact .inr ⟨_, rfl, rfl⟩

/-- A write is given up with its error, and with the sibling removed if the system refused a step;
or the sibling cannot be removed, and the disk stays as it is. -/
theorem abandon_cases (sibling : Path) (e : FileError) (d : Disk) :
    abandon sibling e d =
      .error e (if e.isFromSystem then after (unlinkIfThere sibling) d else d) ∨
    ∃ e', d.tree.unlink sibling = .error e' ∧ abandon sibling e d = .error e' d := by
  unfold abandon
  cases e.isFromSystem with
  | false => exact .inl rfl
  | true =>
    dsimp only [if_true]
    rw [if_pos rfl, if_pos rfl, bind_apply]
    cases hu : d.tree.unlink sibling with
    | ok tree =>
      rw [after_of_ok (unlinkIfThere_of_ok hu), unlinkIfThere_of_ok hu]
      exact .inl rfl
    | error e' =>
      rcases unlinkIfThere_of_error hu with h | h
      · rw [after_of_ok h, h]
        exact .inl rfl
      · rw [h]
        exact .inr ⟨e', rfl, rfl⟩

/-- The parts of a write that succeeds: its raw text is a text. -/
theorem steps_of_write_eq_ok (h : write p raw d = .ok () d') :
    ∃ (text : Text) (d₁ : Disk) (sibling : Path) (t : FileTree), raw = text ∧
      ensureDirectories p.parent d = .ok () d₁ ∧ p.sibling? = some sibling ∧
      d₁.tree.write sibling (Utf8.encode text) = .ok t ∧ t.replace sibling p = .ok d'.tree := by
  obtain ⟨_, d₁, hd₁, h⟩ := bind_eq_ok.1 h
  cases hsib : p.sibling? with
  | none => rw [hsib] at h; cases h
  | some sibling =>
    rw [hsib] at h
    dsimp only at h
    rw [tryCatch_apply] at h
    have habandon : ∀ e d₂, abandon sibling e d₂ ≠ .ok () d' := fun e d₂ => by
      rcases abandon_cases sibling e d₂ with he' | ⟨e', -, he'⟩ <;> simp [he']
    rcases writeThrough_cases (d := d₁) (hasNull_of_sibling? hsib) raw with
      ⟨e, he, -⟩ | ⟨e, t, -, -, he⟩ | ⟨text, t, hraw, hw, ⟨e, d₂, he, -, -⟩ | ⟨d₂, he, hr⟩⟩
    · rw [he] at h
      exact absurd h (habandon e d₁)
    · rw [he] at h
      exact absurd h (habandon _ _)
    · rw [he] at h
      exact absurd h (habandon e d₂)
    · rw [he] at h
      cases h
      exact ⟨text, d₁, sibling, t, hraw, hd₁, rfl, hw, hr⟩

/-- Only texts are written. -/
theorem text_of_write (h : write p raw d = .ok () d') : ∃ text : Text, raw = text := by
  obtain ⟨text, _, _, _, hraw, -⟩ := steps_of_write_eq_ok h
  exact ⟨text, hraw⟩

theorem locate_of_ensureDirectories {q : Path} {d₁ : Disk}
    (h : ensureDirectories q d = .ok () d₁) (p : Path) : d₁.tree.locate p = d.tree.locate p := by
  obtain ⟨-, hhere⟩ := (preserves_files_ensureDirectories d.tree q).of_ok ⟨rfl, rfl⟩ h
  rw [FileTree.locate, FileTree.locate, FileTree.start, FileTree.start, hhere]

/-- A file that is written holds its text. Whatever stood in the place of its sibling is gone, and
no other file changes. -/
theorem files_of_write (h : write p text d = .ok () d') :
    p.hasNull = false ∧ ∃ sibling, p.sibling? = some sibling ∧ d'.tree.file? =
      Function.update (Function.update d.tree.file? (d.tree.locate sibling) none)
        (d.tree.locate p) (some (Utf8.encode text)) := by
  obtain ⟨text', d₁, sibling, t, hraw, hd₁, hsib, hw, hr⟩ := steps_of_write_eq_ok h
  obtain rfl := Text.raw_inj.1 hraw
  obtain ⟨hfiles, -⟩ := (preserves_files_ensureDirectories d.tree p.parent).of_ok ⟨rfl, rfl⟩ hd₁
  have hloc := locate_of_ensureDirectories hd₁
  refine ⟨hasNull_of_sibling? hsib ▸ hasNull_of_write hw, sibling, hsib, ?_⟩
  obtain ⟨hslot, hdir, rfl⟩ := FileTree.write_eq_ok hw
  have he := FileTree.extends_put_file hslot.ne_nil hdir (Utf8.encode text)
  obtain ⟨bytes, hs', hp, hf, -, ht⟩ := FileTree.replace_eq_ok hr
  rw [he.locate_eq, FileTree.file?_put_file hslot.ne_nil, Function.update_self] at hf
  cases hf
  rw [ht, FileTree.file?_put_file hp.ne_nil, FileTree.file?_erase hs'.ne_nil, he.locate_eq,
    he.locate_eq, FileTree.file?_put_file hslot.ne_nil, Function.update_idem, hfiles, hloc, hloc]

/-- A file that is written holds its text, and no other file changes. -/
theorem files_of_write_eq_ok (hs : ∀ s, p.sibling? = some s → d.tree.file? (d.tree.locate s) = none)
    (h : write p text d = .ok () d') :
    p.hasNull = false ∧ d'.tree.file? =
      Function.update d.tree.file? (d.tree.locate p) (some (Utf8.encode text)) := by
  obtain ⟨hnull, sibling, hsib, hf⟩ := files_of_write h
  refine ⟨hnull, ?_⟩
  rw [hf, ← hs sibling hsib, Function.update_eq_self]

/-- How writing a file fails, and what that leaves behind. -/
inductive Fails (p : Path) (raw : RawText) (d d' : Disk) : FileError → Prop
  /-- The system refuses a step; at most the place of the sibling is emptied. -/
  | refused {e : FileError} (hsys : e.isFromSystem = true)
    (hf : d'.tree.file? = d.tree.file? ∨ ∃ sibling, p.sibling? = some sibling ∧
      d'.tree.file? = Function.update d.tree.file? (d.tree.locate sibling) none) :
    Fails p raw d d' e
  /-- The path cannot be handed to the system. -/
  | nullCharacter (hp : p.hasNull = true) (hf : d'.tree.file? = d.tree.file?) :
    Fails p raw d d' .nullCharacter
  /-- No sibling can stand beside the path. -/
  | noName (hp : p.parts = []) (hf : d'.tree.file? = d.tree.file?) : Fails p raw d d' (.noName p)
  /-- The text cannot be encoded; its sibling was opened before, and stays. -/
  | unencodable {e : Utf8.EncodeError} {sibling : Path} (hraw : Utf8.encodeRaw raw = .error e)
    (hs : p.sibling? = some sibling)
    (hf : d'.tree.file? = Function.update d.tree.file? (d.tree.locate sibling) (some [])) :
    Fails p raw d d' (.unencodable e)

/-- A step that is refused before anything is written ends the write. -/
theorem Fails.of_refuses {e : FileError} (h : Refuses p e) (hf : d'.tree.file? = d.tree.file?) :
    Fails p raw d d' e := by
  rcases h with hsys | ⟨hnull, rfl⟩
  · exact .refused hsys (.inl hf)
  · exact .nullCharacter hnull hf

/-- Making directories first makes no difference. -/
theorem Fails.of_ensureDirectories {q : Path} {d₁ : Disk} {e : FileError}
    (hd₁ : ensureDirectories q d = .ok () d₁) (h : Fails p raw d₁ d' e) : Fails p raw d d' e := by
  obtain ⟨hfiles, -⟩ := (preserves_files_ensureDirectories d.tree q).of_ok ⟨rfl, rfl⟩ hd₁
  have hloc := locate_of_ensureDirectories hd₁
  cases h with
  | refused hsys hf => simp only [hfiles, hloc] at hf; exact .refused hsys hf
  | nullCharacter hp hf => exact .nullCharacter hp (hf.trans hfiles)
  | noName hp hf => exact .noName hp (hf.trans hfiles)
  | unencodable hraw hs hf => rw [hfiles, hloc] at hf; exact .unencodable hraw hs hf

/-- **Failing to write.** -/
theorem fails_of_write {e : FileError} (h : write p raw d = .error e d') : Fails p raw d d' e := by
  rcases bind_eq_error.1 h with hd₁ | ⟨_, d₁, hd₁, h⟩
  · have hf := ((preserves_files_ensureDirectories d.tree p.parent).of_error ⟨rfl, rfl⟩ hd₁).1
    refine .of_refuses ?_ hf
    exact (failsOnly_ensureDirectories p.parent d e d' hd₁).imp_right (.imp_left hasNull_of_parent)
  refine .of_ensureDirectories hd₁ ?_
  cases hsib : p.sibling? with
  | none =>
    rw [hsib] at h
    cases h
    rw [Path.sibling?, Option.map_eq_none_iff, Path.name?, List.getLast?_eq_none_iff] at hsib
    exact .noName hsib rfl
  | some sibling =>
    have hnull := hasNull_of_sibling? hsib
    rw [hsib] at h
    dsimp only at h
    rw [tryCatch_apply] at h
    rcases writeThrough_cases (d := d₁) hnull raw with ⟨e', he, hrefuses⟩ |
      ⟨e', t, hraw, hw, he⟩ | ⟨text, t, hraw, hw, ⟨e', d₂, he, hsys, rfl⟩ | ⟨d₂, he, -⟩⟩
    · -- nothing was written, and at most an old sibling is removed
      rw [he] at h
      dsimp only at h
      rcases abandon_cases sibling e' d₁ with habandon | ⟨e'', hu, habandon⟩
      · rw [habandon] at h
        cases h
        by_cases hsys : e.isFromSystem = true
        · rw [if_pos hsys]
          exact .refused hsys ((files_after_unlinkIfThere sibling d₁).imp_right fun hf =>
            ⟨sibling, hsib, hf⟩)
        · rw [if_neg hsys]
          exact .of_refuses hrefuses rfl
      · rw [habandon] at h
        cases h
        exact .of_refuses ((refuses_of_unlink hu).congr hnull) rfl
    · -- the sibling was opened, and stays
      rw [he] at h
      cases h
      obtain ⟨hslot, -, rfl⟩ := FileTree.write_eq_ok hw
      exact .unencodable hraw hsib (FileTree.file?_put_file hslot.ne_nil _)
    · -- the sibling was written, and is removed again
      have hunlink := unlink_of_write hw
      rw [he] at h
      dsimp only at h
      rcases abandon_cases sibling e' d₂ with habandon | ⟨e'', hu, -⟩
      · rw [habandon, if_pos hsys, after_of_ok (unlinkIfThere_of_ok hunlink)] at h
        cases h
        obtain ⟨hslot, -, ht⟩ := FileTree.write_eq_ok hw
        refine .refused hsys (.inr ⟨sibling, hsib, ?_⟩)
        rw [FileTree.file?_erase hslot.ne_nil, ht, FileTree.file?_put_file hslot.ne_nil,
          Function.update_idem]
      · rw [hunlink] at hu
        cases hu
    · rw [he] at h
      cases h

/-- At most the place of the sibling is emptied, if the text can be encoded. -/
theorem Fails.files_cases {e : FileError} (h : Fails p raw d d' e) (he : e.isUnencodable = false) :
    d'.tree.file? = d.tree.file? ∨ ∃ sibling, p.sibling? = some sibling ∧
      d'.tree.file? = Function.update d.tree.file? (d.tree.locate sibling) none := by
  cases h with
  | refused _ hf => exact hf
  | nullCharacter _ hf => exact .inl hf
  | noName _ hf => exact .inl hf
  | unencodable => cases he

/-- A text can be encoded. -/
theorem isUnencodable_of_write {e : FileError} (h : write p text d = .error e d') :
    e.isUnencodable = false := by
  cases fails_of_write h with
  | refused hsys => exact FileError.isUnencodable_of_isFromSystem hsys
  | nullCharacter => rfl
  | noName => rfl
  | unencodable hraw => rw [Utf8.encodeRaw_raw] at hraw; cases hraw

/-- A text whose write fails changes no file. -/
theorem files_of_write_eq_error {e : FileError}
    (hs : ∀ s, p.sibling? = some s → d.tree.file? (d.tree.locate s) = none)
    (h : write p text d = .error e d') : d'.tree.file? = d.tree.file? := by
  rcases (fails_of_write h).files_cases (isUnencodable_of_write h) with hf | ⟨sibling, hsib, hf⟩
  · exact hf
  · rw [hf, ← hs sibling hsib, Function.update_eq_self]

end Disk

end OpScaffold
