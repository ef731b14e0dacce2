import OpScaffold.Proofs.Files.Disk
import OpScaffold.Proofs.Git
import OpScaffold.Proofs.Session

/-!
# OpScaffold.Proofs.Guard

What the guard does before it lets a run go on (`run_cases`): it stops without touching anything,
it passes without touching anything because no reset is to be run, or it runs one reset. A reset
is run only if the user agreed, and the run goes on behind it only if it ended well.
-/

namespace OpScaffold

open OpScaffold.Action

/-! ## Agreement -/

/-- Whether an answer is a clear yes. -/
def Answer.isYes : Answer → Bool
  | .line t => ["y".toList, "yes".toList].contains t.trim.lowerAscii
  | .endOfInput | .interrupt => false

theorem Run.confirm_eq_ok {prompt : Text} {b : Bool} {s s' : Session}
    (h : Run.confirm prompt s = .ok b s') :
    b = s.answers.head?.any Answer.isYes ∧ s'.answers = s.answers.tail := by
  unfold Run.confirm at h
  rw [bind_apply, ask_apply] at h
  cases ha : s.answers.head? with
  | none => rw [ha] at h; cases h; exact ⟨rfl, rfl⟩
  | some answer =>
    rw [ha] at h
    cases answer <;> cases h <;> exact ⟨rfl, rfl⟩

namespace Guard

variable {root script : Path} {s s' : Session}

/-- Whether the user agrees to go on: beforehand, or with a clear yes at the first prompt. -/
def agrees (assumeYes : Bool) (answers : List Answer) : Bool :=
  assumeYes || answers.head?.any Answer.isYes

/-- What the prompts behind the guard meet. -/
def answersBehind (assumeYes : Bool) (answers : List Answer) : List Answer :=
  if assumeYes then answers else answers.tail

/-! ## The reset -/

/-- The script that a reset keeps, with its bytes: the one that is a file below the root. -/
def kept? (t : FileTree) (root script : Path) : Option (Path × Bytes) :=
  match t.isFile? script, t.read script with
  | .ok true, .ok bytes => if isBelow t root script then some (script, bytes) else none
  | _, _ => none

/-- A tree with the bytes of a kept script put back, as far as they can be. -/
def restored (t : FileTree) : Option (Path × Bytes) → FileTree
  | none => t
  | some (script, bytes) =>
    match t.write (restoreTarget t script) bytes with
    | .ok t' => t'
    | .error _ => t

/-- A tree behind a reset and the restoring of the script. -/
def treeBehind (git : Git) (root script : Path) (t : FileTree) : FileTree :=
  restored (git.reset t) (kept? t root script)

/-- The disk that a run starts from whose session is `s` at first and `s'` later: the one behind
the reset, if one was run. -/
def diskBehind (script : Path) (s s' : Session) : Disk :=
  match s'.resets.drop s.resets.length with
  | [] => s.disk
  | root :: _ => { s.disk with tree := treeBehind s.git root script s.disk.tree }

/-- `s'` stands where a reset in the root leaves `s`. -/
structure Reset (root script : Path) (s s' : Session) : Prop where
  disk : s'.disk = { s.disk with tree := treeBehind s.git root script s.disk.tree }
  git : s'.git = s.git
  resets : s'.resets = s.resets ++ [root]

theorem Reset.trans {s'' : Session} (h : Reset root script s s') (h' : s'.SameGround s'') :
    Reset root script s s'' :=
  ⟨h'.disk.trans h.disk, h'.git.trans h.git, h'.resets.trans h.resets⟩

theorem Reset.of_sameGround {s'' : Session} (h : s.SameGround s') (h' : Reset root script s' s'') :
    Reset root script s s'' where
  disk := by rw [h'.disk, h.disk, h.git]
  git := h'.git.trans h.git
  resets := by rw [h'.resets, h.resets]

theorem wf_treeBehind {t : FileTree} (h : t.WF) (git : Git) (root script : Path) :
    (treeBehind git root script t).WF := by
  have hreset := h.reset git
  unfold treeBehind restored
  split
  · exact hreset
  · split
    · next t' ht => exact (FileTree.sound_write hreset ht).wf
    · exact hreset

theorem diskBehind_congr {s'' : Session} (h : s''.resets = s'.resets) :
    diskBehind script s s'' = diskBehind script s s' := by
  rw [diskBehind, diskBehind, h]

theorem diskBehind_of_sameGround (h : s.SameGround s') : diskBehind script s s' = s.disk := by
  rw [diskBehind, h.resets, List.drop_length]

theorem Reset.diskBehind_eq (h : Reset root script s s') : diskBehind script s s' = s'.disk := by
  rw [diskBehind, h.resets, List.drop_left, h.disk]

/-- Which script is to be kept is asked of the tree alone, and the session stays as it is. -/
theorem keptScript_apply (root script : Path) (s : Session) :
    keptScript root (some script) s =
      (match s.disk.tree.isFile? script with
        | .error e => .error (.file e) s
        | .ok false => .ok none s
        | .ok true =>
          if root.hasNull then .error (.file .nullCharacter) s
          else if !isBelow s.disk.tree root script then .ok none s
          else match s.disk.tree.read script with
            | .error e => .error (.file e) s
            | .ok bytes => .ok (some (script, bytes)) s) := by
  unfold keptScript
  dsimp only
  rw [bind_apply, Run.askTree_apply]
  cases s.disk.tree.isFile? script with
  | error e => rfl
  | ok b =>
    cases b with
    | false => rfl
    | true =>
      simp only [Bool.not_true, Bool.false_eq_true, if_false]
      by_cases hnull : root.hasNull = true
      · rw [if_pos hnull, if_pos hnull]
        rfl
      · rw [if_neg hnull, if_neg hnull]
        change (if (!isBelow s.disk.tree root script) = true then pure none
          else Run.askTree (·.read script) >>= fun bytes => pure (some (script, bytes)) :
            Run (Option (Path × Bytes))) s = _
        split
        · rfl
        · rw [bind_apply, Run.askTree_apply]
          cases s.disk.tree.read script <;> rfl

theorem keptScript_cases (root script : Path) (s : Session) :
    (∃ e, keptScript root (some script) s = .error e s) ∨
      keptScript root (some script) s = .ok (kept? s.disk.tree root script) s := by
  rw [keptScript_apply]
  unfold kept?
  cases s.disk.tree.isFile? script with
  | error e => exact .inl ⟨_, rfl⟩
  | ok b =>
    cases b with
    | false => exact .inr rfl
    | true =>
      dsimp only
      by_cases hnull : root.hasNull = true
      · rw [if_pos hnull]
        exact .inl ⟨_, rfl⟩
      · rw [if_neg hnull]
        cases isBelow s.disk.tree root script with
        | false => cases s.disk.tree.read script <;> exact .inr rfl
        | true =>
          cases s.disk.tree.read script with
          | ok bytes => exact .inr rfl
          | error e => exact .inl ⟨_, rfl⟩

theorem after_restore (script : Path) (bytes : Bytes) (s : Session) :
    after (restore script bytes) s =
      { s with disk := { s.disk with tree := restored s.disk.tree (some (script, bytes)) } } := by
  have hr : restore script bytes s = Run.onDisk (Changes.onDisk (Disk.change
      (·.write (restoreTarget s.disk.tree script) bytes))) s := rfl
  rw [after, hr, Run.onDisk, Changes.onDisk, Disk.change_apply]
  unfold restored
  dsimp only
  cases s.disk.tree.write (restoreTarget s.disk.tree script) bytes <;> rfl

theorem after_runReset (root : Path) (kept : Option (Path × Bytes)) (s : Session) :
    after (runReset root kept) s =
      { s with
        resets := s.resets ++ [root]
        disk := { s.disk with tree := restored (s.git.reset s.disk.tree) kept } } := by
  cases kept with
  | none => rfl
  | some kept =>
    change after (restore kept.1 kept.2 >>= fun _ => pure s.git.outcome)
      { s with
        resets := s.resets ++ [root]
        disk := { s.disk with tree := s.git.reset s.disk.tree } } = _
    rw [after_bind_pure, after_restore]

theorem outcome_of_runReset {kept : Option (Path × Bytes)} {o : GitOutcome}
    (h : runReset root kept s = .ok o s') : o = s.git.outcome := by
  cases kept with
  | none => cases h; rfl
  | some kept =>
    change (restore kept.1 kept.2 >>= fun _ => pure s.git.outcome) _ = _ at h
    obtain ⟨_, _, -, h⟩ := bind_eq_ok.1 h
    cases h
    rfl

theorem tell_cases (root : Path) (o : GitOutcome) (s : Session) :
    (∃ e, tell root o s = .error e s) ∨
      ∃ s', tell root o s = .ok () s' ∧ s.SameGround s' ∧ s'.answers = s.answers ∧
        ∃ report, o = .ended 0 report := by
  cases o with
  | notRun reason => exact .inl ⟨_, rfl⟩
  | ended status report =>
    by_cases hs : status ≠ 0
    · refine .inl ⟨.resetFailed report, ?_⟩
      rw [tell, if_pos hs]
      rfl
    · refine .inr ⟨after (tell root (.ended status report)) s, ?_⟩
      rw [tell, if_neg hs]
      exact ⟨rfl, ⟨rfl, rfl, rfl⟩, rfl, report, by rw [not_not.1 hs]⟩

/-- A reset is not run and nothing is touched, or it is run once and passes if it ended well. -/
theorem reset_cases (root script : Path) (s : Session) :
    (∃ e s', reset root (some script) s = .error e s' ∧ s.SameGround s') ∨
      ∃ s', Reset root script s s' ∧ ((∃ e, reset root (some script) s = .error e s') ∨
        reset root (some script) s = .ok () s' ∧ s'.answers = s.answers ∧
          ∃ report, s.git.outcome = .ended 0 report) := by
  have hr : reset root (some script) s = (if (!s.git.isInstalled) = true then throw .gitMissing
      else keptScript root (some script) >>= fun kept => runReset root kept >>= tell root :
        Run Unit) s := rfl
  rw [hr]
  split
  · exact .inl ⟨_, s, rfl, .refl s⟩
  rcases keptScript_cases root script s with ⟨e, hk⟩ | hk
  · exact .inl ⟨e, s, by rw [bind_apply, hk], .refl s⟩
  rw [bind_apply, hk]
  dsimp only
  right
  have hafter := after_runReset root (kept? s.disk.tree root script) s
  have hreset : Reset root script s
      (after (runReset root (kept? s.disk.tree root script)) s) := by
    rw [hafter]
    exact ⟨rfl, rfl, rfl⟩
  cases hrun : runReset root (kept? s.disk.tree root script) s with
  | error e s₁ =>
    rw [after_of_error hrun] at hreset
    exact ⟨s₁, hreset, .inl ⟨e, by rw [bind_apply, hrun]⟩⟩
  | ok o s₁ =>
    rw [after_of_ok hrun] at hreset hafter
    rw [bind_apply, hrun]
    dsimp only
    rcases tell_cases root o s₁ with ⟨e, ht⟩ | ⟨s₂, ht, hs, ha, hend⟩
    · exact ⟨s₁, hreset, .inl ⟨e, ht⟩⟩
    · rw [outcome_of_runReset hrun] at hend
      exact ⟨s₂, hreset.trans hs, .inr ⟨ht, by rw [ha, hafter], hend⟩⟩

/-! ## The guard -/

/-- `s'` stands where a run goes on: behind a reset that ended well, if one was to be run. -/
def Ground (root script : Path) (options : Options) (s s' : Session) : Prop :=
  if options.reset = true ∧ options.dryRun = false then
    Reset root script s s' ∧ ∃ report, s.git.outcome = .ended 0 report
  else s.SameGround s'

theorem Ground.trans {options : Options} {s'' : Session} (h : Ground root script options s s')
    (h' : s'.SameGround s'') : Ground root script options s s'' := by
  unfold Ground at h ⊢
  split
  · next hrun =>
    rw [if_pos hrun] at h
    exact ⟨h.1.trans h', h.2⟩
  · next hrun =>
    rw [if_neg hrun] at h
    exact h.trans h'

theorem Ground.diskBehind_eq {options : Options} (h : Ground root script options s s') :
    diskBehind script s s' = s'.disk := by
  unfold Ground at h
  split at h
  · exact h.1.diskBehind_eq
  · rw [diskBehind_of_sameGround h, h.disk]

theorem Ground.wf {options : Options} (h : Ground root script options s s')
    (hwf : s.disk.tree.WF) : s'.disk.tree.WF := by
  unfold Ground at h
  split at h
  · rw [h.1.disk]
    exact wf_treeBehind hwf s.git root script
  · rw [h.disk]
    exact hwf

/-- The guard lets a run go on from `s` at `s'`. -/
structure Passed (root script : Path) (options : Options) (s s' : Session) : Prop where
  agreed : agrees options.assumeYes s.answers = true
  answers : s'.answers = answersBehind options.assumeYes s.answers
  ground : Ground root script options s s'

theorem warn_cases (assumeYes : Bool) (s : Session) :
    (∃ e s', warn assumeYes s = .error e s' ∧ s.SameGround s') ∨
      agrees assumeYes s.answers = true ∧ ∃ s', warn assumeYes s = .ok () s' ∧ s.SameGround s' ∧
        s'.answers = answersBehind assumeYes s.answers := by
  cases assumeYes with
  | true => exact .inr ⟨rfl, _, rfl, ⟨rfl, rfl, rfl⟩, rfl⟩
  | false =>
    obtain ⟨s₁, hs, ha, hw⟩ : ∃ s₁, s.SameGround s₁ ∧ s₁.answers = s.answers ∧
        warn false s = (Run.confirm "Continue? [y/N] ".toList >>= fun agreed =>
          if (!agreed) = true then throw .declined else pure () : Run Unit) s₁ :=
      ⟨after (Run.print _) s, ⟨rfl, rfl, rfl⟩, rfl, rfl⟩
    rw [hw, bind_apply]
    cases hc : Run.confirm "Continue? [y/N] ".toList s₁ with
    | error e s₂ => exact .inl ⟨e, s₂, rfl, (Run.talks_confirm _ s).of_error hs hc⟩
    | ok agreed s₂ =>
      have hs₂ := (Run.talks_confirm _ s).of_ok hs hc
      obtain ⟨hyes, hrest⟩ := Run.confirm_eq_ok hc
      rw [ha] at hyes hrest
      cases agreed with
      | false => exact .inl ⟨_, s₂, rfl, hs₂⟩
      | true => exact .inr ⟨hyes.symm, s₂, rfl, hs₂, hrest⟩

/-- The guard stops with nothing touched, stops behind a reset that the user agreed to, or lets
the run go on. -/
theorem run_cases (root script : Path) (options : Options) (s : Session) :
    (∃ e s', run root (some script) options s = .error e s' ∧ s.SameGround s') ∨
    (agrees options.assumeYes s.answers = true ∧ options.reset = true ∧ options.dryRun = false ∧
      ∃ e s', run root (some script) options s = .error e s' ∧ Reset root script s s') ∨
    ∃ s', run root (some script) options s = .ok () s' ∧ Passed root script options s s' := by
  unfold run
  rw [bind_apply]
  rcases warn_cases options.assumeYes s with ⟨e, s₁, hw, hs⟩ | ⟨hyes, s₁, hw, hs, ha⟩
  · exact .inl ⟨e, s₁, by rw [hw], hs⟩
  rw [hw]
  dsimp only
  by_cases hreset : options.reset = true
  · rw [if_pos hreset]
    by_cases hdry : options.dryRun = true
    · rw [if_pos hdry]
      refine .inr (.inr ⟨_, rfl, hyes, ha, ?_⟩)
      rw [Ground, if_neg (by simp [hdry])]
      exact hs.trans ⟨rfl, rfl, rfl⟩
    · have hreal : options.dryRun = false := Bool.eq_false_iff.2 hdry
      rw [if_neg hdry]
      rcases reset_cases root script s₁ with
        ⟨e, s₂, hr, hs₂⟩ | ⟨s₂, hr, ⟨e, he⟩ | ⟨hok, ha₂, hend⟩⟩
      · exact .inl ⟨e, s₂, hr, hs.trans hs₂⟩
      · exact .inr (.inl ⟨hyes, hreset, hreal, e, s₂, he, hr.of_sameGround hs⟩)
      · refine .inr (.inr ⟨s₂, hok, hyes, ha₂.trans ha, ?_⟩)
        rw [Ground, if_pos ⟨hreset, hreal⟩]
        exact ⟨hr.of_sameGround hs, hs.git ▸ hend⟩
  · rw [if_neg hreset]
    refine .inr (.inr ⟨s₁, rfl, hyes, ha, ?_⟩)
    rw [Ground, if_neg (by simp [hreset])]
    exact hs

end Guard

end OpScaffold
