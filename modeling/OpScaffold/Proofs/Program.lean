import OpScaffold.Proofs.Guard

/-!
# OpScaffold.Proofs.Program

A run from its arguments to its ending. The work of a run stops with nothing touched, stops behind
the reset, or comes to the generation of the variant with everything checked (`work_cases`); what
it printed at the end changes nothing (`finish_cases`).
-/

namespace OpScaffold.CommandLine

open OpScaffold.Action

variable {script root : Path} {a : Arguments} {s s' : Session} {v : Variant}

/-! ## Name and root -/

/-- The variant that a run adds: the one named on the command line, or else the one named at the
prompt behind the guard. -/
def Named (a : Arguments) (answers : List Answer) (v : Variant) : Prop :=
  match a.name with
  | some name => Variant.derive name = .ok v
  | none => ∃ t, (Guard.answersBehind a.yes answers).head? = some (.line t) ∧
      Variant.derive t.trim = .ok v

theorem readName_eq_ok (h : Run.readName s = .ok v s') :
    ∃ t, s.answers.head? = some (.line t) ∧ Variant.derive t.trim = .ok v := by
  unfold Run.readName at h
  rw [bind_apply, Run.ask_apply] at h
  cases ha : s.answers.head? with
  | none => rw [ha] at h; cases h
  | some answer =>
    rw [ha] at h
    cases answer with
    | endOfInput => cases h
    | interrupt => cases h
    | line t =>
      dsimp only at h
      cases hd : Variant.derive t.trim with
      | error e => rw [hd] at h; cases h
      | ok w => rw [hd] at h; cases h; exact ⟨t, rfl, hd⟩

theorem givenVariant_cases (name : Option Text) (s : Session) :
    (∃ e, givenVariant name s = .error e s ∧ ∃ n ∈ name, ∃ e, Variant.derive n = .error e) ∨
      ∃ given : Option Variant, givenVariant name s = .ok given s ∧
        name.map Variant.derive = given.map .ok := by
  cases name with
  | none => exact .inr ⟨none, rfl, rfl⟩
  | some name =>
    unfold givenVariant
    dsimp only
    cases hd : Variant.derive name with
    | ok v => exact .inr ⟨some v, rfl, congrArg some hd⟩
    | error e => exact .inl ⟨_, rfl, name, rfl, e, hd⟩

theorem exists_of_check {t : FileTree} {p : Path} (h : Root.check t p = .ok root) :
    t.exists? (Root.marker root) = .ok true := by
  unfold Root.check at h
  cases hf : t.isFile? (Root.marker p) with
  | error e => rw [hf] at h; cases h
  | ok b =>
    rw [hf] at h
    cases b with
    | false => cases h
    | true => cases h; exact FileTree.exists_of_isFile hf

theorem exists_of_firstWithMarker {t : FileTree} {roots : List Path}
    (h : Root.firstWithMarker t roots = .ok root) : t.exists? (Root.marker root) = .ok true := by
  induction roots with
  | nil => cases h
  | cons p rest ih =>
    unfold Root.firstWithMarker at h
    cases he : t.exists? (Root.marker p) with
    | error e => rw [he] at h; cases h
    | ok b =>
      rw [he] at h
      cases b with
      | false => exact ih h
      | true => cases h; exact he

/-- The chosen root holds a manifest; looking for it changes nothing. -/
theorem chosenRoot_cases (script : Path) (given : Option Text) (s : Session) :
    (∃ e, chosenRoot script given s = .error e s) ∨
      ∃ root, chosenRoot script given s = .ok root s ∧
        s.disk.tree.exists? (Root.marker root) = .ok true := by
  obtain ⟨x, hx, hm⟩ : ∃ x : Except Failure Path, chosenRoot script given s = Run.ofExcept x s ∧
      ∀ root, x = .ok root → s.disk.tree.exists? (Root.marker root) = .ok true := by
    rcases given with _ | _ | ⟨c, text⟩
    · exact ⟨_, rfl, fun _ => exists_of_firstWithMarker⟩
    · exact ⟨_, rfl, fun _ => exists_of_firstWithMarker⟩
    · exact ⟨_, rfl, fun _ => exists_of_check⟩
  rw [hx, Run.ofExcept_apply]
  cases x with
  | error e => exact .inl ⟨e, rfl⟩
  | ok root => exact .inr ⟨root, rfl, hm root rfl⟩

/-! ## The work -/

/-- What is found before the working tree is reset or a file is edited: a name that was given is
the name of a variant, the chosen root has its manifest, and the user agrees. -/
structure Cleared (script : Path) (a : Arguments) (s : Session) (root : Path) : Prop where
  named : ∀ name ∈ a.name, ∃ v, Variant.derive name = .ok v
  chosen : chosenRoot script a.root s = .ok root s
  marked : s.disk.tree.exists? (Root.marker root) = .ok true
  agreed : Guard.agrees a.yes s.answers = true

/-- The variant to add is the one that was named; asking for it changes nothing. -/
theorem variantToAdd_cases {given : Option Variant} {answers : List Answer}
    (hg : a.name.map Variant.derive = given.map .ok)
    (ha : s.answers = Guard.answersBehind a.yes answers) :
    (∃ e s', variantToAdd given s = .error e s' ∧ s.SameGround s') ∨
      ∃ v s', variantToAdd given s = .ok v s' ∧ s.SameGround s' ∧ Named a answers v := by
  unfold Named
  cases given with
  | some v =>
    right
    obtain ⟨name, hname, hd⟩ := Option.map_eq_some_iff.1 hg
    rw [hname]
    exact ⟨v, s, rfl, .refl s, hd⟩
  | none =>
    rw [Option.map_eq_none_iff.1 hg]
    cases hr : variantToAdd none s with
    | error e s' => exact .inl ⟨e, s', rfl, (Run.talks_readName s).of_error (.refl s) hr⟩
    | ok v s' =>
      exact .inr ⟨v, s', rfl, (Run.talks_readName s).of_ok (.refl s) hr, ha ▸ readName_eq_ok hr⟩

/-- The work stops with nothing touched, stops behind a reset, or comes to the generation. -/
theorem work_cases (script : Path) (a : Arguments) (s : Session) :
    (∃ e s', work script a s = .error e s' ∧ s.SameGround s') ∨
    ∃ root, Cleared script a s root ∧
      ((a.noReset = false ∧ a.dryRun = false ∧
          ∃ e s', work script a s = .error e s' ∧ Guard.Reset root script s s') ∨
        ∃ v s₂, Named a s.answers v ∧ Guard.Ground root script (guardOptions a) s s₂ ∧
          work script a s = (Generation.generate root v Registry.standard a.dryRun >>= fun _ =>
            pure v) s₂) := by
  unfold work
  rw [bind_apply]
  rcases givenVariant_cases a.name s with ⟨e, hgiven, -⟩ | ⟨given, hgiven, hg⟩
  · exact .inl ⟨e, s, by rw [hgiven], .refl s⟩
  rw [hgiven]
  dsimp only
  rw [bind_apply]
  rcases chosenRoot_cases script a.root s with ⟨e, hc⟩ | ⟨root, hc, hm⟩
  · exact .inl ⟨e, s, by rw [hc], .refl s⟩
  rw [hc]
  dsimp only
  rw [bind_apply]
  have hnamed : ∀ name ∈ a.name, ∃ v, Variant.derive name = .ok v := by
    intro name hname
    rw [Option.mem_def.1 hname] at hg
    obtain ⟨v, -, hv⟩ := Option.map_eq_some_iff.1 hg.symm
    exact ⟨v, hv.symm⟩
  rcases Guard.run_cases root script (guardOptions a) s with
    ⟨e, s₁, hr, hs⟩ | ⟨hyes, hreset, hdry, e, s₁, hr, hs⟩ | ⟨s₁, hr, hp⟩
  · exact .inl ⟨e, s₁, by rw [hr], hs⟩
  · exact .inr ⟨root, ⟨hnamed, hc, hm, hyes⟩, .inl ⟨by simpa [guardOptions] using hreset, hdry,
      e, s₁, by rw [hr], hs⟩⟩
  rw [hr]
  dsimp only
  have hclear : Cleared script a s root := ⟨hnamed, hc, hm, hp.agreed⟩
  rw [bind_apply]
  rcases variantToAdd_cases hg hp.answers with ⟨e, s₂, hv, hs₂⟩ | ⟨v, s₂, hv, hs₂, hname⟩
  · rw [hv]
    have hground := hp.ground.trans hs₂
    unfold Guard.Ground at hground
    split at hground
    · next hrun =>
      exact .inr ⟨root, hclear, .inl ⟨by simpa [guardOptions] using hrun.1, hrun.2, e, s₂, rfl,
        hground.1⟩⟩
    · exact .inl ⟨e, s₂, rfl, hground⟩
  · exact .inr ⟨root, hclear, .inr ⟨v, s₂, hname, hp.ground.trans hs₂, by rw [hv]⟩⟩

/-! ## The ending -/

theorem printAll_cases (lines : List Text) (s : Session) :
    ∃ s', printAll lines s = .ok () s' ∧ s.SameGround s' := by
  induction lines generalizing s with
  | nil => exact ⟨s, rfl, .refl s⟩
  | cons line rest ih =>
    obtain ⟨s', hr, hs⟩ := ih (after (Run.print line) s)
    exact ⟨s', hr, (Run.talks_print line s s (.refl s)).trans hs⟩

theorem succeed_cases (v : Variant) (s : Session) :
    ∃ s', succeed v s = .ok (.status 0) s' ∧ s.SameGround s' := by
  obtain ⟨s₁, hp, hs⟩ := printAll_cases (Generation.followUp v) s
  have hr : succeed v s =
      .ok (.status 0) (after (Run.print "\nnew_unary: OK".toList) s₁) := by
    rw [succeed, bind_apply, hp]
    rfl
  exact ⟨_, hr, hs.trans (Run.talks_print _ s₁ s₁ (.refl s₁))⟩

/-- A run ends with the status 0 if its work was done, with the status 1 if it failed and that is
reported, and breaks off with its failure otherwise. -/
theorem finish_cases (script : Path) (a : Arguments) (s : Session) :
    (∃ v s₁ s', work script a s = .ok v s₁ ∧ s₁.SameGround s' ∧
      finish script a s = .ok (.status 0) s') ∨
    ∃ e s₁, work script a s = .error e s₁ ∧
      ((e.isReported = true ∧ ∃ s', s₁.SameGround s' ∧ finish script a s = .ok (.status 1) s') ∨
        e.isReported = false ∧ finish script a s = .error e s₁) := by
  unfold finish
  rw [tryCatch_apply, bind_apply]
  cases hw : work script a s with
  | ok v s₁ =>
    obtain ⟨s', hr, hs⟩ := succeed_cases v s₁
    exact .inl ⟨v, s₁, s', rfl, hs, by dsimp only; rw [hr]⟩
  | error e s₁ =>
    refine .inr ⟨e, s₁, rfl, ?_⟩
    unfold fail
    dsimp only
    cases he : e.isReported with
    | true => exact .inl ⟨rfl, after (Run.printError _) s₁,
        Run.talks_printError _ s₁ s₁ (.refl s₁), rfl⟩
    | false => exact .inr ⟨rfl, rfl⟩

/-- A run with arguments that were understood ends on the ground on which its work ended. -/
theorem sameGround_finish (script : Path) (a : Arguments) (s : Session) :
    (after (work script a) s).SameGround (after (finish script a) s) := by
  rcases finish_cases script a s with
    ⟨v, s₁, s', hw, hs, hf⟩ | ⟨e, s₁, hw, ⟨-, s', hs, hf⟩ | ⟨-, hf⟩⟩
  · rw [after_of_ok hw, after_of_ok hf]
    exact hs
  · rw [after_of_error hw, after_of_ok hf]
    exact hs
  · rw [after_of_error hw, after_of_error hf]
    exact .refl s₁

theorem leave_cases (h : Halt) (s : Session) :
    ∃ n s', leave h s = .ok (.left n) s' ∧ s.SameGround s' := by
  cases h with
  | help =>
    obtain ⟨s', hp, hs⟩ := printAll_cases helpLines (after (Run.print usage) s)
    refine ⟨0, s', ?_, (Run.talks_print usage s s (.refl s)).trans hs⟩
    rw [leave, Run.print_bind, bind_apply, hp]
    rfl
  | misuse m =>
    have hl : leave (.misuse m) s = .ok (.left 2) (after (Run.printError (programName ++
        ": error: ".toList ++ m.message)) (after (Run.printError usage) s)) := by
      rw [leave, Run.printError_bind, Run.printError_bind]
      rfl
    exact ⟨2, _, hl, (Run.talks_printError usage s s (.refl s)).trans
      (Run.talks_printError _ _ _ (.refl _))⟩

/-- A run stops at its arguments with nothing touched, or goes on with them. -/
theorem run_cases (script : Path) (arguments : List Text) (s : Session) :
    (∃ h n s', Arguments.ofList arguments = .error h ∧
      run script arguments s = .ok (.left n) s' ∧ s.SameGround s') ∨
    ∃ a, Arguments.ofList arguments = .ok a ∧
      run script arguments s = finish (resolved script) a s := by
  unfold run
  cases ha : Arguments.ofList arguments with
  | ok a => exact .inr ⟨a, rfl, rfl⟩
  | error h =>
    obtain ⟨n, s', hl, hs⟩ := leave_cases h s
    exact .inl ⟨h, n, s', rfl, hl, hs⟩

/-! ## Before any change -/

/-- A run whose work comes to the generation stands where that ends. -/
theorem after_work_eq {s₂ : Session} (hw : work script a s =
    (Generation.generate root v Registry.standard a.dryRun >>= fun _ => pure v) s₂) :
    after (work script a) s = after (Generation.generate root v Registry.standard a.dryRun) s₂ :=
  calc after (work script a) s
      = after (Generation.generate root v Registry.standard a.dryRun >>= fun _ => pure v) s₂ := by
        rw [after, hw, after]
    _ = _ := after_bind_pure _ (fun _ => v) s₂

theorem guarded_finish (script : Path) (a : Arguments) (s : Session) :
    s.SameGround (after (finish script a) s) ∨
    ∃ root, Cleared script a s root ∧ a.dryRun = false ∧
      ((a.noReset = false ∧ Guard.Reset root script s (after (finish script a) s)) ∨
        ∃ s₂, Guard.Ground root script (guardOptions a) s s₂ ∧
          (after (finish script a) s).resets = s₂.resets) := by
  have hfin := sameGround_finish script a s
  rcases work_cases script a s with
    ⟨e, s₁, hw, hs⟩ | ⟨root, hclear, ⟨hreset, hdry, e, s₁, hw, hs⟩ | ⟨v, s₂, -, hg, hw⟩⟩
  · rw [after_of_error hw] at hfin
    exact .inl (hs.trans hfin)
  · rw [after_of_error hw] at hfin
    exact .inr ⟨root, hclear, hdry, .inl ⟨hreset, hs.trans hfin⟩⟩
  · rw [after_work_eq hw] at hfin
    cases hdry : a.dryRun with
    | true =>
      rw [hdry] at hfin
      rw [Guard.Ground, if_neg (by simp [guardOptions, hdry])] at hg
      exact .inl ((Generation.talks_generate _ _ _ s s₂ hg).trans hfin)
    | false =>
      exact .inr ⟨root, hclear, rfl, .inr ⟨s₂, hg, hfin.resets.trans
        (Generation.preserves_resets_generate root v _ _ s₂.resets s₂ rfl)⟩⟩

/-- **Guarded.** A reset is run at most once, and only with arguments that were understood, a good
name, a root with its manifest and the agreement of the user, in a run that is neither dry nor
without a reset. Beyond what the reset and the restoring of the script leave behind, the disk
changes only with the same agreement, in a run that is not dry, and behind a reset that ended well
if one was asked for. A dry run, a refusal, a bad name and a bad root leave everything alone. -/
theorem run_guarded (script : Path) (arguments : List Text) (s : Session) :
    let s' := after (run script arguments) s
    (s'.resets = s.resets ∨ ∃ a root, Arguments.ofList arguments = .ok a ∧
      Cleared (resolved script) a s root ∧ a.noReset = false ∧ a.dryRun = false ∧
      s'.resets = s.resets ++ [root]) ∧
    (s'.disk ≠ Guard.diskBehind (resolved script) s s' →
      ∃ a root, Arguments.ofList arguments = .ok a ∧ Cleared (resolved script) a s root ∧
        a.dryRun = false ∧
        (a.noReset = true ∨ s'.resets = s.resets ++ [root] ∧
          ∃ report, s.git.outcome = .ended 0 report)) ∧
    ((∀ a, Arguments.ofList arguments = .ok a →
        a.dryRun = true ∨ Guard.agrees a.yes s.answers = false ∨
        (∃ name ∈ a.name, ∃ e, Variant.derive name = .error e) ∨
        ∃ e s₁, chosenRoot (resolved script) a.root s = .error e s₁) →
      s'.disk = s.disk ∧ s'.resets = s.resets) := by
  intro s'
  have hsame : s.SameGround s' → s'.disk = Guard.diskBehind (resolved script) s s' := fun h => by
    rw [Guard.diskBehind_of_sameGround h, h.disk]
  rcases run_cases script arguments s with ⟨h, n, s₁, -, hrun, hs⟩ | ⟨a, ha, hrun⟩
  · rw [← after_of_ok hrun] at hs
    exact ⟨.inl hs.resets, fun hne => absurd (hsame hs) hne, fun _ => ⟨hs.disk, hs.resets⟩⟩
  have hs' : s' = after (finish (resolved script) a) s := by rw [after, ← hrun]; rfl
  rcases guarded_finish (resolved script) a s with hs | ⟨root, hclear, hdry, hgone⟩
  · rw [← hs'] at hs
    exact ⟨.inl hs.resets, fun hne => absurd (hsame hs) hne, fun _ => ⟨hs.disk, hs.resets⟩⟩
  rw [← hs'] at hgone
  refine ⟨?_, fun hne => ?_, fun hstop => ?_⟩
  · rcases hgone with ⟨hreset, hr⟩ | ⟨s₂, hg, hr⟩
    · exact .inr ⟨a, root, ha, hclear, hreset, hdry, hr.resets⟩
    · unfold Guard.Ground at hg
      split at hg
      · next hopt =>
        exact .inr ⟨a, root, ha, hclear, by simpa [guardOptions] using hopt.1, hdry,
          hr.trans hg.1.resets⟩
      · exact .inl (hr.trans hg.resets)
  · rcases hgone with ⟨hreset, hr⟩ | ⟨s₂, hg, hr⟩
    · exact absurd hr.diskBehind_eq.symm hne
    · refine ⟨a, root, ha, hclear, hdry, ?_⟩
      unfold Guard.Ground at hg
      split at hg
      · exact .inr ⟨hr.trans hg.1.resets, hg.2⟩
      · next hopt => exact .inl (by simpa [guardOptions, hdry] using hopt)
  · exfalso
    rcases hstop a ha with h | h | ⟨name, hname, e, h⟩ | ⟨e, s₁, h⟩
    · rw [h] at hdry; cases hdry
    · rw [hclear.agreed] at h; cases h
    · obtain ⟨v, hv⟩ := hclear.named name hname
      rw [hv] at h; cases h
    · rw [hclear.chosen] at h; cases h

end OpScaffold.CommandLine
