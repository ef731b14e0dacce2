import Mathlib.Data.List.Induction
import OpScaffold.Proofs.Files.Takes
import OpScaffold.Proofs.Guard

/-!
# OpScaffold.Proofs.Survival

Whether the script survives a reset. Once the program was called, the script is put back however
the program ended, but that can fail. It succeeds just where the reset leaves the directory of the
script there and no directory in the place of the script (`survives_iff`); then nothing else is
touched, and the guard tells how the program ended.
-/

namespace OpScaffold

open OpScaffold.Action

namespace Guard

variable {root script : Path} {options : Options} {bytes : Bytes} {s s' : Session}

/-! ## The end of a guard that called the program -/

/-- How the guard ends behind the program. -/
def verdict : GitOutcome → Except Failure Unit
  | .notRun reason => .error (.gitNotRun reason)
  | .ended status report => if status ≠ 0 then .error (.resetFailed report) else .ok ()

/-- Behind the reset the verdict is told and nothing else is touched. -/
theorem tell_apply (root : Path) (o : GitOutcome) (s : Session) :
    ∃ s', tell root o s = Run.ofExcept (verdict o) s' ∧ s.SameGround s' := by
  cases o with
  | notRun reason => exact ⟨s, rfl, .refl s⟩
  | ended status report =>
    rw [tell, verdict]
    by_cases hs : status ≠ 0
    · rw [if_pos hs, if_pos hs]
      exact ⟨s, rfl, .refl s⟩
    · rw [if_neg hs, if_neg hs]
      exact ⟨_, rfl, Run.talks_print _ s s (.refl s)⟩

/-- The reset is run, and then the script is put back or cannot be. -/
theorem runReset_apply (root script : Path) (bytes : Bytes) (s : Session) :
    runReset root (some (script, bytes)) s =
      (let t := s.git.reset s.disk.tree
      let s' : Session := { s with
        resets := s.resets ++ [root], disk := { s.disk with tree := t } }
      match t.write (restoreTarget t script) bytes with
      | .ok t' => .ok s.git.outcome { s' with disk := { s.disk with tree := t' } }
      | .error e => .error (.file e) s') := by
  have hr : runReset root (some (script, bytes)) s =
      (restore script bytes >>= fun _ => pure s.git.outcome : Run GitOutcome) { s with
        resets := s.resets ++ [root]
        disk := { s.disk with tree := s.git.reset s.disk.tree } } := rfl
  rw [hr, bind_apply, restore, Run.tree_bind, Run.onDisk, Changes.onDisk, Disk.change_apply]
  dsimp only
  cases (s.git.reset s.disk.tree).write
    (restoreTarget (s.git.reset s.disk.tree) script) bytes <;> rfl

/-- A script that is a file below the root is kept when the program is called. -/
theorem reset_of_read (hread : s.disk.tree.read script = .ok bytes)
    (hbelow : isBelow s.disk.tree root script = true) :
    (∃ e, reset root (some script) s = .error e s) ∨ reset root (some script) s =
      (runReset root (some (script, bytes)) >>= tell root) s := by
  have hr : reset root (some script) s = (if (!s.git.isInstalled) = true then throw .gitMissing
      else keptScript root (some script) >>= fun kept => runReset root kept >>= tell root :
        Run Unit) s := rfl
  have hkept : kept? s.disk.tree root script = some (script, bytes) := by
    rw [kept?, FileTree.isFile?_iff_read.2 ⟨bytes, hread⟩, hread]
    dsimp only
    rw [if_pos hbelow]
  rw [hr]
  split
  · exact .inl ⟨_, rfl⟩
  · rw [bind_apply]
    rcases keptScript_cases root script s with ⟨e, hk⟩ | hk
    · exact .inl ⟨e, by rw [hk]⟩
    · rw [hk, hkept]
      exact .inr rfl

/-- A guard that called the program had touched nothing before. -/
theorem run_of_called (hread : s.disk.tree.read script = .ok bytes)
    (hbelow : isBelow s.disk.tree root script = true)
    (hcalled : (after (run root (some script) options) s).resets ≠ s.resets) :
    ∃ s₁, s.SameGround s₁ ∧ run root (some script) options s =
      (runReset root (some (script, bytes)) >>= tell root) s₁ := by
  have hnot {s' : Session} (hs : s.SameGround s')
      (h : after (run root (some script) options) s = s') : False := hcalled (h ▸ hs.resets)
  rcases warn_cases options.assumeYes s with ⟨e, s₁, hw, hs⟩ | ⟨-, s₁, hw, hs, -⟩
  · exact (hnot hs (by rw [after, run, bind_apply, hw])).elim
  have hrun : run root (some script) options s = (if options.reset = true then
      if options.dryRun = true then
        Run.print ("  [dry-run] Would run: git reset --hard in ".toList ++ root.toText)
      else reset root (some script) else pure () : Run Unit) s₁ := by rw [run, bind_apply, hw]
  by_cases hreset : options.reset = true
  · rw [if_pos hreset] at hrun
    by_cases hdry : options.dryRun = true
    · rw [if_pos hdry] at hrun
      obtain ⟨line, hline⟩ : ∃ line, run root (some script) options s = Run.print line s₁ :=
        ⟨_, hrun⟩
      have hsame := Run.talks_print line s₁ s₁ (.refl s₁)
      exact (hnot (hs.trans hsame) (by rw [after, hline, after])).elim
    · rw [if_neg hdry] at hrun
      rw [← hs.disk] at hread hbelow
      rcases reset_of_read hread hbelow with ⟨e, he⟩ | heq
      · exact (hnot hs (by rw [after, hrun, he])).elim
      · exact ⟨s₁, hs, hrun.trans heq⟩
  · rw [if_neg hreset] at hrun
    exact (hnot hs (by rw [after, hrun]; rfl)).elim

/-- The script cannot be put back, or is, and the guard ends as the program did. -/
theorem run_cases_of_called (hread : s.disk.tree.read script = .ok bytes)
    (hbelow : isBelow s.disk.tree root script = true)
    (hcalled : (after (run root (some script) options) s).resets ≠ s.resets) :
    let t := s.git.reset s.disk.tree
    (∃ e s', t.write (restoreTarget t script) bytes = .error e ∧
      run root (some script) options s = .error (.file e) s') ∨
    ∃ s', t.write (restoreTarget t script) bytes = .ok s'.disk.tree ∧
      run root (some script) options s = Run.ofExcept (verdict s.git.outcome) s' := by
  obtain ⟨s₁, hs, hrun⟩ := run_of_called hread hbelow hcalled
  rw [bind_apply, runReset_apply, hs.git, hs.disk] at hrun
  dsimp only at hrun ⊢
  cases hw : (s.git.reset s.disk.tree).write
      (restoreTarget (s.git.reset s.disk.tree) script) bytes with
  | error e =>
    rw [hw] at hrun
    exact .inl ⟨e, _, rfl, hrun⟩
  | ok t' =>
    rw [hw] at hrun
    obtain ⟨s₂, htell, hs₂⟩ := tell_apply root s.git.outcome _
    exact .inr ⟨s₂, by rw [hs₂.disk], hrun.trans htell⟩

/-! ## Survival -/

/-- The script survives: behind the guard it has its bytes, everything else is as the reset left
it, and the guard ends as the program did. -/
structure Survives (root script : Path) (options : Options) (bytes : Bytes) (s s' : Session) :
    Prop where
  bytes : s'.disk.tree.read script = .ok bytes
  others : ∀ l, l ≠ s'.disk.tree.locate script →
    s'.disk.tree.node? l = (s.git.reset s.disk.tree).node? l
  ending : run root (some script) options s = Run.ofExcept (verdict s.git.outcome) s'

/-- How the program ended is never an error of the file system. -/
theorem verdict_ne (o : GitOutcome) (e : FileError) : verdict o ≠ .error (.file e) := by
  cases o with
  | notRun reason => rintro ⟨⟩
  | ended status report =>
    rw [verdict]
    split <;> rintro ⟨⟩

theorem Survives.run_ne (h : Survives root script options bytes s s') (e : FileError)
    (s'' : Session) : run root (some script) options s ≠ .error (.file e) s'' := by
  intro hrun
  have hend := hrun.symm.trans h.ending
  rw [Run.ofExcept_apply] at hend
  cases hv : verdict s.git.outcome with
  | ok _ => rw [hv] at hend; cases hend
  | error e' =>
    rw [hv] at hend
    cases hend
    exact verdict_ne _ _ hv

theorem after_of_eq_ofExcept {x : Run Unit} {r : Except Failure Unit}
    (h : x s = Run.ofExcept r s') : after x s = s' := by
  rw [Run.ofExcept_apply] at h
  cases r with
  | ok a => exact after_of_ok h
  | error e => exact after_of_error h

/-- **Survival.** Once the program was called, a script that was a file below the root survives just
where the reset leaves its directory there and no directory in its own place. -/
theorem survives_iff (hwf : s.disk.tree.WF) (hread : s.disk.tree.read script = .ok bytes)
    (hbelow : isBelow s.disk.tree root script = true)
    (hcalled : (after (run root (some script) options) s).resets ≠ s.resets) :
    Survives root script options bytes s (after (run root (some script) options) s) ↔
      (s.git.reset s.disk.tree).ReachesDirectory script.parent ∧
        ¬ (s.git.reset s.disk.tree).HasDirectory ((s.git.reset s.disk.tree).locate script) := by
  rw [← FileTree.opens_iff_of_read hwf hread]
  have hcases := run_cases_of_called hread hbelow hcalled
  dsimp only at hcases
  constructor
  · intro h
    rcases hcases with ⟨e, s', -, hrun⟩ | ⟨s', hw, hrun⟩
    · exact absurd hrun (h.run_ne e s')
    · have hbytes := h.bytes
      rw [after_of_eq_ofExcept hrun] at hbytes
      have hext := FileTree.extends_of_write hw
      unfold restoreTarget at hw
      split at hw
      · next hdir =>
        exact absurd hbytes (FileTree.read_ne_of_isDirectory? (hext.isDirectory?_eq hdir))
      · exact (FileTree.write_eq_ok_iff.1 hw).1
  · intro hopen
    have htarget : restoreTarget (s.git.reset s.disk.tree) script = script := by
      unfold restoreTarget
      split
      · next hdir => exact absurd hdir hopen.isDirectory?_ne
      · rfl
    rw [htarget, FileTree.write_eq_ok_iff.2 ⟨hopen, rfl⟩] at hcases
    rcases hcases with ⟨e, s', ⟨⟩, -⟩ | ⟨s', hw, hrun⟩
    rw [after_of_eq_ofExcept hrun]
    have hwrite := FileTree.write_eq_ok_iff.2 ⟨hopen, (Except.ok.inj hw).symm⟩
    refine ⟨FileTree.read_of_write hwrite, fun l hl => ?_, hrun⟩
    rw [(FileTree.extends_of_write hwrite).locate_eq] at hl
    rw [← Except.ok.inj hw]
    exact FileTree.node?_put_of_ne _ hl _

/-- The reset brings the script back in an older version, another file with it, and fails. -/
theorem survives_failed_reset :
    let script := Path.ofText "crate/scripts/new_unary.py".toList
    let tree : FileTree := ⟨["w".toList], [(["w".toList], .directory),
      (["w".toList, "crate".toList], .directory),
      (["w".toList, "crate".toList, "scripts".toList], .directory),
      (["w".toList, "crate".toList, "scripts".toList, "new_unary.py".toList],
        .file (Utf8.encode "new\n".toList))]⟩
    let git : Git :=
      { writes := [(script, .file (Utf8.encode "old\n".toList)),
          (Path.ofText "crate/Cargo.toml".toList, .file (Utf8.encode "[package]\n".toList))]
        outcome := .ended 128 "fatal: no commit".toList }
    let s : Session := { disk := { tree }, git }
    let options : Options := { assumeYes := true }
    let root := Path.ofText "crate".toList
    tree.WF ∧ tree.read script = .ok (Utf8.encode "new\n".toList) ∧
      isBelow tree root script = true ∧
      (after (run root (some script) options) s).resets = [root] ∧
      Survives root script options (Utf8.encode "new\n".toList) s
        (after (run root (some script) options) s) := by
  intro script tree git s options root
  have hwf : tree.WF := FileTree.wf_of_nodes (by decide)
  have hread : tree.read script = .ok (Utf8.encode "new\n".toList) := by decide +kernel
  have hbelow : isBelow tree root script = true := by decide +kernel
  have hcalled : (after (run root (some script) options) s).resets = [root] := by decide +kernel
  have hreaches : (git.reset tree).ReachesDirectory script.parent :=
    ⟨["w".toList, "crate".toList, "scripts".toList], by decide +kernel, by decide +kernel⟩
  have hdifferent : (after (run root (some script) options) s).resets ≠ s.resets := by
    rw [hcalled]
    exact List.cons_ne_nil _ _
  exact ⟨hwf, hread, hbelow, hcalled,
    (survives_iff hwf hread hbelow hdifferent).2 ⟨hreaches, by decide +kernel⟩⟩

/-- The reset removes the directory of the script: nothing is put back, and the guard fails although
the program ended well. -/
theorem script_lost_with_directory :
    let script := Path.ofText "crate/scripts/new_unary.py".toList
    let tree : FileTree := ⟨["w".toList], [(["w".toList], .directory),
      (["w".toList, "crate".toList], .directory),
      (["w".toList, "crate".toList, "Cargo.toml".toList], .file (Utf8.encode "[package]\n".toList)),
      (["w".toList, "crate".toList, "scripts".toList], .directory),
      (["w".toList, "crate".toList, "scripts".toList, "new_unary.py".toList],
        .file (Utf8.encode "# work in progress\n".toList))]⟩
    let git : Git := { removes := [Path.ofText "crate/scripts".toList] }
    let s : Session := { disk := { tree }, git }
    let options : Options := { assumeYes := true }
    let root := Path.ofText "crate".toList
    tree.WF ∧ tree.read script = .ok (Utf8.encode "# work in progress\n".toList) ∧
      isBelow tree root script = true ∧ git.outcome = .ended 0 [] ∧
      ∃ s', run root (some script) options s = .error (.file (.refused .noEntry script)) s' ∧
        s'.resets = [root] ∧ s'.disk.tree.exists? script = .ok false ∧
        ¬ Survives root script options (Utf8.encode "# work in progress\n".toList) s s' := by
  intro script tree git s options root
  have hwf : tree.WF := FileTree.wf_of_nodes (by decide)
  have hread : tree.read script = .ok (Utf8.encode "# work in progress\n".toList) := by
    decide +kernel
  have hbelow : isBelow tree root script = true := by decide +kernel
  have hwrite : (git.reset tree).write (restoreTarget (git.reset tree) script)
      (Utf8.encode "# work in progress\n".toList) = .error (.refused .noEntry script) := by
    decide +kernel
  have hresets : (after (run root (some script) options) s).resets = [root] := by decide +kernel
  have hgone : (after (run root (some script) options) s).disk.tree.exists? script =
      .ok false := by
    decide +kernel
  have hcalled : (after (run root (some script) options) s).resets ≠ s.resets := by
    rw [hresets]
    exact List.cons_ne_nil _ _
  rcases run_cases_of_called hread hbelow hcalled with ⟨e, s', he, hrun⟩ | ⟨s', he, -⟩
  · obtain rfl : e = .refused .noEntry script := Except.error.inj (he.symm.trans hwrite)
    rw [after_of_error hrun] at hresets hgone
    exact ⟨hwf, hread, hbelow, rfl, s', hrun, hresets, hgone, fun h => h.run_ne _ _ hrun⟩
  · cases he.symm.trans hwrite

end Guard

end OpScaffold
