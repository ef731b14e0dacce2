import OpScaffold.Proofs.Commit
import OpScaffold.Proofs.Plan
import OpScaffold.Proofs.Program

/-!
# OpScaffold.Proofs.Effect

What a run does to the tree, and how its ending tells it. A generation that succeeds adds its
variant to the tree, and one whose failure is reported changes nothing (`generate_cases`). So a run
that ends with the status 0 has added a variant, and one that ends with the status 1 has done
nothing beyond the reset (`run_effect`).
-/

namespace OpScaffold

open OpScaffold.Action

namespace Generation

variable {t : FileTree} {root : Path} {v : Variant} {c : Changes} {s : Session}

/-! ## The effect of a generation -/

/-- What adding a variant does to a tree: six files, all at different places, are touched. The
host files change, the file of the variant is new, and all else is as before. -/
structure Added (root : Path) (v : Variant) (t t' : FileTree) : Prop where
  six : ((touched root v).map t.locate).Nodup ∧ (touched root v).length = 6
  hosts : ∀ e ∈ Registry.standard, ∃ old new,
    t.file? (t.locate (root.child e.path)) = some old ∧
    t'.file? (t.locate (root.child e.path)) = some new ∧ new ≠ old
  fresh : let l := t.locate (Exemplar.targetPath root Exemplar.standard.directory v)
    t.node? l = none ∧ (t'.file? l).isSome
  rest : ∀ l ∉ (touched root v).map t.locate, t'.node? l = t.node? l

/-- Texts of different lengths are written differently. -/
theorem encode_ne_of_length_lt {old new : Text} (h : old.length < new.length) :
    Utf8.encode new ≠ Utf8.encode old := by
  intro heq
  have hdec := Utf8.decode_encode new
  rw [heq, Utf8.decode_encode, Except.ok.injEq] at hdec
  rw [hdec] at h
  exact Nat.lt_irrefl _ h

/-- Where the texts of a plan are written, and no directory comes or goes, the variant is added. -/
theorem Planned.added {t' : FileTree} (hplan : Planned t root v c)
    (hname : Variant.isName v.name = true) (hlevel : t.Level t')
    (hfiles : t'.file? = Changes.overwritten t c) : Added root v t t' := by
  have hlocs : (c.map fun w => t.locate w.1) = (touched root v).map t.locate := by
    rw [← hplan.keys, List.map_map]; rfl
  have hnodup : (c.map fun w => t.locate w.1).Nodup := hlocs ▸ hplan.nodup_locations hname
  refine ⟨⟨hplan.nodup_locations hname, rfl⟩, fun e he => ?_, ⟨hplan.node?_target hname, ?_⟩,
    fun l hl => hlevel.node?_eq ?_⟩
  · obtain ⟨-, old, new, hread, hmem, hlt⟩ := hplan.hosts e he
    refine ⟨_, _, Changes.files_of_readText hread, ?_, encode_ne_of_length_lt hlt⟩
    rw [hfiles]
    exact Changes.overwritten_of_mem hnodup hmem
  · have hmem : Exemplar.targetPath root Exemplar.standard.directory v ∈ c.map (·.1) := by
      rw [hplan.keys]; simp [touched]
    obtain ⟨⟨p, text⟩, hw, rfl⟩ := List.mem_map.1 hmem
    rw [hfiles, Changes.overwritten_of_mem hnodup hw]
    rfl
  · rw [hfiles]
    exact Changes.overwritten_of_not_mem c (hlocs ▸ hl)

/-- A generation adds its variant, or fails; where the failure is reported nothing has changed. -/
theorem generate_cases (hwf : s.disk.tree.WF) (hname : Variant.isName v.name = true)
    (hs : ∀ p ∈ touched root v, ∀ q, p.sibling? = some q →
      s.disk.tree.file? (s.disk.tree.locate q) = none) :
    (∃ c s', generate root v Registry.standard false s = .ok c s' ∧
      Added root v s.disk.tree s'.disk.tree) ∨
    ∃ e s', generate root v Registry.standard false s = .error e s' ∧
      (e.isReported = true → ∀ l, s'.disk.tree.node? l = s.disk.tree.node? l) := by
  unfold generate
  rw [bind_apply]
  cases hp : plan root v Registry.standard s with
  | error e s₁ =>
    have hsame := (talks_plan _ _ _ s).of_error (.refl s) hp
    exact .inr ⟨e, s₁, rfl, fun _ l => by rw [hsame.disk]⟩
  | ok c s₁ =>
    have hplan := planned_of_plan hp
    have hsame := Run.talks_print "\nWriting files:".toList s s₁
      ((talks_plan _ _ _ s).of_ok (.refl s) hp)
    dsimp only
    rw [Run.print_bind, bind_apply]
    generalize after (Run.print "\nWriting files:".toList) s₁ = s₂ at hsame ⊢
    have hap := hplan.apart hname hs
    rw [← hsame.disk] at hwf hplan hap
    have hlevel := Changes.level_commit hwf fun w hw =>
      hplan.reachesDirectory hname (hplan.keys ▸ List.mem_map_of_mem hw)
    rcases commit_cases c s₂ with ⟨written, s', hc, hrun⟩ | ⟨e, s', hc, hrun⟩
    · rw [hrun]
      rw [after_of_ok hc] at hlevel
      have hfiles := Changes.files_of_commit hwf hap hc
      exact .inl ⟨c, s', rfl, hsame.disk ▸ hplan.added hname hlevel hfiles⟩
    · rw [hrun]
      rw [after_of_error hc] at hlevel
      refine .inr ⟨e, s', rfl, fun he l => ?_⟩
      have hends := Changes.commit_ends hwf (by rwa [Changes.map_fst_raw])
      rw [error?, hc, after_of_error hc] at hends
      rw [hlevel.node?_eq (congrFun (hends.undone he) l), hsame.disk]

end Generation

/-! ## The effect of a run -/

namespace CommandLine

variable {a : Arguments} {s : Session} {v : Variant} {script root : Path}

theorem isName_of_named {answers : List Answer} (h : Named a answers v) :
    Variant.isName v.name = true := by
  unfold Named at h
  split at h
  · obtain ⟨hname, rfl⟩ := Variant.derive_eq_ok h
    exact hname
  · obtain ⟨t, -, h⟩ := h
    obtain ⟨hname, rfl⟩ := Variant.derive_eq_ok h
    exact hname

/-- How the ending of a run tells what became of the tree `t`: with the status 0 a run that is not
dry has added its variant, and with any other status, or stopped at its arguments, it has changed
nothing. -/
def TellsEffect (script : Path) (arguments : List Text) (s : Session) (t : FileTree) :
    EStateM.Result Failure Session Ending → Prop
  | .ok (.status 0) s' => ∀ a, Arguments.ofList arguments = .ok a → a.dryRun = false →
      ∃ root v, chosenRoot script a.root s = .ok root s ∧ Named a s.answers v ∧
        Generation.Added root v t s'.disk.tree
  | .ok _ s' => ∀ l, s'.disk.tree.node? l = t.node? l
  | .error _ _ => True

/-- A run that reports a failure of its work tells that the work did nothing. -/
theorem tells_of_work_eq_error {arguments : List Text} {e : Failure} {s₁ : Session} {t : FileTree}
    (hw : work script a s = .error e s₁)
    (h : e.isReported = true → ∀ l, s₁.disk.tree.node? l = t.node? l) :
    TellsEffect script arguments s t (finish script a s) := by
  rcases finish_cases script a s with
    ⟨v, s₂, s', hw', -, -⟩ | ⟨e', s₂, hw', ⟨he, s', hs, hf⟩ | ⟨-, hf⟩⟩
  · rw [hw] at hw'; cases hw'
  · rw [hw] at hw'
    cases hw'
    rw [hf]
    intro l
    rw [hs.disk, h he l]
  · rw [hf]
    trivial

/-- A dry run tells that it did nothing. -/
theorem tells_of_dryRun {arguments : List Text} (ha : Arguments.ofList arguments = .ok a)
    (hdry : a.dryRun = true) (hsame : s.SameGround (after (finish script a) s)) :
    TellsEffect script arguments s s.disk.tree (finish script a s) := by
  rcases finish_cases script a s with
    ⟨v, s₁, s', -, -, hf⟩ | ⟨e, s₁, -, ⟨-, s', -, hf⟩ | ⟨-, hf⟩⟩
  · rw [hf]
    intro a' ha' hreal
    rw [ha] at ha'
    cases ha'
    rw [hdry] at hreal
    cases hreal
  · rw [after_of_ok hf] at hsame
    rw [hf]
    exact fun l => by rw [hsame.disk]
  · rw [hf]
    trivial

/-- A run whose work comes to the generation tells how that ended. -/
theorem tells_of_generate {arguments : List Text} {s₂ : Session}
    (ha : Arguments.ofList arguments = .ok a) (hc : chosenRoot script a.root s = .ok root s)
    (hname : Named a s.answers v) (hwf : s₂.disk.tree.WF)
    (hs : ∀ p ∈ Generation.touched root v, ∀ q, p.sibling? = some q →
      s₂.disk.tree.file? (s₂.disk.tree.locate q) = none)
    (hw : work script a s = (Generation.generate root v Registry.standard false >>= fun _ =>
      pure v) s₂) :
    TellsEffect script arguments s s₂.disk.tree (finish script a s) := by
  rw [bind_apply] at hw
  rcases Generation.generate_cases hwf (isName_of_named hname) hs with
    ⟨c, s₃, hgen, hadded⟩ | ⟨e, s₃, hgen, hrep⟩
  · rw [hgen] at hw
    rcases finish_cases script a s with ⟨v', s₄, s', hw', hs', hf⟩ | ⟨e', s₄, hw', -⟩
    · rw [hw] at hw'
      cases hw'
      rw [hf]
      intro a' ha' _
      rw [ha] at ha'
      cases ha'
      exact ⟨root, v, hc, hname, hs'.disk ▸ hadded⟩
    · rw [hw] at hw'
      cases hw'
  · rw [hgen] at hw
    exact tells_of_work_eq_error hw hrep

/-- **The status tells the effect.** Let `t` be the tree at the start of a run, or the one behind
the reset if one was run, with no temporary sibling beside the files to be written. A run that ends
with the status 0 and is not dry changes exactly six places of `t`: those of the five host files,
whose contents change, and that of the new file, where nothing stood. A run that ends with another
status, or stops at its arguments, leaves `t` behind as it is. -/
theorem run_effect (script : Path) (arguments : List Text) (s : Session)
    (hwf : s.disk.tree.WF)
    (hs : ∀ a root v, Arguments.ofList arguments = .ok a →
      chosenRoot (resolved script) a.root s = .ok root s → Named a s.answers v →
      ∀ p ∈ Generation.touched root v, ∀ q ∈ p.sibling?,
        let t := (Guard.diskBehind (resolved script) s (after (run script arguments) s)).tree
        t.file? (t.locate q) = none) :
    TellsEffect (resolved script) arguments s
      (Guard.diskBehind (resolved script) s (after (run script arguments) s)).tree
      (run script arguments s) := by
  rcases run_cases script arguments s with ⟨h, n, s', -, hrun, hsame⟩ | ⟨a, ha, hrun⟩
  · rw [after_of_ok hrun, Guard.diskBehind_of_sameGround hsame, hrun]
    exact fun l => by rw [hsame.disk]
  have hafter : after (run script arguments) s = after (finish (resolved script) a) s := by
    rw [after, hrun, after]
  rw [hafter] at hs ⊢
  rw [hrun]
  have hfin := sameGround_finish (resolved script) a s
  rcases work_cases (resolved script) a s with
    ⟨e, s₁, hw, hsame⟩ | ⟨root, hclear, ⟨-, -, e, s₁, hw, hreset⟩ | ⟨v, s₂, hname, hg, hw⟩⟩
  · rw [after_of_error hw] at hfin
    refine tells_of_work_eq_error hw fun _ l => ?_
    rw [Guard.diskBehind_of_sameGround (hsame.trans hfin), hsame.disk]
  · rw [after_of_error hw] at hfin
    refine tells_of_work_eq_error hw fun _ l => ?_
    rw [(hreset.trans hfin).diskBehind_eq, hfin.disk]
  · rw [after_work_eq hw] at hfin
    cases hdry : a.dryRun with
    | true =>
      rw [hdry] at hfin
      rw [Guard.Ground, if_neg (by simp [guardOptions, hdry])] at hg
      have hsame := (Generation.talks_generate _ _ _ s s₂ hg).trans hfin
      rw [Guard.diskBehind_of_sameGround hsame]
      exact tells_of_dryRun ha hdry hsame
    | false =>
      rw [hdry] at hfin hw
      have ht : Guard.diskBehind (resolved script) s (after (finish (resolved script) a) s) =
          s₂.disk := by
        rw [← hg.diskBehind_eq]
        exact Guard.diskBehind_congr (hfin.resets.trans
          (Generation.preserves_resets_generate root v _ _ s₂.resets s₂ rfl))
      rw [ht] at hs ⊢
      exact tells_of_generate ha hclear.chosen hname (hg.wf hwf)
        (hs a root v ha hclear.chosen hname) hw

/-- A reset takes away the left-over file of the new operator, which is then added. -/
theorem run_effect_behind_reset :
    let directory := fun names : List String => (names.map String.toList, Node.directory)
    let file := fun (names : List String) (text : String) =>
      (names.map String.toList, Node.file (Utf8.encode text.toList))
    let tree : FileTree := ⟨["w".toList], [
      directory ["w"], directory ["w", "src"], directory ["w", "src", "float"],
      directory ["w", "src", "ad"], directory ["w", "src", "op"], file ["w", "Cargo.toml"] "",
      file ["w", "src", "float", "core.rs"] "// unary functions\n",
      file ["w", "src", "float", "az_float.rs"] "// unary functions\n",
      file ["w", "src", "float", "num_vec.rs"] "// unary functions\n",
      file ["w", "src", "ad", "float_core.rs"] "// unary functions\n",
      file ["w", "src", "op", "id.rs"] "// Unary Operators\n",
      file ["w", "src", "op", "sin.rs"] "sin", file ["w", "src", "op", "cos.rs"] "old"]⟩
    let s : Session :=
      { disk := { tree }, git := { removes := [Path.ofText "src/op/cos.rs".toList] } }
    let script := Path.ofText "/w/bin/new_unary.py".toList
    let arguments := ["cos".toList, "--yes".toList, "--root".toList, "./".toList]
    let t := tree.discard ["w".toList, "src".toList, "op".toList, "cos".toList ++ ".rs".toList]
    tree.WF ∧ (Guard.diskBehind (resolved script) s (after (run script arguments) s)).tree = t ∧
      (∀ a root v, Arguments.ofList arguments = .ok a →
        chosenRoot (resolved script) a.root s = .ok root s → Named a s.answers v →
        ∀ p ∈ Generation.touched root v, ∀ q ∈ p.sibling?, t.file? (t.locate q) = none) ∧
      ∃ s' root v, run script arguments s = .ok (.status 0) s' ∧
        Generation.Added root v t s'.disk.tree := by
  intro directory file tree s script arguments t
  have hwf : tree.WF := FileTree.wf_of_nodes (by decide +kernel)
  have ht : (Guard.diskBehind (resolved script) s (after (run script arguments) s)).tree = t := by
    decide +kernel
  have ha : Arguments.ofList arguments =
      .ok { name := some "cos".toList, root := some "./".toList, yes := true } := by decide +kernel
  have hs : ∀ a root v, Arguments.ofList arguments = .ok a →
      chosenRoot (resolved script) a.root s = .ok root s → Named a s.answers v →
      ∀ p ∈ Generation.touched root v, ∀ q ∈ p.sibling?, t.file? (t.locate q) = none := by
    intro a root v ha' hc hn
    rw [ha] at ha'
    cases ha'
    have hroot : Root.check tree (Path.ofText "./".toList) = .ok (Path.ofText "./".toList) := by
      decide +kernel
    have hv : Variant.derive "cos".toList = .ok ⟨"cos".toList, "COS".toList⟩ := by decide +kernel
    obtain ⟨hc, -⟩ := Run.ofExcept_eq_ok (x := Root.check tree (Path.ofText "./".toList)) hc
    rw [hroot] at hc
    cases hc
    have hn' : Variant.derive "cos".toList = .ok v := hn
    rw [hv] at hn'
    cases hn'
    decide +kernel
  have hends : (match run script arguments s with
      | .ok (.status 0) _ => true
      | _ => false) = true := by decide +kernel
  have htells := run_effect script arguments s hwf (by rw [ht]; exact hs)
  rw [ht] at htells
  refine ⟨hwf, ht, hs, ?_⟩
  split at hends
  · next s' hrun =>
    rw [hrun] at htells
    obtain ⟨root, v, -, -, hadded⟩ := htells _ ha rfl
    exact ⟨s', root, v, hrun, hadded⟩
  · cases hends

end CommandLine

end OpScaffold
