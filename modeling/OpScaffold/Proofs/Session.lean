import OpScaffold.CommandLine.Program
import OpScaffold.Proofs.Action

/-!
# OpScaffold.Proofs.Session

The parts of a run that only talk: they print, ask, and look at the tree. None of them touches the
ground of the run (`Session.SameGround`): its disk, its version control and the resets that were
run.
-/

namespace OpScaffold

open OpScaffold.Action

/-- Sessions with the same disk, the same version control and the same resets. -/
structure Session.SameGround (s s' : Session) : Prop where
  disk : s'.disk = s.disk
  git : s'.git = s.git
  resets : s'.resets = s.resets

theorem Session.SameGround.refl (s : Session) : s.SameGround s := ⟨rfl, rfl, rfl⟩

theorem Session.SameGround.trans {s s' s'' : Session} (h : s.SameGround s')
    (h' : s'.SameGround s'') : s.SameGround s'' :=
  ⟨h'.disk.trans h.disk, h'.git.trans h.git, h'.resets.trans h.resets⟩

/-- Whether a part of a run leaves the ground alone. -/
abbrev Talks {α : Type} (x : Run α) : Prop := ∀ s₀ : Session, Preserves s₀.SameGround x

/-- What does not depend on talking is kept by it. -/
theorem Talks.preserves {α : Type} {x : Run α} {I : Session → Prop} (hx : Talks x)
    (hI : ∀ {s s' : Session}, s.SameGround s' → I s → I s') : Preserves I x :=
  fun s hs => hI (hx s s (.refl s)) hs

namespace Run

theorem ofExcept_apply {α : Type} (x : Except Failure α) (s : Session) :
    ofExcept x s = (match x with
      | .ok a => .ok a s
      | .error e => .error e s) := by
  cases x <;> rfl

theorem ofExcept_eq_ok {α : Type} {x : Except Failure α} {a : α} {s s' : Session}
    (h : ofExcept x s = .ok a s') : x = .ok a ∧ s' = s := by
  cases x <;> cases h
  exact ⟨rfl, rfl⟩

theorem print_bind {α : Type} (line : Text) (f : Unit → Run α) (s : Session) :
    (print line >>= f) s = f () (after (print line) s) := rfl

theorem printError_bind {α : Type} (line : Text) (f : Unit → Run α) (s : Session) :
    (printError line >>= f) s = f () (after (printError line) s) := rfl

theorem talks_print (line : Text) : Talks (print line) := fun _ _ h => ⟨h.disk, h.git, h.resets⟩

theorem talks_printError (line : Text) : Talks (printError line) :=
  fun _ _ h => ⟨h.disk, h.git, h.resets⟩

theorem talks_ofExcept {α : Type} (x : Except Failure α) : Talks (ofExcept x) := by
  intro s₀
  cases x with
  | ok a => exact .pure a
  | error e => exact .throw e

theorem talks_tree : Talks tree := fun _ _ h => h

theorem tree_bind {α : Type} (f : FileTree → Run α) (s : Session) :
    (tree >>= f) s = f s.disk.tree s := rfl

theorem askTree_apply {α : Type} (question : FileTree → Except FileError α) (s : Session) :
    askTree question s = (match question s.disk.tree with
      | .ok a => .ok a s
      | .error e => .error (.file e) s) := by
  unfold askTree
  rw [tree_bind]
  cases question s.disk.tree <;> rfl

theorem talks_askTree {α : Type} (question : FileTree → Except FileError α) :
    Talks (askTree question) := by
  intro s₀ s h
  rw [after, askTree_apply]
  cases question s.disk.tree <;> exact h

/-- What a prompt meets is the next answer; then it is gone. -/
theorem ask_apply (prompt : Text) (s : Session) :
    ask prompt s =
      (match s.answers.head? with
        | some (.line t) =>
          .ok (some t) { s with asked := s.asked ++ [prompt], answers := s.answers.tail }
        | some .interrupt =>
          .error .interrupted { s with asked := s.asked ++ [prompt], answers := s.answers.tail }
        | some .endOfInput | none =>
          .ok none { s with asked := s.asked ++ [prompt], answers := s.answers.tail }) := by
  unfold ask
  rw [get_bind, set_bind]
  cases s.answers.head? with
  | none => rfl
  | some a => cases a <;> rfl

theorem after_ask (prompt : Text) (s : Session) :
    after (ask prompt) s =
      { s with asked := s.asked ++ [prompt], answers := s.answers.tail } := by
  rw [after, ask_apply]
  cases s.answers.head? with
  | none => rfl
  | some a => cases a <;> rfl

theorem talks_ask (prompt : Text) : Talks (ask prompt) := by
  intro s₀ s h
  rw [after_ask]
  exact ⟨h.disk, h.git, h.resets⟩

theorem talks_confirm (prompt : Text) : Talks (confirm prompt) := by
  intro s₀
  refine (talks_ask prompt s₀).bind fun answer => ?_
  cases answer with
  | none => exact .pure false
  | some t => exact .pure _

theorem talks_readName : Talks readName := by
  intro s₀
  refine (talks_ask _ s₀).bind fun answer => ?_
  cases answer with
  | none => exact .throw _
  | some name =>
    dsimp only
    split
    · exact .pure _
    · exact .throw _

end Run

namespace Generation

theorem talks_preview (c : Changes RawText) : Talks (preview c) := by
  intro s₀
  induction c with
  | nil => exact .pure ()
  | cons w rest ih =>
    exact (Run.talks_askTree _ s₀).bind fun _ => (Run.talks_print _ s₀).bind fun _ => ih

theorem talks_report (written : List Changes.Written) : Talks (report written) := by
  intro s₀
  induction written with
  | nil => exact .pure ()
  | cons w rest ih => exact (Run.talks_print _ s₀).bind fun _ => ih

/-- A dry run of a commit only talks. -/
theorem talks_commit (c : Changes RawText) : Talks (commit c true) := talks_preview c

theorem talks_plan (root : Path) (v : Variant) (entries : List Entry) :
    Talks (plan root v entries) := fun s₀ =>
  (Run.talks_ofExcept _ s₀).bind fun _ => (Run.talks_print _ s₀).bind fun _ =>
    (Run.talks_tree s₀).bind fun _ => (Run.talks_ofExcept _ s₀).bind fun _ =>
      (Run.talks_ofExcept _ s₀).bind fun _ => .pure _

theorem talks_generate (root : Path) (v : Variant) (entries : List Entry) :
    Talks (generate root v entries true) := fun s₀ =>
  (talks_plan root v entries s₀).bind fun _ => (Run.talks_print _ s₀).bind fun _ =>
    (talks_commit _ s₀).bind fun _ => .pure _

/-- Adding a variant runs no reset, however it ends. -/
theorem preserves_resets_generate (root : Path) (v : Variant) (entries : List Entry)
    (dryRun : Bool) (resets : List Path) :
    Preserves (fun s => s.resets = resets) (generate root v entries dryRun) := by
  have htalks : ∀ {α : Type} {x : Run α}, Talks x → Preserves (fun s => s.resets = resets) x :=
    fun hx => hx.preserves fun h hs => h.resets.trans hs
  have hcommit : ∀ c, Preserves (fun s => s.resets = resets) (commit c dryRun) := by
    intro c
    cases dryRun with
    | true => exact htalks (talks_commit c)
    | false =>
      refine Preserves.bind (fun s hs => ?_) fun written => htalks (talks_report written)
      rw [after, Run.onDisk]
      cases c.commit s.disk <;> exact hs
  exact (htalks (talks_plan root v entries)).bind fun c =>
    (htalks (Run.talks_print _)).bind fun _ => (hcommit c).bind fun _ => .pure _

end Generation

end OpScaffold
