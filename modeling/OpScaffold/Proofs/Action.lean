import OpScaffold.Session

/-!
# OpScaffold.Proofs.Action

Actions with a state that can fail: what they leave behind, however they end, what they preserve,
and with which errors they fail. An invariant of the parts of an action is an invariant of the whole
(`Preserves.bind`, `Preserves.tryCatch`), and so is a property of their errors (`FailsOnly.bind`,
`FailsOnly.tryCatch`); the equations on `>>=` open an action where its result matters.
-/

namespace OpScaffold.Action

variable {ε σ α β : Type} {x : EStateM ε σ α} {f : α → EStateM ε σ β} {s s' : σ}

/-- The state that an action leaves behind. -/
def after (x : EStateM ε σ α) (s : σ) : σ :=
  match x s with
  | .ok _ s' | .error _ s' => s'

theorem after_of_ok {a : α} (h : x s = .ok a s') : after x s = s' := by rw [after, h]

theorem after_of_error {e : ε} (h : x s = .error e s') : after x s = s' := by rw [after, h]

/-- Whether a run of an action succeeds. -/
def succeeds (x : EStateM ε σ α) (s : σ) : Bool :=
  match x s with
  | .ok _ _ => true
  | .error _ _ => false

theorem succeeds_iff : succeeds x s = true ↔ ∃ a s', x s = .ok a s' := by
  unfold succeeds
  cases x s with
  | ok a s' => exact iff_of_true rfl ⟨a, s', rfl⟩
  | error e s' => simp

theorem not_succeeds_iff : succeeds x s = false ↔ ∃ e s', x s = .error e s' := by
  unfold succeeds
  cases x s with
  | ok a s' => simp
  | error e s' => exact iff_of_true rfl ⟨e, s', rfl⟩

/-- The error with which a run of an action fails, if it does. -/
def error? (x : EStateM ε σ α) (s : σ) : Option ε :=
  match x s with
  | .ok _ _ => none
  | .error e _ => some e

theorem error?_eq_some_iff {e : ε} : error? x s = some e ↔ ∃ s', x s = .error e s' := by
  unfold error?
  cases x s with
  | ok a s' => simp
  | error e' s' => simp

/-! ## Results of a sequence -/

theorem bind_apply (x : EStateM ε σ α) (f : α → EStateM ε σ β) (s : σ) :
    (x >>= f) s = (match x s with
      | .ok a s' => f a s'
      | .error e s' => .error e s') := rfl

/-- A sequence succeeds if both parts do. -/
theorem bind_eq_ok {b : β} :
    (x >>= f) s = .ok b s' ↔ ∃ a s₁, x s = .ok a s₁ ∧ f a s₁ = .ok b s' := by
  rw [bind_apply]
  cases x s with
  | ok a s₁ => exact ⟨fun h => ⟨a, s₁, rfl, h⟩, fun ⟨_, _, hx, h⟩ => by cases hx; exact h⟩
  | error => simp

/-- A sequence fails with its first part, or behind it. -/
theorem bind_eq_error {e : ε} :
    (x >>= f) s = .error e s' ↔
      x s = .error e s' ∨ ∃ a s₁, x s = .ok a s₁ ∧ f a s₁ = .error e s' := by
  rw [bind_apply]
  cases x s with
  | ok a s₁ =>
    refine ⟨fun h => .inr ⟨a, s₁, rfl, h⟩, ?_⟩
    rintro (hx | ⟨_, _, hx, h⟩) <;> cases hx
    exact h
  | error => simp

/-- A sequence without a state succeeds if both parts do. -/
theorem except_bind_eq_ok {x : Except ε α} {f : α → Except ε β} {b : β}
    (h : (x >>= f) = .ok b) : ∃ a, x = .ok a ∧ f a = .ok b := by
  cases x with
  | error e => cases h
  | ok a => exact ⟨a, rfl, h⟩

theorem get_bind (f : σ → EStateM ε σ α) (s : σ) : (get >>= f) s = f s s := rfl

theorem set_bind (s' : σ) (f : PUnit → EStateM ε σ α) (s : σ) : (set s' >>= f) s = f ⟨⟩ s' := rfl

/-- What is done with a result alone leaves nothing behind. -/
theorem after_bind_pure (x : EStateM ε σ α) (g : α → β) (s : σ) :
    after (x >>= fun a => pure (g a)) s = after x s := by
  rw [after, bind_apply, after]
  cases x s <;> rfl

theorem tryCatch_apply (x : EStateM ε σ α) (handle : ε → EStateM ε σ α) (s : σ) :
    tryCatch x handle s = (match x s with
      | .ok a s' => .ok a s'
      | .error e s' => handle e s') := by
  change EStateM.tryCatch x handle s = _
  unfold EStateM.tryCatch
  cases x s <;> rfl

/-! ## Invariants -/

/-- Whether an action keeps an invariant of the state, however it ends. -/
def Preserves (I : σ → Prop) (x : EStateM ε σ α) : Prop := ∀ s, I s → I (after x s)

namespace Preserves

variable {I : σ → Prop}

theorem of_ok {a : α} (hx : Preserves I x) (hs : I s) (h : x s = .ok a s') : I s' :=
  after_of_ok h ▸ hx s hs

theorem of_error {e : ε} (hx : Preserves I x) (hs : I s) (h : x s = .error e s') : I s' :=
  after_of_error h ▸ hx s hs

theorem pure (a : α) : Preserves I (pure a : EStateM ε σ α) := fun _ hs => hs

theorem throw (e : ε) : Preserves I (throw e : EStateM ε σ α) := fun _ hs => hs

theorem bind (hx : Preserves I x) (hf : ∀ a, Preserves I (f a)) : Preserves I (x >>= f) := by
  intro s hs
  cases h : x s with
  | ok a s₁ =>
    rw [after, bind_apply, h]
    exact hf a s₁ (hx.of_ok hs h)
  | error e s₁ =>
    rw [after, bind_apply, h]
    exact hx.of_error hs h

theorem tryCatch {handle : ε → EStateM ε σ α} (hx : Preserves I x)
    (hh : ∀ e, Preserves I (handle e)) : Preserves I (tryCatch x handle) := by
  intro s hs
  cases h : x s with
  | ok a s₁ =>
    rw [after, tryCatch_apply, h]
    exact hx.of_ok hs h
  | error e s₁ =>
    rw [after, tryCatch_apply, h]
    exact hh e s₁ (hx.of_error hs h)

end Preserves

/-! ## Errors -/

/-- Whether all errors with which an action can fail have a property. -/
def FailsOnly (E : ε → Prop) (x : EStateM ε σ α) : Prop := ∀ s e s', x s = .error e s' → E e

namespace FailsOnly

variable {E E₀ : ε → Prop}

theorem pure (a : α) : FailsOnly E (pure a : EStateM ε σ α) := fun _ _ _ h => by cases h

theorem throw {e : ε} (he : E e) : FailsOnly E (throw e : EStateM ε σ α) :=
  fun _ _ _ h => by cases h; exact he

theorem bind (hx : FailsOnly E x) (hf : ∀ a, FailsOnly E (f a)) : FailsOnly E (x >>= f) := by
  intro s e s' h
  rcases bind_eq_error.1 h with h | ⟨a, s₁, -, h⟩
  · exact hx s e s' h
  · exact hf a s₁ e s' h

/-- Only the errors of the handler count, which meets those of the action. -/
theorem tryCatch {handle : ε → EStateM ε σ α} (hx : FailsOnly E₀ x)
    (hh : ∀ e, E₀ e → FailsOnly E (handle e)) : FailsOnly E (tryCatch x handle) := by
  intro s e s' h
  rw [tryCatch_apply] at h
  cases hs : x s with
  | ok a s₁ => rw [hs] at h; cases h
  | error e₀ s₁ =>
    rw [hs] at h
    exact hh e₀ (hx s e₀ s₁ hs) s₁ e s' h

end FailsOnly

end OpScaffold.Action
