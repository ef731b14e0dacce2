import OpScaffold.HostFile.Block
import OpScaffold.Registry.Validation

/-!
# OpScaffold.Proofs.Registry.Validation

What the check of a registry tells. An entry that passes is sound by itself (`sound_of_validate`),
and the first one that does not pass ends the check. If all patterns can be read it ends with a
fault of the registry, or because the template misuses a value of the sample
(`cases_of_validate_eq_error`).
-/

namespace OpScaffold

variable {entries before : List Entry} {e : Entry} {failure : Failure}

/-- An entry whose pattern can be read has one, or none. -/
theorem Entry.exists_stop {e : Entry}
    (h : ∀ t ∈ e.blockEnd, ∃ pattern, Pattern.ofText t = .ok pattern) :
    ∃ stop, e.stop? = .ok stop := by
  unfold Entry.stop? Entry.stopText?
  cases hend : e.blockEnd with
  | none => exact ⟨none, rfl⟩
  | some t =>
    obtain ⟨pattern, hpattern⟩ := h t hend
    cases t with
    | nil => exact ⟨none, rfl⟩
    | cons c t => exact ⟨some pattern, by dsimp only; rw [hpattern]; rfl⟩

namespace Registry

/-- What is checked of an entry by itself. -/
structure Sound (e : Entry) : Prop where
  anchor : e.anchor.isBlankText = false
  expected : 1 ≤ e.expected
  template : ∃ snippet, e.render sample = .ok snippet
  blockEnd : ∀ t ∈ e.blockEnd, ∃ pattern, Pattern.ofText t = .ok pattern

/-- Whether the template of an entry misuses a value of the sample. -/
def Misuses (e : Entry) (error : Template.Error) : Prop :=
  e.render sample = .error error ∧ error.isBadTemplate = false

/-! ## One entry -/

theorem checkTemplate_eq_ok_iff :
    checkTemplate e = .ok () ↔ ∃ snippet, e.render sample = .ok snippet := by
  unfold checkTemplate
  cases e.render sample <;> simp

theorem checkBlockEnd_eq_ok_iff :
    checkBlockEnd e = .ok () ↔ ∀ t ∈ e.blockEnd, ∃ pattern, Pattern.ofText t = .ok pattern := by
  unfold checkBlockEnd
  cases e.blockEnd with
  | none => simp
  | some t => cases h : Pattern.ofText t <;> simp [h]

/-- An entry that passes is sound. -/
theorem sound_of_checkEntry (h : checkEntry before e = .ok ()) : Sound e := by
  unfold checkEntry at h
  split at h
  · cases h
  split at h
  · cases h
  next hanchor =>
  split at h
  · cases h
  next hexpected =>
  split at h
  · cases h
  next htemplate =>
  exact ⟨by simpa using hanchor, by omega, checkTemplate_eq_ok_iff.1 htemplate,
    checkBlockEnd_eq_ok_iff.1 h⟩

/-- An entry whose pattern can be read is refused with a fault of the registry, or its template
misuses a value. -/
theorem cases_of_checkEntry_eq_error
    (hpattern : ∀ t ∈ e.blockEnd, ∃ pattern, Pattern.ofText t = .ok pattern)
    (h : checkEntry before e = .error failure) :
    (∃ fault, failure = .registry fault) ∨ ∃ error, Misuses e error ∧ failure = .template error := by
  unfold checkEntry at h
  split at h
  · cases h; exact .inl ⟨_, rfl⟩
  split at h
  · cases h; exact .inl ⟨_, rfl⟩
  split at h
  · cases h; exact .inl ⟨_, rfl⟩
  split at h
  · next failure' htemplate =>
    cases h
    unfold checkTemplate at htemplate
    split at htemplate
    · cases htemplate
    next error hrender =>
    cases htemplate
    cases hbad : error.isBadTemplate with
    | true => exact .inl ⟨_, rfl⟩
    | false => exact .inr ⟨error, ⟨hrender, hbad⟩, rfl⟩
  · rw [checkBlockEnd_eq_ok_iff.2 hpattern] at h
    cases h

/-! ## All entries -/

theorem sound_of_checkEntries (h : checkEntries before entries = .ok ()) (he : e ∈ entries) :
    Sound e := by
  induction entries generalizing before with
  | nil => cases he
  | cons entry rest ih =>
    rw [checkEntries] at h
    split at h
    · cases h
    next hentry =>
    rcases List.mem_cons.1 he with rfl | he
    · exact sound_of_checkEntry hentry
    · exact ih h he

/-- The entries of a registry that is accepted are sound. -/
theorem sound_of_validate (h : validate entries = .ok ()) (he : e ∈ entries) : Sound e := by
  unfold validate at h
  split at h
  · cases h
  · exact sound_of_checkEntries h he

/-- The patterns of a valid registry can be read. -/
theorem stop_of_validate (h : validate entries = .ok ()) (he : e ∈ entries) :
    ∃ stop, e.stop? = .ok stop :=
  Entry.exists_stop (sound_of_validate h he).blockEnd

/-- Behind entries that pass, the first one that does not ends the check. -/
theorem exists_of_checkEntries_eq_error (h : checkEntries before entries = .error failure) :
    ∃ front e back before', entries = front ++ e :: back ∧ (∀ e' ∈ front, Sound e') ∧
      checkEntry before' e = .error failure := by
  induction entries generalizing before with
  | nil => cases h
  | cons entry rest ih =>
    rw [checkEntries] at h
    split at h
    · next hentry =>
      cases h
      exact ⟨[], entry, rest, before, rfl, by simp, hentry⟩
    · next hentry =>
      obtain ⟨front, e, back, before', rfl, hfront, he⟩ := ih h
      exact ⟨entry :: front, e, back, before', rfl,
        List.forall_mem_cons.2 ⟨sound_of_checkEntry hentry, hfront⟩, he⟩

/-- If all patterns can be read, a registry is rejected with a fault of the registry, or because
behind sound entries the template of another one misuses a value of the sample. -/
theorem cases_of_validate_eq_error
    (hpattern : ∀ e ∈ entries, ∀ t ∈ e.blockEnd, ∃ pattern, Pattern.ofText t = .ok pattern)
    (h : validate entries = .error failure) :
    (∃ fault, failure = .registry fault) ∨
      ∃ front e back error, entries = front ++ e :: back ∧ (∀ e' ∈ front, Sound e') ∧
        Misuses e error ∧ failure = .template error := by
  unfold validate at h
  split at h
  · cases h; exact .inl ⟨_, rfl⟩
  · obtain ⟨front, e, back, before, rfl, hfront, he⟩ := exists_of_checkEntries_eq_error h
    rcases cases_of_checkEntry_eq_error (hpattern e (by simp)) he with hfault | ⟨error, hmisuse, rfl⟩
    · exact .inl hfault
    · exact .inr ⟨front, e, back, error, rfl, hfront, hmisuse, rfl⟩

end Registry

end OpScaffold
