import OpScaffold.Proofs.HostFile.Extension
import OpScaffold.Proofs.Insertion
import OpScaffold.Proofs.Registry.Validation

/-!
# OpScaffold.Proofs.Rejection

How registering a variant fails. With entries of a valid registry, whose templates show the variant,
and host files that can be read if they are there, it fails with a fault of the registry or because
the variant is registered already (`isRejection_of_insert`).
-/

namespace OpScaffold

/-- Whether a failure is a fault of the registry or tells that the variant is there already. -/
def Failure.isRejection : Failure → Bool
  | .registry _ | .registered _ _ _ | .isExemplar _ | .operatorExists _ _ => true
  | _ => false

variable {t : FileTree} {root : Path} {path text : Text} {v : Variant} {entries : List Entry}
  {e : Entry} {failure : Failure}

namespace HostFile

variable {anchors : AnchorLines} {host : HostFile}

/-! ## Reading -/

theorem registry_of_assemble (hstop : ∀ i e, anchors.lookup i = some e → ∃ stop, e.stop? = .ok stop)
    {i : Nat} {lines : List Text} (h : assemble path anchors i lines = .error failure) :
    ∃ fault, failure = .registry fault := by
  fun_induction assemble path anchors i lines with
  | case1 => cases h
  | case2 _ _ _ _ _ hrest ih => cases h; exact ih hrest
  | case3 => cases h
  | case4 i line rest entry hentry error herror =>
    obtain ⟨stop, hs⟩ := hstop i entry hentry
    rw [herror] at hs
    cases hs
  | case5 => cases h; exact ⟨_, rfl⟩
  | case6 =>
    rename_i hrest ih
    cases h
    exact ih hrest
  | case7 => cases h

/-- Reading a host file fails with a fault of the registry. -/
theorem registry_of_parse (hstop : ∀ e ∈ entries, ∃ stop, e.stop? = .ok stop)
    (h : parse path text entries = .error failure) : ∃ fault, failure = .registry fault := by
  unfold parse at h
  split at h
  · cases h; exact ⟨_, rfl⟩
  · next anchors hanchors =>
    have hfound := findAnchors_spec hanchors
    split at h
    · next hassemble =>
      cases h
      exact registry_of_assemble (fun i e hi => hstop e (hfound.lookup_eq_some.1 hi).1) hassemble
    · cases h

/-! ## Registering -/

theorem registered_of_registerAt {p : ExtensionPoint} {snippet : List Text}
    (hr : p.entry.render v = .ok snippet) (h : registerAt path v p = .error failure) :
    ∃ spelling anchor, failure = .registered path spelling anchor := by
  unfold registerAt at h
  split at h
  · cases h; exact ⟨_, _, rfl⟩
  · split at h
    · cases h; exact ⟨_, _, rfl⟩
    · rw [hr] at h; cases h

theorem registered_of_registerParts {parts : List Part}
    (hr : ∀ p, .point p ∈ parts → ∃ snippet, p.entry.render v = .ok snippet)
    (h : registerParts path v parts = .error failure) :
    ∃ spelling anchor, failure = .registered path spelling anchor := by
  induction parts with
  | nil => cases h
  | cons part rest ih =>
    have hrest := ih fun p hp => hr p (by simp [hp])
    cases part with
    | line l =>
      rw [registerParts] at h
      cases hreg : registerParts path v rest with
      | error _ => rw [hreg] at h; cases h; exact hrest hreg
      | ok _ => rw [hreg] at h; cases h
    | point p =>
      rw [registerParts] at h
      cases hat : registerAt path v p with
      | error _ =>
        rw [hat] at h
        cases h
        obtain ⟨snippet, hsnippet⟩ := hr p (by simp)
        exact registered_of_registerAt hsnippet hat
      | ok q =>
        rw [hat] at h
        dsimp only at h
        cases hreg : registerParts path v rest with
        | error _ => rw [hreg] at h; cases h; exact hrest hreg
        | ok _ => rw [hreg] at h; cases h

/-- Registering a variant that the templates show fails where it is registered already. -/
theorem registered_of_register
    (hr : ∀ p, .point p ∈ host.parts → ∃ snippet, p.entry.render v = .ok snippet)
    (h : host.register v = .error failure) :
    ∃ spelling anchor, failure = .registered host.path spelling anchor := by
  unfold register at h
  cases hreg : registerParts host.path v host.parts with
  | error _ => rw [hreg] at h; cases h; exact registered_of_registerParts hr hreg
  | ok _ => rw [hreg] at h; cases h

end HostFile

namespace Insertion

/-- Whether a host file can be read, or is not there. -/
def Readable (t : FileTree) (p : Path) : Prop :=
  t.isFile? p = .ok false ∨ t.isFile? p = .ok true ∧ ∃ text, t.readText p = .ok text

theorem isRejection_of_newText {group : List Entry}
    (hstop : ∀ e ∈ group, ∃ stop, e.stop? = .ok stop)
    (hr : ∀ e ∈ group, ∃ snippet, e.render v = .ok snippet)
    (hread : Readable t (root.child path))
    (h : newText t root v (path, group) = .error failure) : failure.isRejection = true := by
  unfold newText at h
  rcases hread with hfile | ⟨hfile, text, htext⟩
  · dsimp only at h
    rw [hfile] at h
    cases h
    rfl
  dsimp only at h
  rw [hfile] at h
  dsimp only at h
  rw [htext] at h
  dsimp only at h
  cases hparse : HostFile.parse path text group with
  | error _ =>
    rw [hparse] at h
    cases h
    obtain ⟨fault, rfl⟩ := HostFile.registry_of_parse hstop hparse
    rfl
  | ok host =>
    rw [hparse] at h
    dsimp only at h
    cases hreg : host.register v with
    | error _ =>
      rw [hreg] at h
      cases h
      obtain ⟨spelling, anchor, rfl⟩ := HostFile.registered_of_register (fun p hp =>
        hr _ ((HostFile.parse_eq_ok_iff.1 hparse).2.2.entry_mem hp)) hreg
      rfl
    | ok host' => rw [hreg] at h; cases h

theorem exists_newText_of_insertGroups {c : Changes} {gs : List Group}
    (h : insertGroups t root v c gs = .error failure) :
    ∃ g ∈ gs, newText t root v g = .error failure := by
  induction gs generalizing c with
  | nil => cases h
  | cons g rest ih =>
    rw [insertGroups] at h
    cases hg : newText t root v g with
    | error _ => rw [hg] at h; cases h; exact ⟨g, List.mem_cons_self, hg⟩
    | ok new =>
      rw [hg] at h
      obtain ⟨g', hg', hnew⟩ := ih h
      exact ⟨g', List.mem_cons_of_mem _ hg', hnew⟩

/-- **Rejection.** Let the registry be valid, let its templates show the variant, and let each host
file be readable if it is there. Then an insertion fails only with a fault of the registry or
because the variant is registered already. -/
theorem isRejection_of_insert (hvalid : Registry.validate entries = .ok ())
    (hr : ∀ e ∈ entries, ∃ snippet, e.render v = .ok snippet)
    (hread : ∀ e ∈ entries, Readable t (root.child e.path))
    (h : insert t root entries v = .error failure) : failure.isRejection = true := by
  obtain ⟨g, hg, hnew⟩ := exists_newText_of_insertGroups h
  obtain ⟨e, he, rfl⟩ := mem_groups.1 hg
  have hmem {e' : Entry} (he' : e' ∈ entries.filter (·.path = e.path)) : e' ∈ entries :=
    (List.mem_filter.1 he').1
  exact isRejection_of_newText (fun e' he' => Registry.stop_of_validate hvalid (hmem he'))
    (fun e' he' => hr e' (hmem he')) (hread e he) hnew

end Insertion

end OpScaffold
