import OpScaffold.Proofs.HostFile.Extension
import OpScaffold.Proofs.HostFile.Splice

/-!
# OpScaffold.Proofs.HostFile.Registration

Registering a variant extends all points of a host file, provided that none of them has one of its
spellings (`register_eq_ok_iff`). What is registered once is registered from then on, and nothing
else is that is not a word of the new lines (`isUnregistered_extend`).
-/

namespace OpScaffold

open Text

variable {path : Text} {v : Variant} {parts parts' : List Part} {host host' : HostFile}
  {f : Entry → List Text} {token : Text}

namespace ExtensionPoint

variable {p q : ExtensionPoint} {snippet : List Text}

theorem mem_words_indented (hne : token ≠ []) (l : Text) :
    token ∈ (p.indented l).words ↔ token ∈ l.words := by
  unfold indented
  split
  · next h => rw [List.isEmpty_iff.1 h]
  · refine mem_words_append_left (fun c hc => ?_) hne
    rcases HostFile.isIndent _ c hc with rfl | rfl <;> decide

theorem hasToken_iff (hword : ∀ c ∈ token, isAsciiWord c = true) :
    p.hasToken token = true ↔ ∃ line ∈ p.block, token ∈ line.words := by
  rw [hasToken, List.any_eq_true]
  exact exists_congr fun line => and_congr_right fun _ => occurs_word_iff hword

/-- The words of an extended point are those of the point and those of the new lines. -/
theorem hasToken_append (hne : token ≠ []) (hword : ∀ c ∈ token, isAsciiWord c = true) :
    (p.append snippet).hasToken token = true ↔
      p.hasToken token = true ∨ ∃ l ∈ snippet, token ∈ l.words := by
  have hends := EndsDoNotCount.mem_words hne
  have hmap := (List.cons.inj (map_lines_append hends p snippet)).2
  have hmem (lines : List Text) : (∃ line ∈ lines, token ∈ line.words) ↔
      True ∈ lines.map fun line => token ∈ line.words := by
    simp only [List.mem_map, eq_iff_iff, iff_true]
  rw [hasToken_iff hword, hasToken_iff hword, hmem, hmem, hmem, hmap]
  refine List.mem_append.trans (or_congr_right ?_)
  rw [map_newLines hends]
  simp only [mem_words_indented hne]

end ExtensionPoint

namespace HostFile

/-- Whether no point of some parts has one of the spellings of a variant. -/
def IsUnregistered (v : Variant) (parts : List Part) : Prop :=
  ∀ p, .point p ∈ parts → p.hasToken v.name = false ∧ p.hasToken v.upper = false

theorem registerAt_eq_ok_iff {p q : ExtensionPoint} {snippet : List Text}
    (hr : p.entry.render v = .ok snippet) :
    registerAt path v p = .ok q ↔
      (p.hasToken v.name = false ∧ p.hasToken v.upper = false) ∧ q = p.append snippet := by
  unfold registerAt
  rw [hr]
  split
  · next h => simp [h]
  · next hname =>
    split
    · next h => simp [h]
    · next hupper => simp [hname, hupper, eq_comm]

theorem isUnregistered_line {line : Text} :
    IsUnregistered v (.line line :: parts) ↔ IsUnregistered v parts := by
  simp [IsUnregistered]

theorem isUnregistered_point {p : ExtensionPoint} :
    IsUnregistered v (.point p :: parts) ↔
      (p.hasToken v.name = false ∧ p.hasToken v.upper = false) ∧ IsUnregistered v parts := by
  simp [IsUnregistered]

/-- Registering a variant in parts extends their points. -/
theorem registerParts_eq_ok_iff
    (hr : ∀ p, .point p ∈ parts → p.entry.render v = .ok (f p.entry)) :
    registerParts path v parts = .ok parts' ↔
      IsUnregistered v parts ∧ parts' = parts.map (extendPart f) := by
  induction parts generalizing parts' with
  | nil =>
    rw [registerParts, Except.ok.injEq, List.map_nil, eq_comm]
    exact (and_iff_right fun p hp => by cases hp).symm
  | cons part rest ih =>
    have hrest {parts' : List Part} : registerParts path v rest = .ok parts' ↔
        IsUnregistered v rest ∧ parts' = rest.map (extendPart f) :=
      ih fun p hp => hr p (by simp [hp])
    cases part with
    | line t =>
      rw [isUnregistered_line, List.map_cons]
      constructor
      · intro h
        obtain ⟨parts₁, hreg, rfl⟩ := registerParts_cons_line h
        obtain ⟨hun, rfl⟩ := hrest.1 hreg
        exact ⟨hun, rfl⟩
      · rintro ⟨hun, rfl⟩
        rw [registerParts, hrest.2 ⟨hun, rfl⟩]
        rfl
    | point p =>
      have hat {q : ExtensionPoint} : registerAt path v p = .ok q ↔
          (p.hasToken v.name = false ∧ p.hasToken v.upper = false) ∧
            q = p.append (f p.entry) := registerAt_eq_ok_iff (hr p (by simp))
      rw [isUnregistered_point, List.map_cons]
      constructor
      · intro h
        obtain ⟨q, parts₁, hq, hreg, rfl⟩ := registerParts_cons_point h
        obtain ⟨hp, rfl⟩ := hat.1 hq
        obtain ⟨hun, rfl⟩ := hrest.1 hreg
        exact ⟨⟨hp, hun⟩, rfl⟩
      · rintro ⟨⟨hp, hun⟩, rfl⟩
        rw [registerParts, hat.2 ⟨hp, rfl⟩, hrest.2 ⟨hun, rfl⟩]
        rfl

/-- **Registration.** A variant is registered in a host file just where no point has one of its
spellings, by extending all points. -/
theorem register_eq_ok_iff
    (hr : ∀ p, .point p ∈ host.parts → p.entry.render v = .ok (f p.entry)) :
    host.register v = .ok host' ↔ IsUnregistered v host.parts ∧ host' = host.extend f := by
  unfold register
  cases h : registerParts host.path v host.parts with
  | error e =>
    refine iff_of_false (by simp [Except.map]) fun ⟨hun, _⟩ => ?_
    rw [(registerParts_eq_ok_iff hr).2 ⟨hun, rfl⟩] at h
    cases h
  | ok parts =>
    obtain ⟨hun, rfl⟩ := (registerParts_eq_ok_iff hr).1 h
    simp [Except.map, hun, extend, eq_comm]

/-- Where the new lines do not have the spellings of a variant, extending a host file does not
register it. -/
theorem isUnregistered_extend
    (hname : v.name ≠ [] ∧ ∀ c ∈ v.name, isAsciiWord c = true)
    (hupper : v.upper ≠ [] ∧ ∀ c ∈ v.upper, isAsciiWord c = true)
    (hnew : ∀ p, .point p ∈ parts → ∀ l ∈ f p.entry, v.name ∉ l.words ∧ v.upper ∉ l.words) :
    IsUnregistered v (parts.map (extendPart f)) ↔ IsUnregistered v parts := by
  have htoken {p : ExtensionPoint} {token : Text}
      (h : token ≠ [] ∧ ∀ c ∈ token, isAsciiWord c = true) (hf : ∀ l ∈ f p.entry, token ∉ l.words) :
      (p.append (f p.entry)).hasToken token = p.hasToken token := by
    rw [Bool.eq_iff_iff, ExtensionPoint.hasToken_append h.1 h.2]
    exact or_iff_left fun ⟨l, hl, hm⟩ => hf l hl hm
  induction parts with
  | nil => rfl
  | cons part rest ih =>
    have hrest : IsUnregistered v (rest.map (extendPart f)) ↔ IsUnregistered v rest :=
      ih fun p hp => hnew p (by simp [hp])
    cases part with
    | line t => rw [List.map_cons, extendPart, isUnregistered_line, isUnregistered_line, hrest]
    | point p =>
      rw [List.map_cons, extendPart, isUnregistered_point, isUnregistered_point, hrest,
        htoken hname fun l hl => (hnew p (by simp) l hl).1,
        htoken hupper fun l hl => (hnew p (by simp) l hl).2]

end HostFile

end OpScaffold
