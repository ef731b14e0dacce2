import OpScaffold.HostFile.Basic

/-!
# OpScaffold.Proofs.HostFile.Anchors

The anchor lines of a host file. Reading finds each line that is the anchor of an entry, as often
as the entry expects it and with that entry alone (`findAnchors_spec`).
-/

namespace OpScaffold.HostFile

variable {path : Text} {lines : List Text} {e : Entry} {anchors : AnchorLines}

/-- Whether line number `i` is the anchor of an entry. -/
def IsAnchor (lines : List Text) (e : Entry) (i : Nat) : Prop :=
  lines[i]?.map Text.trim = some e.anchor

/-- How many lines are the anchor of an entry. -/
def anchorCount (lines : List Text) (e : Entry) : Nat := lines.countP fun line => line.trim = e.anchor

theorem IsAnchor.lt {i : Nat} (h : IsAnchor lines e i) : i < lines.length := by
  obtain ⟨line, hl, -⟩ := Option.map_eq_some_iff.1 h
  exact (List.getElem?_eq_some_iff.1 hl).1

/-! ## Positions -/

theorem mem_hits {anchor : Text} {i j : Nat} :
    j ∈ hits anchor i lines ↔ ∃ k, j = i + k ∧ lines[k]?.map Text.trim = some anchor := by
  induction lines generalizing i with
  | nil => simp [hits]
  | cons line rest ih =>
    have hrest : j ∈ hits anchor (i + 1) rest ↔
        ∃ k, j = i + (k + 1) ∧ rest[k]?.map Text.trim = some anchor := by
      rw [ih]
      simp only [Nat.add_assoc, Nat.add_comm 1]
    have hsplit : (∃ k, j = i + k ∧ (line :: rest)[k]?.map Text.trim = some anchor) ↔
        (j = i ∧ line.trim = anchor) ∨
          ∃ k, j = i + (k + 1) ∧ rest[k]?.map Text.trim = some anchor := by
      constructor
      · rintro ⟨_ | k, hj, hk⟩
        · exact .inl ⟨hj, by simpa using hk⟩
        · exact .inr ⟨k, hj, by simpa using hk⟩
      · rintro (⟨hj, hk⟩ | ⟨k, hj, hk⟩)
        · exact ⟨0, hj, by simpa using hk⟩
        · exact ⟨k + 1, hj, by simpa using hk⟩
    rw [hsplit, ← hrest, hits]
    split
    · next h => simp [h]
    · next h => simp [h]

theorem length_hits (anchor : Text) (i : Nat) (lines : List Text) :
    (hits anchor i lines).length = lines.countP fun line => line.trim = anchor := by
  induction lines generalizing i with
  | nil => rfl
  | cons line rest ih =>
    rw [hits, List.countP_cons]
    split
    · next h => simp [ih, h]
    · next h => simp [ih, h]

/-! ## Entries -/

/-- Lines are added to those of other entries, whose lines they are not. -/
theorem addLines_eq_ok {found : List Nat} {anchors' : AnchorLines}
    (hn : (anchors.map (·.1)).Nodup) (h : addLines path e anchors found = .ok anchors') :
    anchors' = anchors ++ found.map (·, e) ∧ (anchors'.map (·.1)).Nodup := by
  induction found generalizing anchors with
  | nil => cases h; simpa using hn
  | cons i rest ih =>
    rw [addLines] at h
    split at h
    · cases h
    · next hi =>
      have hnew : i ∉ anchors.map (·.1) := by
        intro hm
        obtain ⟨x, hx, rfl⟩ := List.mem_map.1 hm
        rw [Bool.not_eq_true, Option.isSome_eq_false_iff, Option.isNone_iff_eq_none,
          List.lookup_eq_none_iff] at hi
        simpa using hi x hx
      have hn' : ((anchors ++ [(i, e)]).map (·.1)).Nodup := by
        rw [List.map_append, List.nodup_append]
        refine ⟨hn, by simp, fun a ha b hb => ?_⟩
        obtain rfl : b = i := by simpa using hb
        exact fun hab => hnew (hab ▸ ha)
      obtain ⟨rfl, hnd⟩ := ih hn' h
      exact ⟨by simp, hnd⟩

/-- Anchor lines of some entries: each is found as often as it is expected, and no line belongs to
two of them. -/
structure Found (lines : List Text) (entries : List Entry) (anchors : AnchorLines) : Prop where
  nodup : (anchors.map (·.1)).Nodup
  mem_iff : ∀ i e, (i, e) ∈ anchors ↔ e ∈ entries ∧ IsAnchor lines e i
  expected : ∀ e ∈ entries, 0 < anchorCount lines e ∧ (anchorCount lines e : Int) = e.expected

theorem Found.addEntry {entries : List Entry} {anchors' : AnchorLines}
    (hf : Found lines entries anchors) (h : addEntry path lines anchors e = .ok anchors') :
    Found lines (entries ++ [e]) anchors' := by
  unfold HostFile.addEntry at h
  dsimp only at h
  split at h
  · cases h
  · next hne =>
    split at h
    · cases h
    · next hexp =>
      obtain ⟨rfl, hnd⟩ := addLines_eq_ok hf.nodup h
      rw [length_hits] at hexp
      refine ⟨hnd, fun i e' => ?_, fun e' he' => ?_⟩
      · rw [List.mem_append, hf.mem_iff, List.mem_append, List.mem_singleton, List.mem_map]
        constructor
        · rintro (⟨he', hi⟩ | ⟨j, hj, heq⟩)
          · exact ⟨.inl he', hi⟩
          · cases heq
            obtain ⟨k, rfl, hk⟩ := mem_hits.1 hj
            exact ⟨.inr rfl, by simpa [IsAnchor] using hk⟩
        · rintro ⟨he' | rfl, hi⟩
          · exact .inl ⟨he', hi⟩
          · exact .inr ⟨i, mem_hits.2 ⟨i, by simp, hi⟩, rfl⟩
      · rcases List.mem_append.1 he' with he' | he'
        · exact hf.expected e' he'
        · obtain rfl := List.mem_singleton.1 he'
          refine ⟨?_, Decidable.not_not.1 hexp⟩
          rw [anchorCount, ← length_hits _ 0]
          exact List.length_pos_iff.2 (by simpa using hne)

/-- The anchor lines that are read are those of all entries. -/
theorem findAnchors_spec {entries : List Entry}
    (h : findAnchors path lines entries = .ok anchors) : Found lines entries anchors := by
  have hall : ∀ rest before start, Found lines before start →
      rest.foldlM (addEntry path lines) start = .ok anchors →
      Found lines (before ++ rest) anchors := by
    intro rest
    induction rest with
    | nil =>
      intro before start hf h
      cases h
      simpa using hf
    | cons e rest ih =>
      intro before start hf h
      rw [List.foldlM_cons] at h
      cases hadd : addEntry path lines start e with
      | error _ => rw [hadd] at h; cases h
      | ok next =>
        rw [hadd] at h
        have hnext := ih _ next (hf.addEntry hadd) h
        rwa [List.append_assoc] at hnext
  exact hall entries [] [] ⟨.nil, by simp, by simp⟩ h

/-- Each line is looked up with its entry. -/
theorem Found.lookup_eq_some {entries : List Entry} (hf : Found lines entries anchors) {i : Nat} :
    anchors.lookup i = some e ↔ e ∈ entries ∧ IsAnchor lines e i := by
  rw [← hf.mem_iff, List.lookup_eq_some_iff]
  constructor
  · rintro ⟨before, after, rfl, -⟩
    simp
  · intro hm
    obtain ⟨before, after, heq⟩ := List.append_of_mem hm
    refine ⟨before, after, heq, fun x hx => ?_⟩
    have hnd := hf.nodup
    rw [heq, List.map_append, List.map_cons] at hnd
    have hne := (List.nodup_append.1 hnd).2.2 x.1 (List.mem_map_of_mem hx) i List.mem_cons_self
    simpa using Ne.symm hne

/-- A line is the anchor of one entry. -/
theorem Found.eq_of_isAnchor {entries : List Entry} (hf : Found lines entries anchors) {i : Nat}
    {e' : Entry} (he : e ∈ entries) (he' : e' ∈ entries) (h : IsAnchor lines e i)
    (h' : IsAnchor lines e' i) : e = e' :=
  Option.some.inj ((hf.lookup_eq_some.2 ⟨he, h⟩).symm.trans (hf.lookup_eq_some.2 ⟨he', h'⟩))

end OpScaffold.HostFile
