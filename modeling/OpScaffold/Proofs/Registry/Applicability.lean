import OpScaffold.Proofs.HostFile.Extension
import OpScaffold.Proofs.Registry.Validation

/-!
# OpScaffold.Proofs.Registry.Applicability

Whether an entry can be applied in any text at all. Anchors are compared with lines that have lost
the white space at their ends and their breaks with it, so an anchor with white space at an end or
with a break in it is found nowhere, and the check of the registry lets it pass
(`accepted_anchor_found_nowhere`). All other entries that pass can be applied in a text that has
their anchor as often as they expect, on lines of its own with a blank line behind each
(`exists_applicable_text_iff`).
-/

namespace OpScaffold

open Text HostFile

variable {entries : List Entry} {e : Entry} {anchor : Text} {n : Nat}

namespace Registry

/-! ## Anchors that are found nowhere -/

/-- What is found is a line without white space at its ends, and without a break. -/
theorem anchor_of_parse {path text : Text} {host : HostFile}
    (h : parse path text entries = .ok host) (he : e ∈ entries) :
    e.anchor.trim = e.anchor ∧ Unbroken e.anchor := by
  obtain ⟨hloc, -⟩ := parse_eq_ok_iff.1 h
  obtain ⟨line, hline, htrim⟩ := List.countP_pos_iff.1 (hloc.expected e he).1
  have htrim : line.trim = e.anchor := by simpa using htrim
  rw [← htrim]
  exact ⟨trim_trim line, unbroken_trim hline⟩

/-! ## A text for the others -/

/-- The lines of a text that has an anchor `n` times, with a blank line behind each. -/
def anchorLines (anchor : Text) (n : Nat) : List Text :=
  (List.replicate n [anchor ++ ['\n'], ['\n']]).flatten

/-- The parts of these lines: points without a block, and blank lines between them. -/
def anchorParts (e : Entry) (n : Nat) : List Part :=
  (List.replicate n [.point ⟨e, e.anchor ++ ['\n'], []⟩, .line ['\n']]).flatten

theorem anchorLines_succ (anchor : Text) (n : Nat) :
    anchorLines anchor (n + 1) = (anchor ++ ['\n']) :: ['\n'] :: anchorLines anchor n := rfl

theorem trim_append_newline (t : Text) : (t ++ ['\n']).trim = t.trim :=
  trim_append_of_blank (List.forall_mem_singleton.2 (by decide)) t

theorem wellLined_anchorLines (h : Unbroken anchor) (n : Nat) :
    WellLined (anchorLines anchor n) := by
  induction n with
  | zero => exact .nil
  | succ n ih =>
    exact .cons ⟨anchor, _, h, .inl rfl, rfl⟩ (.cons ⟨[], _, by simp [Unbroken], .inl rfl, rfl⟩ ih)

theorem length_points_anchorParts (path : Text) (e : Entry) (n : Nat) :
    (points ⟨path, anchorParts e n⟩).length = n := by
  induction n with
  | zero => rfl
  | succ n ih => exact congrArg (· + 1) ih

variable (htrim : e.anchor.trim = e.anchor) (hblank : e.anchor.isBlankText = false)

include htrim hblank

theorem anchorCount_anchorLines (n : Nat) : anchorCount (anchorLines e.anchor n) e = n := by
  have hline : ¬ Text.trim ['\n'] = e.anchor := fun h => by rw [← h] at hblank; cases hblank
  induction n with
  | zero => rfl
  | succ n ih =>
    have hanchor : (e.anchor ++ ['\n']).trim = e.anchor := (trim_append_newline _).trans htrim
    unfold anchorCount at ih ⊢
    rw [anchorLines_succ, List.countP_cons_of_pos (by simpa using hanchor),
      List.countP_cons_of_neg (by simpa using hline), ih]

/-- Blank lines end the blocks, whatever the pattern of the entry. -/
theorem layout_anchorLines {stop : Option Pattern} (hstop : e.stop? = .ok stop) (n : Nat) :
    Layout [e] (anchorLines e.anchor n) (anchorParts e n) := by
  have hline : ¬ Text.trim ['\n'] = e.anchor := fun h => by rw [← h] at hblank; cases hblank
  induction n with
  | zero => exact .nil
  | succ n ih =>
    have hanchor : (e.anchor ++ ['\n']).trim = e.anchor := (trim_append_newline _).trans htrim
    have hrest : Layout [e] (['\n'] :: anchorLines e.anchor n) (.line ['\n'] :: anchorParts e n) :=
      .line (by simpa using hline) ih
    have hnext : ∀ l ∈ (['\n'] :: anchorLines e.anchor n).head?,
        Block.continues (e.anchor ++ ['\n']).indent.length stop l = false := by
      intro l hl
      cases hl
      rfl
    exact .point List.mem_cons_self hanchor hstop (List.forall_mem_nil _) hnext
      (List.forall_mem_nil _) hrest

/-- An anchor without white space at its ends and without a break is found as often as it is
expected. -/
theorem parse_anchorLines {stop : Option Pattern} (hun : Unbroken e.anchor)
    (hstop : e.stop? = .ok stop) (hn : 1 ≤ n) (hexpected : (n : Int) = e.expected) (path : Text) :
    parse path (anchorLines e.anchor n).flatten [e] = .ok ⟨path, anchorParts e n⟩ := by
  have hlines := (wellLined_anchorLines hun n).lines_flatten
  have hcount := anchorCount_anchorLines htrim hblank n
  rw [parse_eq_ok_iff, hlines]
  refine ⟨⟨fun e' he' => ?_, List.nodup_singleton _⟩, rfl, layout_anchorLines htrim hblank hstop n⟩
  rw [List.mem_singleton.1 he', hcount]
  exact ⟨hn, hexpected⟩

omit htrim hblank

/-! ## Which entries can be applied -/

/-- **Applicability.** An entry of a registry that is accepted can be applied in some text, with
as many points as it expects, just where its anchor has no white space at its ends and no line
break. -/
theorem exists_applicable_text_iff (h : validate entries = .ok ()) (he : e ∈ entries) :
    (∃ text host, parse e.path text [e] = .ok host ∧ (host.points.length : Int) = e.expected) ↔
      e.anchor.trim = e.anchor ∧ Unbroken e.anchor := by
  constructor
  · rintro ⟨text, host, hparse, -⟩
    exact anchor_of_parse hparse List.mem_cons_self
  · rintro ⟨htrim, hun⟩
    have hsound := sound_of_validate h he
    obtain ⟨stop, hstop⟩ := stop_of_validate h he
    obtain ⟨n, hn⟩ := Int.eq_ofNat_of_zero_le (Int.le_trans (by decide) hsound.expected)
    have hpos : 1 ≤ n := by have := hsound.expected; omega
    refine ⟨_, _, parse_anchorLines htrim hsound.anchor hun hstop hpos hn.symm e.path, ?_⟩
    rw [length_points_anchorParts, hn]

/-- An entry with a pattern that its own anchor matches, and that expects its anchor three times. -/
theorem exists_applicable_text_three :
    let e : Entry := ⟨"a.rs".toList, "// list".toList, "\x7bname\x7d;".toList, some "//.*".toList, 3⟩
    validate [e] = .ok () ∧
      ∃ text host, parse e.path text [e] = .ok host ∧ (host.points.length : Int) = 3 := by
  intro e
  have hvalid : validate [e] = .ok () := by decide +kernel
  exact ⟨hvalid, (exists_applicable_text_iff hvalid List.mem_cons_self).2 (by decide)⟩

/-- An entry that passes with white space before its anchor, which no line of any text can be. -/
theorem accepted_anchor_found_nowhere :
    let e : Entry := { path := "a.rs".toList, anchor := " // list".toList,
                       template := "\x7bname\x7d;".toList }
    validate [e] = .ok () ∧ ∀ text host, parse e.path text [e] ≠ .ok host := by
  intro e
  refine ⟨by decide +kernel, fun text host h => ?_⟩
  exact absurd (anchor_of_parse h List.mem_cons_self).1 (by decide)

end Registry

end OpScaffold
