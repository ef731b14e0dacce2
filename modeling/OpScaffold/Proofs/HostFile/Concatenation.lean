import OpScaffold.Proofs.HostFile.Extension

/-!
# OpScaffold.Proofs.HostFile.Concatenation

Appending snippets to an extension point one after another. Every call leaves the end of the point
as it found it, open or terminated, so the next one finds there what the first one found, and a
sequence of calls does what one call does with all of the lines (`append_sequence`).
-/

namespace OpScaffold

open Text

/-! ## Lines without their ends -/

/-- A line without the newline characters at its end. -/
def Text.bare (line : Text) : Text := line.rdropWhile fun c => c = '\n' ∨ c = '\r'

theorem EndsDoNotCount.bare : EndsDoNotCount Text.bare := by
  intro line tail h
  unfold Text.bare List.rdropWhile
  rw [List.reverse_append, List.dropWhile_append_of_pos]
  intro c hc
  simpa using h c (List.mem_reverse.1 hc)

theorem bare_eq_self {line : Text} (h : isTerminated line = false) : bare line = line := by
  rw [bare, List.rdropWhile_eq_self_iff]
  intro hne hlast
  rw [Bool.eq_false_iff, ne_eq, isTerminated_iff] at h
  exact h ⟨line.getLast hne, List.getLast?_eq_some_getLast hne, by simpa using hlast⟩

/-! ## One call after another -/

namespace ExtensionPoint

variable {snippet : List Text} {snippets : List (List Text)}

/-- Save for their ends, the lines of a point stay as they are, and those of the snippet come behind
them. -/
theorem map_bare_append (p : ExtensionPoint) (h : IsSnippet snippet) :
    (p.append snippet).lines.map bare = p.lines.map bare ++ snippet.map p.indented := by
  rw [map_lines_append .bare, map_newLines .bare]
  refine congrArg (p.lines.map bare ++ ·) (List.map_congr_left fun line hline => ?_)
  obtain ⟨hr, hn⟩ := h.plain line hline
  exact bare_eq_self (isTerminated_indented hr hn)

/-- A sequence of calls does what one call does with all of the lines. -/
theorem foldl_append_flatten (p : ExtensionPoint) (hne : snippets ≠ [])
    (h : ∀ s ∈ snippets, IsSnippet s) : snippets.foldl append p = p.append snippets.flatten := by
  induction snippets generalizing p with
  | nil => exact absurd rfl hne
  | cons s rest ih =>
    by_cases hrest : rest = []
    · simp [hrest]
    · have hs := h s List.mem_cons_self
      have hmore := IsSnippet.flatten hrest fun s' hs' => h s' (List.mem_cons_of_mem s hs')
      rw [List.foldl_cons, ih _ hrest fun s' hs' => h s' (List.mem_cons_of_mem s hs'),
        append_append hs hmore.ne_nil, List.flatten_cons]

/-- **Appending composes.** Appending two snippets one after the other is appending the lines of
both at once. So a sequence of calls, none of which fails, leaves the end of a point open or
terminated as it was, and puts the lines of the snippets behind those of the point in the order of
the calls. -/
theorem append_sequence (p : ExtensionPoint) :
    (∀ a b, IsSnippet a → IsSnippet b → (p.append a).append b = p.append (a ++ b)) ∧
    ∀ snippets : List (List Text), (∀ s ∈ snippets, IsSnippet s) →
      let q := snippets.foldl append p
      (∀ earlier s later, snippets = earlier ++ s :: later →
        (earlier.foldl append p).rejects s = false) ∧
      q.isOpen = p.isOpen ∧
      q.lines.map bare = p.lines.map bare ++ snippets.flatten.map p.indented ∧
      (snippets ≠ [] → q = p.append snippets.flatten) := by
  refine ⟨fun a b ha hb => append_append ha hb.ne_nil, ?_⟩
  intro snippets h q
  have haccepted (earlier : List (List Text)) (s : List Text) (later : List (List Text))
      (heq : snippets = earlier ++ s :: later) : (earlier.foldl append p).rejects s = false :=
    rejects_eq_false _ (h s (by simp [heq])).ne_nil
  by_cases hne : snippets = []
  · obtain rfl := hne
    exact ⟨haccepted, rfl, by simp [q], fun hnil => absurd rfl hnil⟩
  · have hall := IsSnippet.flatten hne h
    have hq : q = p.append snippets.flatten := foldl_append_flatten p hne h
    refine ⟨haccepted, ?_, ?_, fun _ => hq⟩
    · rw [hq, isOpen_append hall]
    · rw [hq, map_bare_append p hall]

/-- Three calls at an anchor in the last line of a file, which has no end; two of the snippets end
in an empty line, and one begins with such a line. -/
theorem append_sequence_empty_lines :
    let entry : Entry :=
      { path := "a.rs".toList, anchor := "// list".toList, template := "\x7bname\x7d;".toList }
    let p : ExtensionPoint := ⟨entry, "\t// list".toList, []⟩
    let snippets := [["a;".toList, []], [[], "b;".toList], [[]]]
    let q := snippets.foldl append p
    (∀ s ∈ snippets, IsSnippet s) ∧ p.isOpen = true ∧
      (p.append ["a;".toList, []]).append [[], "b;".toList] =
        p.append ["a;".toList, [], [], "b;".toList] ∧
      q.isOpen = true ∧ q = p.append ["a;".toList, [], [], "b;".toList, []] ∧
      q.lines = ["\t// list\n".toList, "\ta;\n".toList, ['\n'], ['\n'], "\tb;\n".toList, []] := by
  intro entry p snippets q
  have hs : ∀ s ∈ snippets, IsSnippet s := by decide
  obtain ⟨htwo, hsequence⟩ := append_sequence p
  obtain ⟨-, hopen, -, hq⟩ := hsequence snippets hs
  have hq : q = p.append ["a;".toList, [], [], "b;".toList, []] := hq (by decide)
  refine ⟨hs, by decide, htwo _ _ (by decide) (by decide), hopen.trans (by decide), hq, ?_⟩
  rw [hq]
  decide

end ExtensionPoint

end OpScaffold
