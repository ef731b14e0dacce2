import OpScaffold.HostFile.Basic
import OpScaffold.Proofs.Text.Lines

/-!
# OpScaffold.Proofs.HostFile.Append

Appending to an extension point twice is appending once (`append_append`): the point closes at most
its own last line, and what was appended keeps the last line as it is, open or terminated.
-/

namespace OpScaffold.ExtensionPoint

open OpScaffold.Text

variable {p q : ExtensionPoint} {snippet a b : List Text} {line anchorLine : Text}

/-! ## Newline sequences -/

theorem isTerminated_append_newlineOf (line anchorLine : Text) :
    isTerminated (line ++ newlineOf anchorLine) = true := by
  rw [isTerminated_iff]
  rcases newlineOf_cases anchorLine with h | h | h <;> simp [h]

theorem newlineOf_of_not_isTerminated (h : isTerminated line = false) : newlineOf line = ['\n'] := by
  rw [newlineOf, h, if_neg Bool.false_ne_true]

/-- A line that is closed keeps its newline sequence. -/
theorem newlineOf_append_newlineOf (h : isTerminated line = false) :
    newlineOf (line ++ newlineOf line) = newlineOf line := by
  rw [newlineOf, isTerminated_append_newlineOf, if_pos rfl, newlineOf_of_not_isTerminated h]
  refine terminator_append_newline fun hlast => ?_
  rw [Bool.eq_false_iff, ne_eq, isTerminated_iff] at h
  exact h ⟨_, hlast, .inr rfl⟩

/-- A line that is closed keeps its indentation. -/
theorem indent_append_newlineOf (h : isTerminated line = false) :
    (line ++ newlineOf line).indent = line.indent :=
  indent_append (by rw [newlineOf_of_not_isTerminated h]; rfl) line

/-! ## New lines -/

/-- Only an empty list of lines is rejected. -/
theorem rejects_eq_false (p : ExtensionPoint) (h : snippet ≠ []) : p.rejects snippet = false := by
  rw [rejects, List.isEmpty_eq_false_iff.2 h, Bool.and_false]

theorem newLines_append (p : ExtensionPoint) (isLast : Bool) (hb : b ≠ []) :
    p.newLines isLast (a ++ b) = p.newLines false a ++ p.newLines isLast b := by
  induction a with
  | nil => rfl
  | cons line rest ih =>
    obtain ⟨next, more, hnext⟩ := List.exists_cons_of_ne_nil
      (List.append_ne_nil_of_right_ne_nil rest hb)
    rw [newLines_false] at ih ⊢
    rw [List.cons_append, hnext, newLines, ← hnext, ih]
    · rfl
    · simp

/-- New lines of which the last one is open. -/
theorem newLines_true_concat (p : ExtensionPoint) (a : List Text) (line : Text) :
    p.newLines true (a ++ [line]) = p.newLines false a ++ [p.indented line] := by
  rw [newLines_append p true (List.cons_ne_nil _ _), newLines, if_pos rfl, List.append_nil]

/-- New lines depend on the indentation and the newline sequence alone. -/
theorem newLines_congr (hi : q.indent = p.indent) (hn : q.newline = p.newline) :
    q.newLines = p.newLines := by
  have hind : q.indented = p.indented := by funext line; rw [indented, hi, indented]
  funext isLast snippet
  rcases List.eq_nil_or_concat snippet with rfl | ⟨front, last, rfl⟩
  · rfl
  · rw [List.concat_eq_append, newLines_append q _ (List.cons_ne_nil _ _),
      newLines_append p _ (List.cons_ne_nil _ _), newLines_false, newLines_false, newLines, newLines,
      hind, hn]

theorem isTerminated_indented (hr : '\r' ∉ line) (hn : '\n' ∉ line) :
    isTerminated (p.indented line) = false := by
  have hindent : ∀ c ∈ p.indent, c = ' ' ∨ c = '\t' := fun c hc => by
    simpa using List.mem_takeWhile_imp hc
  rw [Bool.eq_false_iff, ne_eq, isTerminated_iff]
  rintro ⟨c, hc, hor⟩
  have hmem := List.mem_of_getLast? hc
  unfold indented at hmem
  split at hmem
  · cases hmem
  · rcases List.mem_append.1 hmem with hm | hm
    · rcases hindent c hm with rfl | rfl <;> simp at hor
    · rcases hor with rfl | rfl
      · exact hn hm
      · exact hr hm

/-! ## Snippets -/

/-- Lines that can be appended as they are: there is one, and none has a newline character. -/
structure IsSnippet (snippet : List Text) : Prop where
  ne_nil : snippet ≠ []
  plain : ∀ line ∈ snippet, '\r' ∉ line ∧ '\n' ∉ line

instance : DecidablePred IsSnippet := fun snippet =>
  decidable_of_iff (snippet ≠ [] ∧ ∀ line ∈ snippet, '\r' ∉ line ∧ '\n' ∉ line)
    ⟨fun h => ⟨h.1, h.2⟩, fun h => ⟨h.ne_nil, h.plain⟩⟩

/-- The lines of some snippets are a snippet. -/
theorem IsSnippet.flatten {snippets : List (List Text)} (hne : snippets ≠ [])
    (h : ∀ s ∈ snippets, IsSnippet s) : IsSnippet snippets.flatten where
  ne_nil hnil := by
    obtain ⟨s, hs⟩ := List.exists_mem_of_ne_nil snippets hne
    exact (h s hs).ne_nil (List.flatten_eq_nil_iff.1 hnil s hs)
  plain line hline := by
    obtain ⟨s, hs, hmem⟩ := List.mem_flatten.1 hline
    exact (h s hs).plain line hmem

/-! ## Appending -/

theorem lastLine_of_block (h : p.block = a ++ [line]) : p.lastLine = line := by
  rw [lastLine, h, List.getLastD_concat]

theorem append_of_not_isOpen (h : p.isOpen = false) (snippet : List Text) :
    p.append snippet = { p with block := p.block ++ p.newLines false snippet } := by
  rw [append, h, if_neg Bool.false_ne_true]

theorem append_of_isOpen (h : p.isOpen = true) (snippet : List Text) :
    p.append snippet = { p.close with block := p.close.block ++ p.newLines true snippet } := by
  rw [append, h, if_pos rfl]

theorem close_of_block (h : p.block = a ++ [line]) :
    p.close = { p with block := a ++ [line ++ p.newline] } := by
  rw [close, h, List.getLast?_concat, List.dropLast_concat]

/-- A point that is closed keeps what new lines depend on. -/
theorem newLines_close (h : p.isOpen = true) :
    p.close.indent = p.indent ∧ p.close.newline = p.newline := by
  rcases List.eq_nil_or_concat p.block with hb | ⟨front, last, hb⟩
  · have hline : isTerminated p.anchorLine = false := by
      simpa [isOpen, lastLine, hb] using h
    rw [close, hb]
    exact ⟨indent_append_newlineOf hline, newlineOf_append_newlineOf hline⟩
  · rw [List.concat_eq_append] at hb
    rw [close_of_block hb]
    exact ⟨rfl, rfl⟩

/-- New lines leave the indentation and the newline sequence of a point as they are. -/
theorem layout_append (p : ExtensionPoint) (snippet : List Text) :
    (p.append snippet).indent = p.indent ∧ (p.append snippet).newline = p.newline := by
  cases h : p.isOpen with
  | false => rw [append_of_not_isOpen h]; exact ⟨rfl, rfl⟩
  | true => rw [append_of_isOpen h]; exact newLines_close h

/-- Further lines look the same behind lines that were appended. -/
theorem newLines_of_append (p : ExtensionPoint) (snippet : List Text) :
    (p.append snippet).newLines = p.newLines :=
  newLines_congr (p.layout_append snippet).1 (p.layout_append snippet).2

/-- Lines that are appended leave the end of the point open or terminated, as it was. -/
theorem isOpen_append (ha : IsSnippet a) : (p.append a).isOpen = p.isOpen := by
  rcases List.eq_nil_or_concat a with rfl | ⟨front, last, rfl⟩
  · exact absurd rfl ha.ne_nil
  rw [List.concat_eq_append] at ha ⊢
  cases h : p.isOpen with
  | false =>
    rw [append_of_not_isOpen h, newLines_append p _ (List.cons_ne_nil _ _), newLines,
      ← List.append_assoc, isOpen, lastLine_of_block rfl, if_neg Bool.false_ne_true]
    exact congrArg (!·) (isTerminated_append_newlineOf _ _)
  | true =>
    obtain ⟨hr, hn⟩ := ha.plain last (by simp)
    rw [append_of_isOpen h, newLines_true_concat, ← List.append_assoc, isOpen, lastLine_of_block rfl,
      isTerminated_indented hr hn]
    rfl

/-- Appending twice is appending once. -/
theorem append_append (ha : IsSnippet a) (hb : b ≠ []) :
    (p.append a).append b = p.append (a ++ b) := by
  have hopen := isOpen_append (p := p) ha
  cases h : p.isOpen with
  | false =>
    rw [h] at hopen
    rw [append_of_not_isOpen hopen, newLines_of_append, append_of_not_isOpen h,
      append_of_not_isOpen h, newLines_append p _ hb, List.append_assoc]
  | true =>
    rw [h] at hopen
    rcases List.eq_nil_or_concat a with rfl | ⟨front, last, rfl⟩
    · exact absurd rfl ha.ne_nil
    rw [List.concat_eq_append] at hopen ⊢
    have hnewline := (p.layout_append (front ++ [last])).2
    have hblock : (p.append (front ++ [last])).block =
        (p.close.block ++ p.newLines false front) ++ [p.indented last] := by
      rw [append_of_isOpen h, newLines_true_concat, List.append_assoc]
    rw [append_of_isOpen hopen, newLines_of_append, close_of_block hblock, hnewline,
      append_of_isOpen h, append_of_isOpen h, newLines_append p true hb,
      newLines_append p false (List.cons_ne_nil _ _), newLines, if_neg Bool.false_ne_true]
    simp

end OpScaffold.ExtensionPoint
