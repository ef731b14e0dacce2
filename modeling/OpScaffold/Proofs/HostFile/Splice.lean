import Mathlib.Logic.Function.Basic
import OpScaffold.Proofs.HostFile.Anchors

/-!
# OpScaffold.Proofs.HostFile.Splice

Registering a variant in a host file adds one text behind the last line of each block and nothing
else (`splice_of_register`). Behind which line a text is added, and which text, is told by the
lines of the original alone (`IsPoint`, `addition`).
-/

namespace OpScaffold.HostFile

variable {path : Text} {lines : List Text} {e e' : Entry} {anchors : AnchorLines} {v : Variant}
  {i last : Nat} {added : Nat → Text}

/-! ## Texts between lines -/

/-- Lines, of which the first has the number `i`, with a text behind each. -/
def weave (added : Nat → Text) (i : Nat) (lines : List Text) : Text :=
  (lines.zipIdx i).flatMap fun x => x.1 ++ added x.2

@[simp] theorem weave_nil (added : Nat → Text) (i : Nat) : weave added i [] = [] := rfl

@[simp] theorem weave_cons (added : Nat → Text) (i : Nat) (line : Text) (rest : List Text) :
    weave added i (line :: rest) = line ++ added i ++ weave added (i + 1) rest := by
  simp [weave, List.zipIdx_cons]

theorem weave_append (added : Nat → Text) (i : Nat) (lines more : List Text) :
    weave added i (lines ++ more) = weave added i lines ++ weave added (i + lines.length) more := by
  simp [weave, List.zipIdx_append]

/-- Only what is added behind these lines counts. -/
theorem weave_congr {added' : Nat → Text} (h : ∀ k, i ≤ k → added k = added' k) :
    weave added i lines = weave added' i lines := by
  induction lines generalizing i with
  | nil => rfl
  | cons line rest ih =>
    rw [weave_cons, weave_cons, h i (Nat.le_refl i), ih fun k hk => h k (by omega)]

/-- Where nothing is added the lines make up the text. -/
theorem weave_of_eq_nil (h : ∀ k, i ≤ k → k < i + lines.length → added k = []) :
    weave added i lines = lines.flatten := by
  induction lines generalizing i with
  | nil => rfl
  | cons line rest ih =>
    rw [List.length_cons] at h
    rw [weave_cons, h i (Nat.le_refl i) (by omega), List.append_nil, List.flatten_cons,
      ih fun k hk hlt => h k (by omega) (by omega)]

/-- Something is added behind the last of some lines only. -/
theorem weave_of_last {line : Text} {block : List Text}
    (h : ∀ k, i ≤ k → k < i + block.length → added k = []) :
    weave added i (line :: block) = line ++ block.flatten ++ added (i + block.length) := by
  rcases List.eq_nil_or_concat block with rfl | ⟨front, last, rfl⟩
  · simp
  · rw [List.concat_eq_append, List.length_append, List.length_singleton] at h ⊢
    rw [← List.cons_append, weave_append, weave_of_eq_nil fun k hk hlt => h k hk (by
      rw [List.length_cons] at hlt; omega)]
    simp [Nat.add_assoc]

/-- What is added behind a block stands between the block and the lines that follow. -/
theorem weave_update {line text : Text} {block rest : List Text}
    (h : ∀ k < i + block.length, added k = []) :
    weave (Function.update added (i + block.length) text) i (line :: block ++ rest) =
      line ++ block.flatten ++ text ++ weave added (i + block.length + 1) rest := by
  have hrest : weave (Function.update added (i + block.length) text)
      (i + (line :: block).length) rest = weave added (i + (line :: block).length) rest :=
    weave_congr fun k hk => Function.update_of_ne (by rw [List.length_cons] at hk; omega) ..
  rw [weave_append, hrest, weave_of_last, Function.update_self]
  · rfl
  · intro k _ hlt
    rw [Function.update_of_ne (by omega), h k hlt]

/-! ## The points of a host file -/

/-- What is added behind the last line of the block of an anchor line: the new lines with the
indentation and the newline sequence of the anchor line. Behind an open line each of them comes
with its newline sequence before it instead of behind it. -/
def addition (anchorLine lastLine : Text) (snippet : List Text) : Text :=
  let newline := ExtensionPoint.newlineOf anchorLine
  let new := snippet.map fun line => if line.isEmpty then [] else anchorLine.indent ++ line
  if lastLine.isTerminated then new.flatMap (· ++ newline) else new.flatMap (newline ++ ·)

/-- Whether the block behind anchor line number `i` of an entry ends at line number `last`. -/
def EndsAt (lines : List Text) (e : Entry) (i last : Nat) : Prop :=
  ∃ stop, e.stop? = .ok stop ∧
    last = i + (Block.take (lines.getD i []) stop (lines.drop (i + 1))).length

theorem EndsAt.le (h : EndsAt lines e i last) : i ≤ last := by
  obtain ⟨_, -, rfl⟩ := h
  omega

theorem EndsAt.unique {last' : Nat} (h : EndsAt lines e i last) (h' : EndsAt lines e i last') :
    last = last' := by
  obtain ⟨stop, hs, rfl⟩ := h
  obtain ⟨stop', hs', rfl⟩ := h'
  rw [hs] at hs'
  cases hs'
  rfl

/-- An extension point of one of some entries: its anchor line and the last line of its block. -/
structure IsPoint (entries : List Entry) (lines : List Text) (e : Entry) (i last : Nat) : Prop where
  mem : e ∈ entries
  anchor : IsAnchor lines e i
  ends : EndsAt lines e i last

/-- A variant is registered in lines by adding `added` behind them: each entry has its points, as
many as it expects; the points end at different lines; and behind each end, and nowhere else, the
lines of the entry are added. -/
structure Splice (entries : List Entry) (v : Variant) (lines : List Text) (added : Nat → Text) :
    Prop where
  expected : ∀ e ∈ entries, 0 < anchorCount lines e ∧ (anchorCount lines e : Int) = e.expected
  point : ∀ e ∈ entries, ∀ i, IsAnchor lines e i → ∃ last, IsPoint entries lines e i last
  apart : ∀ {e e' i i' last}, IsPoint entries lines e i last → IsPoint entries lines e' i' last →
    e = e' ∧ i = i'
  text : ∀ {e i last}, IsPoint entries lines e i last → ∃ snippet, e.render v = .ok snippet ∧
    added last = addition (lines.getD i []) (lines.getD last []) snippet
  nothing : ∀ k, added k ≠ [] → ∃ e i, IsPoint entries lines e i k

/-! ## One point -/

/-- The lines added at an open end each come with a newline sequence before them. -/
theorem flatten_newLines_true (p : ExtensionPoint) {snippet : List Text} (h : snippet ≠ []) :
    p.newline ++ (p.newLines true snippet).flatten =
      (snippet.map p.indented).flatMap (p.newline ++ ·) := by
  induction snippet with
  | nil => exact absurd rfl h
  | cons line rest ih =>
    cases rest with
    | nil => simp [ExtensionPoint.newLines]
    | cons next rest =>
      have hcons : p.newLines true (line :: next :: rest) =
          (p.indented line ++ p.newline) :: p.newLines true (next :: rest) := by
        rw [ExtensionPoint.newLines]
        simp
      rw [hcons, List.flatten_cons, List.append_assoc (p.indented line), ih (by simp)]
      simp

/-- Appending to a point adds to its text. -/
theorem text_append (p : ExtensionPoint) {snippet : List Text} (h : snippet ≠ []) :
    (p.append snippet).lines.flatten =
      p.lines.flatten ++ addition p.anchorLine p.lastLine snippet := by
  rw [ExtensionPoint.flatten_lines_append, List.append_assoc]
  congr 1
  have hind : (snippet.map fun line => if line.isEmpty then [] else p.anchorLine.indent ++ line) =
      snippet.map p.indented := rfl
  have hnl : ExtensionPoint.newlineOf p.anchorLine = p.newline := rfl
  unfold addition ExtensionPoint.isOpen
  rw [hind, hnl]
  dsimp only
  cases p.lastLine.isTerminated with
  | true =>
    simp [ExtensionPoint.newLines_false, List.flatMap_def, Function.comp_def]
  | false =>
    simpa using flatten_newLines_true p h

theorem registerAt_eq_ok {p q : ExtensionPoint} (h : registerAt path v p = .ok q) :
    ∃ snippet, p.entry.render v = .ok snippet ∧
      q.lines.flatten = p.lines.flatten ++ addition p.anchorLine p.lastLine snippet := by
  unfold registerAt at h
  split at h
  · cases h
  · split at h
    · cases h
    · split at h
      · cases h
      · next snippet hs => cases h; exact ⟨snippet, hs, text_append p (Entry.render_ne_nil hs)⟩

/-! ## All points -/

/-- A splice of the lines from number `i` on, seen from the anchor lines that were read: the blocks
of these lines end before the next anchor line. -/
structure SpliceFrom (anchors : AnchorLines) (v : Variant) (lines : List Text) (i : Nat)
    (added : Nat → Text) : Prop where
  before : ∀ k < i, added k = []
  point : ∀ j e, i ≤ j → anchors.lookup j = some e → ∃ last snippet, EndsAt lines e j last ∧
    e.render v = .ok snippet ∧
    added last = addition (lines.getD j []) (lines.getD last []) snippet
  apart : ∀ j j' e last, i ≤ j → j < j' → anchors.lookup j = some e →
    (anchors.lookup j').isSome → EndsAt lines e j last → last < j'
  nothing : ∀ k, added k ≠ [] →
    ∃ j e, i ≤ j ∧ anchors.lookup j = some e ∧ EndsAt lines e j k

namespace SpliceFrom

theorem nil (h : ∀ x ∈ anchors, x.1 < i) : SpliceFrom anchors v lines i fun _ => [] := by
  have hnone : ∀ j e, i ≤ j → anchors.lookup j ≠ some e := by
    intro j e hj hl
    obtain ⟨front, rest, heq, -⟩ := List.lookup_eq_some_iff.1 hl
    have hlt := h (j, e) (by simp [heq])
    dsimp only at hlt
    omega
  exact ⟨fun _ _ => rfl, fun j e hj hl => absurd hl (hnone j e hj),
    fun j _ e _ hj _ hl => absurd hl (hnone j e hj), fun _ hk => absurd rfl hk⟩

/-- A line that is no anchor adds nothing. -/
theorem line (hi : anchors.lookup i = none) (h : SpliceFrom anchors v lines (i + 1) added) :
    SpliceFrom anchors v lines i added where
  before k hk := h.before k (by omega)
  point j e hj hl := h.point j e (Nat.lt_of_le_of_ne hj fun hij => by simp [hij ▸ hi] at hl) hl
  apart j j' e last hj hlt hl := h.apart j j' e last
    (Nat.lt_of_le_of_ne hj fun hij => by simp [hij ▸ hi] at hl) hlt hl
  nothing k hk := by
    obtain ⟨j, e, hj, hl⟩ := h.nothing k hk
    exact ⟨j, e, by omega, hl⟩

/-- A point adds its lines behind its block, in which no other anchor line stands. -/
theorem insert {snippet : List Text} (hi : anchors.lookup i = some e) (hlast : EndsAt lines e i last)
    (hnest : ∀ x ∈ anchors, ¬ (i < x.1 ∧ x.1 < last + 1)) (hs : e.render v = .ok snippet)
    (h : SpliceFrom anchors v lines (last + 1) added) :
    SpliceFrom anchors v lines i (Function.update added last
      (addition (lines.getD i []) (lines.getD last []) snippet)) := by
  have hle := hlast.le
  have hnext : ∀ j e', i < j → anchors.lookup j = some e' → last + 1 ≤ j := by
    intro j e' hij hl
    obtain ⟨front, rest, heq, -⟩ := List.lookup_eq_some_iff.1 hl
    have hn := hnest (j, e') (by simp [heq])
    dsimp only at hn
    omega
  refine ⟨fun k hk => ?_, fun j e' hj hl => ?_, fun j j' e' last' hj hlt hl hl' hends => ?_,
    fun k hk => ?_⟩
  · rw [Function.update_of_ne (by omega)]
    exact h.before k (by omega)
  · rcases Nat.eq_or_lt_of_le hj with rfl | hij
    · rw [hi] at hl
      cases hl
      exact ⟨last, snippet, hlast, hs, Function.update_self ..⟩
    · obtain ⟨last', snippet', hends, hs', ht⟩ := h.point j e' (hnext j e' hij hl) hl
      have hge := hends.le
      have hgt := hnext j e' hij hl
      exact ⟨last', snippet', hends, hs', by rw [Function.update_of_ne (by omega), ht]⟩
  · rcases Nat.eq_or_lt_of_le hj with rfl | hij
    · rw [hi] at hl
      cases hl
      rw [hends.unique hlast]
      obtain ⟨e'', he''⟩ := Option.isSome_iff_exists.1 hl'
      exact hnext j' e'' hlt he''
    · exact h.apart j j' e' last' (hnext j e' hij hl) hlt hl hl' hends
  · by_cases hkl : k = last
    · exact ⟨i, e, Nat.le_refl i, hi, hkl ▸ hlast⟩
    · rw [Function.update_of_ne hkl] at hk
      obtain ⟨j, e', hj, hl⟩ := h.nothing k hk
      exact ⟨j, e', by omega, hl⟩

end SpliceFrom

theorem registerParts_cons_line {parts parts' : List Part} {line : Text}
    (h : registerParts path v (.line line :: parts) = .ok parts') :
    ∃ rest, registerParts path v parts = .ok rest ∧ parts' = .line line :: rest := by
  rw [registerParts] at h
  split at h
  · cases h
  · next rest hr => cases h; exact ⟨rest, hr, rfl⟩

theorem registerParts_cons_point {parts parts' : List Part} {p : ExtensionPoint}
    (h : registerParts path v (.point p :: parts) = .ok parts') :
    ∃ q rest, registerAt path v p = .ok q ∧ registerParts path v parts = .ok rest ∧
      parts' = .point q :: rest := by
  rw [registerParts] at h
  split at h
  · cases h
  · next q hq =>
    split at h
    · cases h
    · next rest hr => cases h; exact ⟨q, rest, hq, hr, rfl⟩

/-- The last line of a block is where the block ends. -/
theorem getD_last {line : Text} {block rest : List Text} (h : lines.drop i = line :: block ++ rest) :
    lines.getD (i + block.length) [] = block.getLastD line := by
  have hget : lines[i + block.length]? = (line :: block ++ rest)[block.length]? := by
    rw [← h, List.getElem?_drop]
  rw [List.getD_eq_getElem?_getD, hget, List.getElem?_append_left (by simp)]
  rcases List.eq_nil_or_concat block with rfl | ⟨front, last, rfl⟩
  · rfl
  · simp

/-- Registering a variant in the parts of the lines from number `i` on splices them. -/
theorem spliceFrom_of_registerParts {whole : List Text} {parts parts' : List Part}
    (hL : whole.drop i = lines) (hA : ∀ x ∈ anchors, x.1 < whole.length)
    (h : assemble path anchors i lines = .ok parts)
    (hr : registerParts path v parts = .ok parts') :
    ∃ added, parts'.flatMap Part.text = weave added i lines ∧
      SpliceFrom anchors v whole i added := by
  fun_induction assemble path anchors i lines generalizing parts parts' with
  | case1 i =>
    cases h
    cases hr
    have hle : whole.length ≤ i := List.drop_eq_nil_iff.1 hL
    exact ⟨_, rfl, .nil fun x hx => Nat.lt_of_lt_of_le (hA x hx) hle⟩
  | case2 => cases h
  | case3 i line rest hi parts₁ hp ih =>
    cases h
    obtain ⟨rest', hr', rfl⟩ := registerParts_cons_line hr
    have hL' : whole.drop (i + 1) = rest := by rw [← List.drop_drop, hL]; rfl
    obtain ⟨added, htext, hs⟩ := ih hL' hp hr'
    refine ⟨added, ?_, .line hi hs⟩
    rw [List.flatMap_cons, htext, weave_cons, hs.before i (Nat.lt_succ_self i), List.append_nil]
    rfl
  | case4 => cases h
  | case5 => cases h
  | case6 => cases h
  | case7 i line rest entry hi stop hstop block hfind _ parts₁ hp =>
    rename_i ih
    cases h
    obtain ⟨q, rest', hq, hr', rfl⟩ := registerParts_cons_point hr
    obtain ⟨snippet, hsnippet, hqtext⟩ := registerAt_eq_ok hq
    have hrest : block ++ Block.drop line stop rest = rest := Block.take_append_drop line stop rest
    have hblock : whole.drop i = line :: block ++ Block.drop line stop rest := by
      rw [hL, List.cons_append, hrest]
    have hL' : whole.drop (i + 1) = rest := by rw [← List.drop_drop, hL]; rfl
    have hline : whole.getD i [] = line := by
      have hget : whole[i]? = (line :: rest)[0]? := by rw [← hL, List.getElem?_drop]; rfl
      rw [List.getD_eq_getElem?_getD, hget]
      rfl
    have hends : EndsAt whole entry i (i + block.length) :=
      ⟨stop, hstop, by rw [hline, hL']⟩
    have hdrop : whole.drop (i + 1 + block.length) = Block.drop line stop rest := by
      rw [← List.drop_drop, hL']
      calc rest.drop block.length
          = (block ++ Block.drop line stop rest).drop block.length := by rw [hrest]
        _ = Block.drop line stop rest := List.drop_left
    obtain ⟨added, htext, hs⟩ := ih hdrop hp hr'
    have hnext : i + 1 + block.length = i + block.length + 1 := by omega
    rw [hnext] at hs htext
    refine ⟨_, ?_, hs.insert hi hends ?_ hsnippet⟩
    · have hbefore : ∀ k < i + block.length, added k = [] := fun k hk => hs.before k (by omega)
      rw [hline, getD_last hblock, ← hrest, ← List.cons_append, weave_update hbefore,
        List.flatMap_cons, htext, Part.text, hqtext]
      rfl
    · intro x hx hin
      have hnone := List.find?_eq_none.1 hfind x hx
      simp only [Bool.and_eq_true, decide_eq_true_eq, not_and] at hnone
      have := hnone hin.1
      omega

/-- Registering a variant in a host file splices its lines. -/
theorem splice_of_register {text : Text} {entries : List Entry} {host host' : HostFile}
    (hp : parse path text entries = .ok host) (hr : host.register v = .ok host') :
    ∃ added, Splice entries v text.lines added ∧ host'.render = weave added 0 text.lines := by
  unfold parse at hp
  split at hp
  · cases hp
  next anchors hfind =>
  split at hp
  · cases hp
  next parts hparts =>
  cases hp
  unfold register at hr
  cases hreg : registerParts path v parts with
  | error e => rw [hreg] at hr; cases hr
  | ok parts' =>
    rw [hreg] at hr
    cases hr
    have hf := findAnchors_spec hfind
    have hlt : ∀ x ∈ anchors, x.1 < text.lines.length := fun x hx =>
      ((hf.mem_iff x.1 x.2).1 hx).2.lt
    obtain ⟨added, htext, hs⟩ := spliceFrom_of_registerParts rfl hlt hparts hreg
    refine ⟨added, ⟨hf.expected, fun e he i hi => ?_, ?_, ?_, fun k hk => ?_⟩, htext⟩
    · obtain ⟨last, -, hends, -⟩ := hs.point i e (Nat.zero_le i) (hf.lookup_eq_some.2 ⟨he, hi⟩)
      exact ⟨last, he, hi, hends⟩
    · intro e e' i i' last hpt hpt'
      have hl := hf.lookup_eq_some.2 ⟨hpt.mem, hpt.anchor⟩
      have hl' := hf.lookup_eq_some.2 ⟨hpt'.mem, hpt'.anchor⟩
      have hle := hpt.ends.le
      have hle' := hpt'.ends.le
      rcases Nat.lt_trichotomy i i' with hlt | rfl | hlt
      · have := hs.apart i i' e last (Nat.zero_le i) hlt hl (by rw [hl']; rfl) hpt.ends
        omega
      · exact ⟨hf.eq_of_isAnchor hpt.mem hpt'.mem hpt.anchor hpt'.anchor, rfl⟩
      · have := hs.apart i' i e' last (Nat.zero_le i') hlt hl' (by rw [hl]; rfl) hpt'.ends
        omega
    · intro e i last hpt
      obtain ⟨last', snippet, hends, hrender, ht⟩ :=
        hs.point i e (Nat.zero_le i) (hf.lookup_eq_some.2 ⟨hpt.mem, hpt.anchor⟩)
      rw [hends.unique hpt.ends] at ht
      exact ⟨snippet, hrender, ht⟩
    · obtain ⟨i, e, -, hl, hends⟩ := hs.nothing k hk
      obtain ⟨he, hi⟩ := hf.lookup_eq_some.1 hl
      exact ⟨e, i, he, hi, hends⟩

/-! ## Growth -/

theorem newlineOf_ne_nil (anchorLine : Text) : ExtensionPoint.newlineOf anchorLine ≠ [] := by
  rcases ExtensionPoint.newlineOf_cases anchorLine with h | h | h <;> simp [h]

theorem addition_ne_nil (anchorLine lastLine : Text) {snippet : List Text} (h : snippet ≠ []) :
    addition anchorLine lastLine snippet ≠ [] := by
  obtain ⟨line, rest, rfl⟩ := List.exists_cons_of_ne_nil h
  have hnl := newlineOf_ne_nil anchorLine
  unfold addition
  dsimp only
  split <;> simp [hnl]

theorem EndsAt.lt (h : EndsAt lines e i last) (hi : i < lines.length) : last < lines.length := by
  obtain ⟨stop, -, rfl⟩ := h
  have hle := (List.takeWhile_prefix (Block.continues (lines.getD i []).indent.length stop)
    (l := lines.drop (i + 1))).length_le
  rw [List.length_drop] at hle
  unfold Block.take
  omega

theorem length_le_weave (added : Nat → Text) (i : Nat) (lines : List Text) :
    lines.flatten.length ≤ (weave added i lines).length := by
  induction lines generalizing i with
  | nil => exact Nat.le_refl _
  | cons line rest ih =>
    have := ih (i + 1)
    simp only [List.flatten_cons, weave_cons, List.length_append]
    omega

theorem length_lt_weave {k : Nat} (hk : i ≤ k) (hlt : k < i + lines.length) (h : added k ≠ []) :
    lines.flatten.length < (weave added i lines).length := by
  induction lines generalizing i with
  | nil => simp at hlt; omega
  | cons line rest ih =>
    rw [List.length_cons] at hlt
    simp only [List.flatten_cons, weave_cons, List.length_append]
    rcases Nat.eq_or_lt_of_le hk with rfl | hik
    · have := length_le_weave added (i + 1) rest
      have := List.length_pos_iff.2 h
      omega
    · have hnext : i + 1 ≤ k := hik
      have := ih hnext (by omega)
      omega

/-- A splice makes its text longer. -/
theorem Splice.length_lt {entries : List Entry} (h : Splice entries v lines added)
    (he : e ∈ entries) : lines.flatten.length < (weave added 0 lines).length := by
  obtain ⟨line, hline, htrim⟩ := List.countP_pos_iff.1 (h.expected e he).1
  obtain ⟨i, hi, hget⟩ := List.getElem_of_mem hline
  obtain ⟨last, hpt⟩ := h.point e he i (by
    rw [IsAnchor, List.getElem?_eq_getElem hi, hget]
    simpa using htrim)
  obtain ⟨snippet, hs, ht⟩ := h.text hpt
  have hlast := hpt.ends.lt hi
  refine length_lt_weave (Nat.zero_le last) (by omega) ?_
  rw [ht]
  exact addition_ne_nil _ _ (Entry.render_ne_nil hs)

end OpScaffold.HostFile
