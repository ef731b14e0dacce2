import Mathlib.Data.List.Induction
import Mathlib.Data.List.Nodup
import OpScaffold.Proofs.HostFile.Anchors

/-!
# OpScaffold.Proofs.HostFile.Layout

Which texts are host files, and what their parts are, told without positions. The anchors of the
entries must differ and be found as often as they are expected (`Located`), and the lines must be
laid out as plain lines and points (`Layout`): a point is an anchor line with the longest block
behind it, and no anchor stands in a plain line or in a block. Reading accepts just these texts
(`parse_eq_ok_iff`).
-/

namespace OpScaffold

/-- The lines of a block are those that belong to it, up to the first that does not. -/
theorem Block.take_append {line : Text} {stop : Option Pattern} {block rest : List Text}
    (hblock : ∀ l ∈ block, Block.continues line.indent.length stop l = true)
    (hnext : ∀ l ∈ rest.head?, Block.continues line.indent.length stop l = false) :
    Block.take line stop (block ++ rest) = block ∧ Block.drop line stop (block ++ rest) = rest := by
  unfold Block.take Block.drop
  rw [List.takeWhile_append_of_pos hblock, List.dropWhile_append_of_pos hblock]
  cases rest with
  | nil => simp
  | cons l rest =>
    have hl := hnext l rfl
    rw [List.takeWhile_cons_of_neg (by simp [hl]), List.dropWhile_cons_of_neg (by simp [hl]),
      List.append_nil]
    exact ⟨rfl, rfl⟩

/-- The line behind a block does not belong to it. -/
theorem Block.continues_head?_drop {line l : Text} {stop : Option Pattern} {rest : List Text}
    (h : l ∈ (Block.drop line stop rest).head?) :
    Block.continues line.indent.length stop l = false := by
  unfold Block.drop at h
  have hhead := List.head?_dropWhile_not (Block.continues line.indent.length stop) rest
  rw [Option.mem_def.1 h] at hhead
  exact hhead

namespace HostFile

variable {path text : Text} {lines whole : List Text} {entries : List Entry} {e : Entry}
  {anchors : AnchorLines} {parts : List Part} {i : Nat}

/-! ## Which anchors are found -/

/-- The anchors of some entries differ, and each is found as often as it is expected. -/
structure Located (lines : List Text) (entries : List Entry) : Prop where
  expected : ∀ e ∈ entries, 0 < anchorCount lines e ∧ (anchorCount lines e : Int) = e.expected
  distinct : (entries.map (·.anchor)).Nodup

theorem nodup_hits (anchor : Text) (i : Nat) (lines : List Text) : (hits anchor i lines).Nodup := by
  induction lines generalizing i with
  | nil => exact .nil
  | cons line rest ih =>
    rw [hits]
    split
    · refine List.nodup_cons.2 ⟨fun hm => ?_, ih (i + 1)⟩
      obtain ⟨k, hk, -⟩ := mem_hits.1 hm
      omega
    · exact ih (i + 1)

theorem isSome_lookup_iff : (anchors.lookup i).isSome = true ↔ i ∈ anchors.map (·.1) := by
  rw [← not_iff_not, Bool.not_eq_true, Option.isSome_eq_false_iff, Option.isNone_iff_eq_none,
    List.lookup_eq_none_iff]
  constructor
  · intro h hm
    obtain ⟨x, hx, rfl⟩ := List.mem_map.1 hm
    simpa using h x hx
  · intro h x hx
    simpa using fun heq : i = x.1 => h (heq ▸ List.mem_map_of_mem hx)

/-- Lines can be added if none of them is there. -/
theorem exists_addLines_iff {found : List Nat} (hn : found.Nodup) :
    (∃ anchors', addLines path e anchors found = .ok anchors') ↔
      ∀ i ∈ found, i ∉ anchors.map (·.1) := by
  induction found generalizing anchors with
  | nil => simp [addLines]
  | cons i rest ih =>
    obtain ⟨hi, hrest⟩ := List.nodup_cons.1 hn
    rw [addLines]
    split
    · next h =>
      rw [isSome_lookup_iff] at h
      exact iff_of_false (by simp) fun hall => hall i (by simp) h
    · next h =>
      rw [isSome_lookup_iff] at h
      rw [ih hrest]
      constructor
      · intro hall j hj
        rcases List.mem_cons.1 hj with rfl | hj
        · exact h
        · exact fun hm => hall j hj (by simp [hm])
      · intro hall j hj hm
        rw [List.map_append, List.mem_append] at hm
        rcases hm with hm | hm
        · exact hall j (by simp [hj]) hm
        · obtain rfl : j = i := by simpa using hm
          exact hi hj

/-- An entry can be added if it is found as often as it is expected, and its anchor is new. -/
theorem exists_addEntry_iff (path : Text) (hf : Found lines entries anchors) :
    (∃ anchors', addEntry path lines anchors e = .ok anchors') ↔
      (0 < anchorCount lines e ∧ (anchorCount lines e : Int) = e.expected) ∧
        e.anchor ∉ entries.map (·.anchor) := by
  have hlength : (hits e.anchor 0 lines).length = anchorCount lines e := length_hits _ _ _
  have hnew : 0 < anchorCount lines e →
      ((∀ i ∈ hits e.anchor 0 lines, i ∉ anchors.map (·.1)) ↔
        e.anchor ∉ entries.map (·.anchor)) := by
    intro hpos
    constructor
    · intro hall hm
      obtain ⟨e', he', heq⟩ := List.mem_map.1 hm
      obtain ⟨i, hi⟩ := List.exists_mem_of_length_pos (hlength ▸ hpos)
      obtain ⟨k, hk, hline⟩ := mem_hits.1 hi
      obtain rfl : i = k := by omega
      refine hall i hi (List.mem_map.2 ⟨(i, e'), (hf.mem_iff i e').2 ⟨he', ?_⟩, rfl⟩)
      rw [IsAnchor, heq]
      exact hline
    · intro hnot i hi hm
      obtain ⟨⟨i', e'⟩, hmem, rfl⟩ := List.mem_map.1 hm
      obtain ⟨he', hanchor⟩ := (hf.mem_iff i' e').1 hmem
      obtain ⟨k, hk, hline⟩ := mem_hits.1 hi
      obtain rfl : i' = k := by dsimp only at hk; omega
      rw [IsAnchor, hline, Option.some.injEq] at hanchor
      exact hnot (List.mem_map.2 ⟨e', he', hanchor.symm⟩)
  unfold addEntry
  dsimp only
  split
  · next hnil =>
    rw [List.isEmpty_iff] at hnil
    rw [hnil, List.length_nil] at hlength
    exact iff_of_false (by simp) fun h => by omega
  · next hne =>
    have hpos : 0 < anchorCount lines e := by
      rw [← hlength]
      exact List.length_pos_iff.2 (by simpa using hne)
    split
    · next hexp =>
      rw [hlength] at hexp
      exact iff_of_false (by simp) fun h => hexp h.1.2
    · next hexp =>
      rw [hlength, Decidable.not_not] at hexp
      rw [exists_addLines_iff (nodup_hits _ _ _), hnew hpos]
      exact ⟨fun h => ⟨⟨hpos, hexp⟩, h⟩, fun h => h.2⟩

/-- The anchor lines of entries can be read just where all are located. -/
theorem exists_findAnchors_iff :
    (∃ anchors, findAnchors path lines entries = .ok anchors) ↔ Located lines entries := by
  induction entries using List.reverseRecOn with
  | nil => exact ⟨fun _ => ⟨by simp, by simp⟩, fun _ => ⟨[], rfl⟩⟩
  | append_singleton entries e ih =>
    have hconcat : findAnchors path lines (entries ++ [e]) =
        findAnchors path lines entries >>= fun anchors => addEntry path lines anchors e := by
      simp [findAnchors, List.foldlM_append]
    have hsplit : Located lines (entries ++ [e]) ↔ Located lines entries ∧
        (0 < anchorCount lines e ∧ (anchorCount lines e : Int) = e.expected) ∧
          e.anchor ∉ entries.map (·.anchor) := by
      have hnodup : ((entries ++ [e]).map (·.anchor)).Nodup ↔
          (entries.map (·.anchor)).Nodup ∧ e.anchor ∉ entries.map (·.anchor) := by
        rw [List.map_append, List.map_singleton, List.nodup_append]
        simp only [List.nodup_singleton, true_and, List.mem_singleton, forall_eq]
        exact and_congr_right fun _ => ⟨fun h hm => h _ hm rfl, fun h a ha hae => h (hae ▸ ha)⟩
      constructor
      · intro h
        obtain ⟨hd, hnew⟩ := hnodup.1 h.distinct
        exact ⟨⟨fun e' he' => h.expected e' (by simp [he']), hd⟩, h.expected e (by simp), hnew⟩
      · rintro ⟨h, hexp, hnew⟩
        refine ⟨fun e' he' => ?_, hnodup.2 ⟨h.distinct, hnew⟩⟩
        rcases List.mem_append.1 he' with he' | he'
        · exact h.expected e' he'
        · obtain rfl := List.mem_singleton.1 he'
          exact hexp
    rw [hconcat, hsplit, ← ih]
    cases hfound : findAnchors path lines entries with
    | error err =>
      refine iff_of_false ?_ (by simp)
      rintro ⟨_, h⟩
      cases h
    | ok anchors =>
      have hadd := exists_addEntry_iff (e := e) path (findAnchors_spec hfound)
      exact ⟨fun h => ⟨⟨anchors, rfl⟩, hadd.1 h⟩, fun h => hadd.2 h.2⟩

/-! ## Which parts the lines have -/

/-- How lines are laid out in parts. -/
inductive Layout (entries : List Entry) : List Text → List Part → Prop
  | nil : Layout entries [] []
  | line {line : Text} {rest : List Text} {parts : List Part}
      (hplain : ∀ e ∈ entries, line.trim ≠ e.anchor) (hrest : Layout entries rest parts) :
      Layout entries (line :: rest) (.line line :: parts)
  | point {e : Entry} {line : Text} {stop : Option Pattern} {block rest : List Text}
      {parts : List Part} (he : e ∈ entries) (hline : line.trim = e.anchor)
      (hstop : e.stop? = .ok stop)
      (hblock : ∀ l ∈ block, Block.continues line.indent.length stop l = true)
      (hnext : ∀ l ∈ rest.head?, Block.continues line.indent.length stop l = false)
      (hplain : ∀ l ∈ block, ∀ e ∈ entries, l.trim ≠ e.anchor)
      (hrest : Layout entries rest parts) :
      Layout entries (line :: (block ++ rest)) (.point ⟨e, line, block⟩ :: parts)

/-- Where a line stands in the whole. -/
theorem isAnchor_add {k : Nat} (hL : whole.drop i = lines) :
    IsAnchor whole e (i + k) ↔ lines[k]?.map Text.trim = some e.anchor := by
  rw [IsAnchor, ← hL, List.getElem?_drop]

/-- The parts that are read are those of the layout. -/
theorem layout_of_assemble (hf : Found whole entries anchors) (hL : whole.drop i = lines)
    (h : assemble path anchors i lines = .ok parts) : Layout entries lines parts := by
  fun_induction assemble path anchors i lines generalizing parts with
  | case1 => cases h; exact .nil
  | case2 => cases h
  | case3 i line rest hi parts₁ hp ih =>
    cases h
    refine .line (fun e he hline => ?_) (ih (by rw [← List.drop_drop, hL]; rfl) hp)
    have hanchor : IsAnchor whole e i := (isAnchor_add (k := 0) hL).2 (by simp [hline])
    rw [hf.lookup_eq_some.2 ⟨he, hanchor⟩] at hi
    cases hi
  | case4 => cases h
  | case5 => cases h
  | case6 => cases h
  | case7 i line rest entry hi stop hstop block hfind _ parts₁ hp =>
    rename_i ih
    cases h
    obtain ⟨he, hanchor⟩ := hf.lookup_eq_some.1 hi
    have hline : line.trim = entry.anchor := by simpa using (isAnchor_add (k := 0) hL).1 hanchor
    have hL' : whole.drop (i + 1) = rest := by rw [← List.drop_drop, hL]; rfl
    have hrest : block ++ Block.drop line stop rest = rest := Block.take_append_drop line stop rest
    have hdrop : whole.drop (i + 1 + block.length) = Block.drop line stop rest := by
      rw [← List.drop_drop, hL', ← hrest, List.drop_left, hrest]
    rw [← hrest]
    refine .point he hline hstop (fun l hl => Block.continues_of_mem_take hl)
      (fun l hl => Block.continues_head?_drop hl) (fun l hl e he hle => ?_) (ih hdrop hp)
    obtain ⟨k, hk, rfl⟩ := List.getElem_of_mem hl
    have hanchor' : IsAnchor whole e (i + 1 + k) := by
      rw [isAnchor_add hL', ← hrest, List.getElem?_append_left hk, List.getElem?_eq_getElem hk]
      simp [hle]
    have hnone := List.find?_eq_none.1 hfind _ ((hf.mem_iff _ e).2 ⟨he, hanchor'⟩)
    simp only [Bool.and_eq_true, decide_eq_true_eq, not_and] at hnone
    omega

/-- A layout can be read. -/
theorem assemble_of_layout (hf : Found whole entries anchors) (hL : whole.drop i = lines)
    (h : Layout entries lines parts) : assemble path anchors i lines = .ok parts := by
  induction h generalizing i with
  | nil => rw [assemble]
  | @line line rest parts hplain hrest ih =>
    have hnone : anchors.lookup i = none := by
      cases hl : anchors.lookup i with
      | none => rfl
      | some e =>
        obtain ⟨he, hanchor⟩ := hf.lookup_eq_some.1 hl
        exact absurd (by simpa using (isAnchor_add (k := 0) hL).1 hanchor) (hplain e he)
    rw [assemble, hnone, ih (by rw [← List.drop_drop, hL]; rfl)]
  | @point e line stop block rest parts he hline hstop hblock hnext hplain hrest ih =>
    have hL' : whole.drop (i + 1) = block ++ rest := by rw [← List.drop_drop, hL]; rfl
    have hlookup : anchors.lookup i = some e :=
      hf.lookup_eq_some.2 ⟨he, (isAnchor_add (k := 0) hL).2 (by simp [hline])⟩
    obtain ⟨htake, hdrop⟩ := Block.take_append hblock hnext
    -- within the block no other anchor is found
    have hnone {j : Nat} {e' : Entry} (hm : (j, e') ∈ anchors) :
        ¬ (i < j ∧ j < i + 1 + block.length) := by
      intro hj
      obtain ⟨he', hanchor⟩ := (hf.mem_iff j e').1 hm
      obtain ⟨k, rfl⟩ : ∃ k, j = i + 1 + k := ⟨j - (i + 1), by omega⟩
      have hk : k < block.length := by omega
      rw [isAnchor_add hL', List.getElem?_append_left hk, List.getElem?_eq_getElem hk] at hanchor
      exact hplain _ (List.getElem_mem hk) e' he' (by simpa using hanchor)
    have hparts := ih (i := i + 1 + block.length) (by rw [← List.drop_drop, hL', List.drop_left])
    rw [assemble, hlookup]
    dsimp only
    rw [hstop]
    dsimp only
    rw [htake, List.find?_eq_none.2 fun x hx hj => hnone hx (by simpa using hj)]
    dsimp only
    rw [hdrop, hparts]

/-- **Reading.** A text is a host file just where all anchors are located and its lines have a
layout, and its parts are those of the layout. -/
theorem parse_eq_ok_iff {host : HostFile} :
    parse path text entries = .ok host ↔
      Located text.lines entries ∧ host.path = path ∧ Layout entries text.lines host.parts := by
  unfold parse
  constructor
  · intro h
    cases hfound : findAnchors path text.lines entries with
    | error e => rw [hfound] at h; cases h
    | ok anchors =>
      rw [hfound] at h
      dsimp only at h
      cases hparts : assemble path anchors 0 text.lines with
      | error e => rw [hparts] at h; cases h
      | ok parts =>
        rw [hparts] at h
        cases h
        exact ⟨exists_findAnchors_iff.1 ⟨anchors, hfound⟩, rfl,
          layout_of_assemble (findAnchors_spec hfound) rfl hparts⟩
  · rintro ⟨hloc, rfl, hlayout⟩
    obtain ⟨anchors, hfound⟩ : ∃ anchors, findAnchors host.path text.lines entries = .ok anchors :=
      exists_findAnchors_iff.2 hloc
    rw [hfound]
    dsimp only
    rw [assemble_of_layout (i := 0) (findAnchors_spec hfound) List.drop_zero hlayout]

/-! ## Files with one point -/

/-- Where no anchor is found there are plain lines alone. -/
theorem Layout.eq_map_line (h : Layout [e] lines parts) (hn : anchorCount lines e = 0) :
    parts = lines.map .line := by
  induction h with
  | nil => rfl
  | @line line rest parts hplain _ ih =>
    rw [anchorCount, List.countP_cons_of_neg (by simpa using hplain e (by simp))] at hn
    rw [List.map_cons, ih hn]
  | point he hline =>
    obtain rfl := List.mem_singleton.1 he
    rw [anchorCount, List.countP_cons_of_pos (by simpa using hline)] at hn
    cases hn

/-- Where one anchor is found there is one point between plain lines. -/
theorem Layout.exists_point (h : Layout [e] lines parts) (hn : anchorCount lines e = 1) :
    ∃ (front : List Text) (p : ExtensionPoint) (back : List Text),
      parts = front.map .line ++ .point p :: back.map .line := by
  induction h with
  | nil => cases hn
  | @line line rest parts hplain _ ih =>
    rw [anchorCount, List.countP_cons_of_neg (by simpa using hplain e (by simp))] at hn
    obtain ⟨front, p, back, rfl⟩ := ih hn
    exact ⟨line :: front, p, back, rfl⟩
  | @point e' line stop block rest parts he hline _ _ _ hplain hlayout _ =>
    obtain rfl := List.mem_singleton.1 he
    have hblock : block.countP (fun l => decide (l.trim = e'.anchor)) = 0 :=
      List.countP_eq_zero.2 fun l hl => by simpa using hplain l hl e' (by simp)
    rw [anchorCount, List.countP_cons_of_pos (by simpa using hline), List.countP_append, hblock,
      Nat.zero_add, Nat.add_eq_right] at hn
    exact ⟨[], _, rest, by rw [hlayout.eq_map_line hn]; rfl⟩

end HostFile

end OpScaffold
