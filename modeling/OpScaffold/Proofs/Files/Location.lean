import OpScaffold.Proofs.Files.View

/-!
# OpScaffold.Proofs.Files.Location

A path leads to one location, whatever stands on the way (`locate`): following its names either
arrives there or fails (`eq_of_follow`). So each change of a tree that succeeds is a change at the
locations of its paths:

* `makeDirectory_eq_ok` — a directory is put where nothing stood;
* `write_eq_ok` — a file is put where no directory stood;
* `unlink_eq_ok` — a file is taken away;
* `replace_eq_ok` — a file is taken away and put where no directory stood.

What a path reaches it still reaches when directories are added (`Extends`), so a question that was
answered once keeps its answer while files come and go elsewhere.
-/

namespace OpScaffold

/-- A relative path without pairs of points. -/
structure Path.IsPlain (p : Path) : Prop where
  origin : p.origin = .here
  parts : FileTree.above ∉ p.parts

instance (p : Path) : Decidable p.IsPlain :=
  decidable_of_iff (p.origin = .here ∧ FileTree.above ∉ p.parts)
    ⟨fun h => ⟨h.1, h.2⟩, fun h => ⟨h.origin, h.parts⟩⟩

namespace Path

variable {p : Path} {text : Text}

theorem child_eq (h : (ofText text).origin = .here) :
    p.child text = { p with parts := p.parts ++ (ofText text).parts } := by
  rw [child, join, if_pos h]

theorem name?_child {name : Text} (h : (ofText text).origin = .here)
    (hname : (ofText text).name? = some name) : (p.child text).name? = some name := by
  obtain ⟨names, hparts⟩ := List.getLast?_eq_some_iff.1 hname
  rw [child_eq h, Path.name?, hparts, ← List.append_assoc, List.getLast?_concat]

theorem pieces_of_not_mem {c : Char} (h : c ∉ text) : text.pieces c = [text] := by
  induction text with
  | nil => rfl
  | cons d rest ih =>
    rw [List.mem_cons, not_or] at h
    rw [Text.pieces, if_neg (Ne.symm h.1), ih h.2]

/-- A text without slashes is a path of one component. -/
theorem ofText_of_not_mem (h : '/' ∉ text) (hc : isComponent text = true) :
    ofText text = ⟨.here, [text]⟩ := by
  have horigin : originOf text = .here := by
    unfold originOf
    split <;> first | rfl | exact absurd List.mem_cons_self h
  rw [ofText, horigin, pieces_of_not_mem h, List.filter_cons_of_pos hc, List.filter_nil]

end Path

namespace FileTree

variable {t t' : FileTree} {l m : Location} {p q : Path}

/-! ## Following names -/

/-- Where one name leads. -/
def step (l : Location) (name : Text) : Location :=
  if name = above then l.dropLast else l ++ [name]

/-- The location to which a path leads if it leads anywhere. -/
def locate (t : FileTree) (p : Path) : Location := p.parts.foldl step (t.start p)

theorem eq_of_follow {names : List Text} (h : t.follow l names = .ok m) :
    m = names.foldl step l := by
  fun_induction follow t l names with
  | case1 l => cases h; rfl
  | case2 => cases h
  | case3 => cases h
  | case4 l rest hd ih => rw [ih h]; simp [step]
  | case5 => cases h
  | case6 l name rest hd hn hlong ih => rw [ih h]; simp [step, hn]

/-- The last name of a path leads out of a directory. -/
theorem follow_concat {names : List Text} {name : Text}
    (h : t.follow l (names ++ [name]) = .ok m) :
    ∃ k, t.follow l names = .ok k ∧ t.HasDirectory k ∧ m = step k name := by
  fun_induction follow t l names with
  | case1 l =>
    simp only [List.nil_append, follow] at h
    split at h
    · cases h
    · cases h
    · next hd =>
      refine ⟨l, rfl, hd, ?_⟩
      split at h
      · next ha => cases h; simp [step, ha]
      · next ha =>
        split at h
        · cases h
        · cases h; simp [step, ha]
  | case2 l name' rest hn => simp [follow, hn] at h
  | case3 l name' rest b hn => simp [follow, hn] at h
  | case4 l rest hd ih =>
    simp only [List.cons_append, follow, hd, if_true] at h
    exact ih h
  | case5 l name' rest hd ha hlong => simp [follow, hd, ha, hlong] at h
  | case6 l name' rest hd ha hlong ih =>
    simp only [List.cons_append, follow, hd, ha, hlong, if_false] at h
    exact ih h

/-- `t'` starts its paths where `t` does and has all directories of `t`. -/
structure Extends (t' t : FileTree) : Prop where
  here : t'.here = t.here
  directories : ∀ l, t.HasDirectory l → t'.HasDirectory l

theorem Extends.refl (t : FileTree) : t.Extends t := ⟨rfl, fun _ h => h⟩

theorem Extends.trans {t'' : FileTree} (h : t''.Extends t') (h' : t'.Extends t) : t''.Extends t :=
  ⟨h.here.trans h'.here, fun l hl => h.directories l (h'.directories l hl)⟩

theorem Extends.start_eq (h : t'.Extends t) (p : Path) : t'.start p = t.start p := by
  rw [start, start, h.here]

theorem Extends.locate_eq (h : t'.Extends t) (p : Path) : t'.locate p = t.locate p := by
  rw [locate, locate, h.start_eq]

theorem extends_put_directory (hl : l ≠ []) : (t.put l .directory).Extends t :=
  ⟨rfl, fun _ h => h.put_directory hl⟩

theorem extends_put_file (hl : l ≠ []) (hd : ¬ t.HasDirectory l) (bytes : Bytes) :
    (t.put l (.file bytes)).Extends t :=
  ⟨rfl, fun _ h => (hasDirectory_put_file hl hd bytes).2 h⟩

theorem extends_erase (hl : l ≠ []) (hd : ¬ t.HasDirectory l) : (t.erase l).Extends t :=
  ⟨rfl, fun _ h => (hasDirectory_erase hl hd).2 h⟩

/-- Names that can be followed still can when directories are added. -/
theorem Extends.follow_eq_ok (h : t'.Extends t) {names : List Text}
    (hf : t.follow l names = .ok m) : t'.follow l names = .ok m := by
  fun_induction follow t l names with
  | case1 l => cases hf; rfl
  | case2 => cases hf
  | case3 => cases hf
  | case4 l rest hd ih =>
    have hd' : t'.node? l = some .directory := h.directories l hd
    simpa [follow, hd'] using ih hf
  | case5 => cases hf
  | case6 l name rest hd ha hlong ih =>
    have hd' : t'.node? l = some .directory := h.directories l hd
    simpa [follow, hd', ha, hlong] using ih hf

/-! ## Entries -/

/-- Whether a path leads to an entry of a directory that is there. -/
def HasSlot (t : FileTree) (p : Path) : Prop :=
  ∃ name, t.locate p = t.locate p.parent ++ [name] ∧ t.HasDirectory (t.locate p.parent)

theorem HasSlot.ne_nil (h : t.HasSlot p) : t.locate p ≠ [] := by
  obtain ⟨name, hl, -⟩ := h
  simp [hl]

theorem WF.put_slot (h : t.WF) (hp : t.HasSlot p) {n : Node}
    (hn : n = .directory ∨ ¬ t.HasDirectory (t.locate p)) : (t.put (t.locate p) n).WF := by
  obtain ⟨name, hl, hd⟩ := hp
  rw [hl] at hn ⊢
  exact h.put hd hn

/-- There is a slot at the end of a path that can be followed and ends in a name. -/
theorem slot_eq_some_iff {n : Option Node} : t.slot p = .ok (some (l, n)) ↔
    isLongPath p = false ∧ (∃ names name, p.parts = names ++ [name] ∧ name ≠ above) ∧
      t.follow (t.start p) p.parts = .ok l ∧ n = t.node? l := by
  unfold slot
  constructor
  · intro h
    split at h
    · cases h
    · next hlong =>
      split at h
      · cases h
      · next name hname =>
        obtain ⟨names, hparts⟩ := List.getLast?_eq_some_iff.1 hname
        split at h
        · cases h
        · next k hk =>
          split at h
          · cases h
          · next ha =>
            obtain ⟨rfl, hn⟩ := Prod.mk.inj (Option.some.inj (Except.ok.inj h))
            exact ⟨by simpa using hlong, ⟨names, name, hparts, ha⟩, hk, hn.symm⟩
  · rintro ⟨hlong, ⟨names, name, hparts, ha⟩, hf, rfl⟩
    rw [hlong, if_neg Bool.false_ne_true, Path.name?, hparts, List.getLast?_concat, ← hparts, hf]
    dsimp only
    rw [if_neg ha]

/-- A slot stands where its path leads. -/
theorem slot_eq_some {n : Option Node} (h : t.slot p = .ok (some (l, n))) :
    l = t.locate p ∧ n = t.node? l ∧ t.HasSlot p := by
  obtain ⟨-, ⟨names, name, hparts, ha⟩, hk, hn⟩ := slot_eq_some_iff.1 h
  refine ⟨eq_of_follow hk, hn, name, ?_⟩
  rw [hparts] at hk
  obtain ⟨k, hk', hd, -⟩ := follow_concat hk
  have hparent : k = t.locate p.parent := by
    rw [eq_of_follow hk', locate, Path.parent, hparts, List.dropLast_concat]
    rfl
  refine ⟨?_, hparent ▸ hd⟩
  rw [locate, locate, Path.parent, hparts, List.dropLast_concat, List.foldl_append]
  simp [step, ha]
  rfl

/-- A slot stays where it is when directories are added. -/
theorem Extends.slot_eq_some (h : t'.Extends t) {n : Option Node}
    (hs : t.slot p = .ok (some (l, n))) : t'.slot p = .ok (some (l, t'.node? l)) := by
  obtain ⟨hlong, hname, hf, -⟩ := slot_eq_some_iff.1 hs
  exact slot_eq_some_iff.2 ⟨hlong, hname, h.start_eq p ▸ h.follow_eq_ok hf, rfl⟩

theorem HasSlot.extends (hp : t.HasSlot p) (h : t'.Extends t) : t'.HasSlot p := by
  obtain ⟨name, hl, hd⟩ := hp
  exact ⟨name, by rw [h.locate_eq, h.locate_eq, hl], by rw [h.locate_eq]; exact h.directories _ hd⟩

/-! ## Changes -/

theorem makeDirectory_eq_ok (h : t.makeDirectory p = .ok t') :
    t.HasSlot p ∧ t.node? (t.locate p) = none ∧ t' = t.put (t.locate p) .directory := by
  unfold makeDirectory at h
  split at h
  · cases h
  · split at h
    · cases h
    · next l hs =>
      obtain ⟨rfl, hn, hp⟩ := slot_eq_some hs
      cases h
      exact ⟨hp, hn.symm, rfl⟩
    · cases h

theorem write_eq_ok {bytes : Bytes} (h : t.write p bytes = .ok t') :
    t.HasSlot p ∧ ¬ t.HasDirectory (t.locate p) ∧ t' = t.put (t.locate p) (.file bytes) := by
  unfold write at h
  split at h
  · cases h
  · split at h
    · cases h
    · cases h
    · cases h
    · next l n hnd hs =>
      obtain ⟨rfl, hn, hp⟩ := slot_eq_some hs
      cases h
      exact ⟨hp, fun hd => hnd (hn.trans hd), rfl⟩

theorem unlink_eq_ok (h : t.unlink p = .ok t') :
    t.HasSlot p ∧ (t.file? (t.locate p)).isSome ∧ t' = t.erase (t.locate p) := by
  unfold unlink at h
  split at h
  · cases h
  · split at h
    · cases h
    · cases h
    · cases h
    · cases h
    · next l bytes hs =>
      obtain ⟨rfl, hn, hp⟩ := slot_eq_some hs
      cases h
      exact ⟨hp, by rw [file?_eq_some.2 hn.symm]; rfl, rfl⟩

theorem replace_eq_ok (h : t.replace p q = .ok t') :
    ∃ bytes, t.HasSlot p ∧ t.HasSlot q ∧ t.file? (t.locate p) = some bytes
      ∧ ¬ t.HasDirectory (t.locate q)
      ∧ t' = (t.erase (t.locate p)).put (t.locate q) (.file bytes) := by
  unfold replace at h
  split at h
  · cases h
  · split at h
    · cases h
    · cases h
    · cases h
    · cases h
    · next l bytes l' n hs hs' =>
      obtain ⟨rfl, hn, hp⟩ := slot_eq_some hs
      obtain ⟨rfl, rfl, hq⟩ := slot_eq_some hs'
      split at h
      · cases h
      · next hd => cases h; exact ⟨bytes, hp, hq, file?_eq_some.2 hn.symm, hd, rfl⟩
    · cases h
    · cases h

/-! ## Questions -/

/-- Whether a path leads to a directory that is there. -/
def ReachesDirectory (t : FileTree) (p : Path) : Prop :=
  ∃ l, t.follow (t.start p) p.parts = .ok l ∧ t.HasDirectory l

theorem ReachesDirectory.extends (hp : t.ReachesDirectory p) (h : t'.Extends t) :
    t'.ReachesDirectory p := by
  obtain ⟨l, hl, hd⟩ := hp
  exact ⟨l, by rw [h.start_eq]; exact h.follow_eq_ok hl, h.directories l hd⟩

theorem foldl_step_of_not_mem_above {names : List Text} (h : above ∉ names) (l : Location) :
    names.foldl step l = l ++ names := by
  induction names generalizing l with
  | nil => simp
  | cons name rest ih =>
    rw [List.mem_cons, not_or] at h
    rw [List.foldl_cons, step, if_neg (Ne.symm h.1), ih h.2, List.append_assoc]
    rfl

/-- A path without pairs of points leads down its names. -/
theorem locate_of_not_mem_above (hp : above ∉ p.parts) : t.locate p = t.start p ++ p.parts :=
  foldl_step_of_not_mem_above hp _

/-- A plain path below another leads down its names from where that leads. -/
theorem locate_child {text : Text} (h : (Path.ofText text).IsPlain) :
    t.locate (p.child text) = t.locate p ++ (Path.ofText text).parts := by
  rw [Path.child_eq h.origin, locate, List.foldl_append]
  exact foldl_step_of_not_mem_above h.parts _

/-- A path ends where its last name says. -/
theorem getLast?_locate {name : Text} (h : p.name? = some name) (hname : name ≠ above) :
    (t.locate p).getLast? = some name := by
  obtain ⟨names, hparts⟩ := List.getLast?_eq_some_iff.1 h
  rw [locate, hparts, List.foldl_append, List.foldl_cons, List.foldl_nil, step, if_neg hname,
    List.getLast?_concat]

theorem locate_of_isPlain (hp : p.IsPlain) : t.locate p = t.here ++ p.parts := by
  rw [locate_of_not_mem_above hp.parts, start, if_pos hp.origin]

/-- Different plain paths lead to different places. -/
theorem locate_inj (hp : p.IsPlain) (hq : q.IsPlain) (h : t.locate p = t.locate q) : p = q := by
  rw [locate_of_isPlain hp, locate_of_isPlain hq] at h
  have hparts := List.append_cancel_left h
  obtain ⟨origin, parts⟩ := p
  obtain ⟨origin', parts'⟩ := q
  obtain rfl : origin = .here := hp.origin
  obtain rfl : origin' = .here := hq.origin
  exact congrArg _ hparts

theorem siblingName_ne_above (name : Text) : Path.siblingName name ≠ above := by
  intro h
  have hlen := congrArg List.length h
  simp [above, Path.siblingName] at hlen

theorem isPlain_of_sibling? {s : Path} (hp : p.IsPlain) (hs : p.sibling? = some s) :
    s.IsPlain := by
  obtain ⟨name, -, rfl⟩ := Option.map_eq_some_iff.1 hs
  refine ⟨hp.origin, fun hm => ?_⟩
  rcases List.mem_append.1 hm with hm | hm
  · exact hp.parts (List.dropLast_subset _ hm)
  · exact siblingName_ne_above name (List.mem_singleton.1 hm).symm

/-- The place of a temporary sibling is not that of a path whose name does not start with a
point. -/
theorem locate_ne_of_sibling? {s : Path} {name : Text} (hs : p.sibling? = some s)
    (hname : q.name? = some name) (hdot : name.head? ≠ some '.') : t.locate s ≠ t.locate q := by
  obtain ⟨n, -, rfl⟩ := Option.map_eq_some_iff.1 hs
  have hlast : (t.locate (p.withName (Path.siblingName n))).getLast? = some (Path.siblingName n) :=
    getLast?_locate (List.getLast?_concat ..) (siblingName_ne_above n)
  have hlast' : (t.locate q).getLast? = some name :=
    getLast?_locate hname fun habove => hdot (by rw [habove]; rfl)
  intro heq
  rw [heq, hlast', Option.some.injEq] at hlast
  exact hdot (by rw [hlast]; rfl)

/-- In a well-formed tree all that lies above a node is a directory. -/
theorem WF.hasDirectory_of_append (h : t.WF) {name : Text} {names : List Text}
    (hn : t.node? (l ++ name :: names) ≠ none) : t.HasDirectory l := by
  induction names generalizing l name with
  | nil => exact h l name hn
  | cons next rest ih =>
    have hd : t.HasDirectory (l ++ [name]) := ih (by simpa using hn)
    exact h l name (by rw [hd]; simp)

/-- Where names lead nowhere, or through a file, nothing stands. -/
theorem WF.node?_of_follow_eq_error (h : t.WF) {names : List Text} {reason : Refused}
    (hnames : above ∉ names) (hr : reason = .noEntry ∨ reason = .notDirectory)
    (hf : t.follow l names = .error reason) : t.node? (l ++ names) = none := by
  fun_induction follow t l names with
  | case1 => cases hf
  | case2 l name rest hn =>
    by_contra hne
    have hd := h.hasDirectory_of_append hne
    rw [HasDirectory, hn] at hd
    cases hd
  | case3 l name rest bytes hn =>
    by_contra hne
    have hd := h.hasDirectory_of_append hne
    rw [HasDirectory, hn] at hd
    cases hd
  | case4 => exact absurd List.mem_cons_self hnames
  | case5 => cases hf; simp at hr
  | case6 l name rest _ _ _ ih =>
    have hrest := ih (fun hm => hnames (List.mem_cons_of_mem _ hm)) hf
    rwa [List.append_assoc] at hrest

theorem stat_eq_ok {n : Node} (h : t.stat p = .ok (l, n)) :
    l = t.locate p ∧ t.node? l = some n := by
  unfold stat at h
  split at h
  · cases h
  · split at h
    · cases h
    · next k hk =>
      split at h
      · cases h
      · next n' hn => cases h; exact ⟨eq_of_follow hk, hn⟩

/-- What is read is the file to which the path leads. -/
theorem read_eq_ok {bytes : Bytes} (h : t.read p = .ok bytes) :
    t.file? (t.locate p) = some bytes := by
  unfold read at h
  split at h
  · cases h
  · split at h
    · next l b hs =>
      cases h
      obtain ⟨rfl, hn⟩ := stat_eq_ok hs
      exact file?_eq_some.2 hn
    · cases h
    · cases h

theorem exists_of_isFile (h : t.isFile? p = .ok true) : t.exists? p = .ok true := by
  unfold isFile? at h
  unfold exists?
  cases hn : t.find? p with
  | error e => rw [hn] at h; cases h
  | ok n =>
    cases n with
    | none => rw [hn] at h; cases h
    | some n => rfl

theorem stat_of_exists?_eq_false (hnull : p.hasNull = false) (h : t.exists? p = .ok false) :
    t.stat p = .error .noEntry ∨ t.stat p = .error .notDirectory := by
  unfold exists? find? at h
  rw [hnull] at h
  split at h
  · next h' => cases h'
  · split at h
    · cases h
    · next hs => exact .inl hs
    · next hs => exact .inr hs
    · cases h

/-- A path without pairs of points at whose end nothing is found leads to a place where nothing
stands. -/
theorem WF.node?_of_exists?_eq_false (h : t.WF) (hp : above ∉ p.parts) (hnull : p.hasNull = false)
    (hx : t.exists? p = .ok false) : t.node? (t.locate p) = none := by
  have hs := stat_of_exists?_eq_false hnull hx
  unfold stat at hs
  split at hs
  · simp at hs
  · split at hs
    · next reason hf =>
      rw [locate_of_not_mem_above hp]
      exact h.node?_of_follow_eq_error hp (by simpa using hs) hf
    · next l hf =>
      have hl : l = t.locate p := eq_of_follow hf
      split at hs
      · next hn => rw [← hl, hn]
      · simp at hs

/-! ## Paths into directories that are there -/

/-- A file that is found has its bytes where its path leads, and lies in a directory to which the
path without its last name leads. -/
theorem isFile?_eq_true (hp : p.parts ≠ []) (h : t.isFile? p = .ok true) :
    (t.file? (t.locate p)).isSome ∧ t.ReachesDirectory p.parent ∧ p.hasNull = false := by
  unfold isFile? find? at h
  split at h
  · cases h
  · next hnull =>
    split at h
    · next l n hs =>
      unfold stat at hs
      split at hs
      · cases hs
      · split at hs
        · cases hs
        · next k hk =>
          split at hs
          · cases hs
          · next n' hn =>
            cases hs
            cases n with
            | directory => cases h
            | file bytes =>
              have hloc : l = t.locate p := eq_of_follow hk
              refine ⟨by rw [← hloc, file?_eq_some.2 hn]; rfl, ?_, by simpa using hnull⟩
              rcases List.eq_nil_or_concat p.parts with hnil | ⟨names, name, hparts⟩
              · exact absurd hnil hp
              · rw [List.concat_eq_append] at hparts
                rw [hparts] at hk
                obtain ⟨k, hk, hd, -⟩ := follow_concat hk
                exact ⟨k, by rwa [Path.parent, hparts, List.dropLast_concat], hd⟩
    · cases h
    · cases h
    · cases h

/-- Behind names that lead to a directory only a long name cannot be followed. -/
theorem follow_concat_eq {names : List Text} (name : Text) (h : t.follow l names = .ok m)
    (hd : t.HasDirectory m) : t.follow l (names ++ [name]) =
      if name = above then .ok m.dropLast
      else if isLong name then .error .nameTooLong else .ok (m ++ [name]) := by
  fun_induction follow t l names with
  | case1 l =>
    cases h
    have hd' : t.node? m = some .directory := hd
    simp [follow, hd']
  | case2 => cases h
  | case3 => cases h
  | case4 l rest hl ih => simpa [follow, hl] using ih h
  | case5 => cases h
  | case6 l name' rest hl ha hlong ih => simpa [follow, hl, ha, hlong] using ih h

/-- Where a path leads out of a directory that is there and nothing is found, nothing stands. -/
theorem node?_of_exists?_eq_false (hp : t.ReachesDirectory p.parent) (hnull : p.hasNull = false)
    (hx : t.exists? p = .ok false) : t.node? (t.locate p) = none := by
  obtain ⟨k, hk, hd⟩ := hp
  have hs := stat_of_exists?_eq_false hnull hx
  unfold stat at hs
  split at hs
  · simp at hs
  · cases hf : t.follow (t.start p) p.parts with
    | ok l =>
      rw [hf] at hs
      have hl : l = t.locate p := eq_of_follow hf
      dsimp only at hs
      split at hs
      · next hn => rw [← hl, hn]
      · simp at hs
    | error reason =>
      rw [hf] at hs
      exfalso
      rcases List.eq_nil_or_concat p.parts with hnil | ⟨names, name, hparts⟩
      · rw [hnil] at hf
        cases hf
      · rw [List.concat_eq_append] at hparts
        rw [Path.parent, hparts, List.dropLast_concat] at hk
        have hlast := follow_concat_eq name hk hd
        have hstart : t.start { p with parts := names } = t.start p := rfl
        rw [hstart, ← hparts, hf] at hlast
        split at hlast
        · cases hlast
        · split at hlast
          · cases hlast; simp at hs
          · cases hlast

/-- What a new entry would meet at the end of a path to a directory that is there. -/
theorem slot_of_reachesDirectory (hp : t.ReachesDirectory p) :
    t.slot p = .error .nameTooLong ∨ t.slot p = .ok none ∨
      ∃ l, t.slot p = .ok (some (l, some .directory)) := by
  obtain ⟨l, hl, hd⟩ := hp
  have hnode : t.node? l = some .directory := hd
  unfold slot
  rw [hl]
  split
  · exact .inl rfl
  · split
    · exact .inr (.inl rfl)
    · dsimp only
      rw [hnode]
      split
      · exact .inr (.inl rfl)
      · exact .inr (.inr ⟨l, rfl⟩)

/-- A directory that is there is not made, and there is nothing missing above it. -/
theorem makeDirectory_of_reachesDirectory (hp : t.ReachesDirectory p) :
    ∃ e, t.makeDirectory p = .error e ∧ ∀ q, e ≠ .refused .noEntry q := by
  unfold makeDirectory
  split
  · exact ⟨_, rfl, fun q hq => by cases hq⟩
  · rcases slot_of_reachesDirectory hp with hs | hs | ⟨l, hs⟩ <;> rw [hs]
    · exact ⟨_, rfl, fun q hq => by cases hq⟩
    · exact ⟨_, rfl, fun q hq => by cases hq⟩
    · exact ⟨_, rfl, fun q hq => by cases hq⟩

end FileTree

end OpScaffold
