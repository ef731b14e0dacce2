import OpScaffold.Proofs.Files.Disk
import OpScaffold.Proofs.Text.Utf8

/-!
# OpScaffold.Proofs.Files.Takes

Where a file can be written. If no replacement is refused, a write into a directory that is there
succeeds just where the tree takes the file (`write_succeeds_iff`): its name and that of its
temporary sibling can be used, and no directory stands in their places. This does not depend on the
files of the tree, and neither does what is found at the end of a path, but for the file there
(`Level.takes_iff`, `Level.exists?_eq`). Where a file was read one can be put again, in any tree
that has its directory and none in its place (`opens_iff_of_read`).
-/

namespace OpScaffold

open OpScaffold.Action

namespace FileTree

variable {t t' : FileTree} {p : Path} {l : Location} {bytes : Bytes}

/-! ## Trees with the same directories -/

theorem Level.extends_left (h : t.Level t') : t.Extends t' := ⟨h.sound.keeps.here.symm, h.only⟩

/-- Names lead to the same place in trees with the same directories, or lead nowhere in both. -/
theorem Level.follow_cases (h : t.Level t') (l : Location) (names : List Text) :
    t'.follow l names = t.follow l names ∨
      (t.follow l names = .error .noEntry ∨ t.follow l names = .error .notDirectory) ∧
        (t'.follow l names = .error .noEntry ∨ t'.follow l names = .error .notDirectory) := by
  have hnot {l : Location} (hd : ¬ t.HasDirectory l) (name : Text) (rest : List Text) :
      t'.follow l (name :: rest) = .error .noEntry ∨
        t'.follow l (name :: rest) = .error .notDirectory := by
    have hd' : ¬ t'.HasDirectory l := fun hd' => hd (h.only l hd')
    rw [follow]
    cases hn : t'.node? l with
    | none => exact .inl rfl
    | some n =>
      cases n with
      | directory => exact absurd hn hd'
      | file bytes => exact .inr rfl
  fun_induction follow t l names with
  | case1 l => exact .inl rfl
  | case2 l name rest hn => exact .inr ⟨.inl rfl, hnot (by simp [HasDirectory, hn]) name rest⟩
  | case3 l name rest b hn => exact .inr ⟨.inr rfl, hnot (by simp [HasDirectory, hn]) name rest⟩
  | case4 l rest hd ih =>
    have hd' : t'.node? l = some .directory := h.sound.keeps.directories l hd
    simpa [follow, hd'] using ih
  | case5 l name rest hd ha hlong =>
    have hd' : t'.node? l = some .directory := h.sound.keeps.directories l hd
    exact .inl (by simp [follow, hd', ha, hlong])
  | case6 l name rest hd ha hlong ih =>
    have hd' : t'.node? l = some .directory := h.sound.keeps.directories l hd
    simpa [follow, hd', ha, hlong] using ih

theorem stat_eq_ok_iff {n : Node} : t.stat p = .ok (l, n) ↔
    isLongPath p = false ∧ t.follow (t.start p) p.parts = .ok l ∧ t.node? l = some n := by
  unfold stat
  cases isLongPath p with
  | true => simp
  | false =>
    cases t.follow (t.start p) p.parts with
    | error reason => simp
    | ok k =>
      dsimp only
      cases hn : t.node? k with
      | none =>
        refine iff_of_false (by simp) fun ⟨_, hk, hl⟩ => ?_
        rw [← Except.ok.inj hk, hn] at hl
        cases hl
      | some m =>
        constructor
        · intro h
          cases h
          exact ⟨rfl, rfl, hn⟩
        · rintro ⟨-, hk, hl⟩
          obtain rfl := Except.ok.inj hk
          rw [hn] at hl
          cases hl
          rfl

/-- Something is found at the end of a path where something was, if something stands there where
something stood. -/
theorem Level.exists?_eq (h : t.Level t')
    (hn : (t'.node? (t.locate p)).isSome = (t.node? (t.locate p)).isSome) :
    t'.exists? p = t.exists? p := by
  unfold exists? find? stat
  rw [h.sound.keeps.start_eq]
  by_cases hnull : p.hasNull = true
  · rw [if_pos hnull, if_pos hnull]
  by_cases hlong : isLongPath p = true
  · rw [if_pos hlong, if_pos hlong]
  rw [if_neg hlong, if_neg hlong]
  rcases h.follow_cases (t.start p) p.parts with heq | ⟨hf | hf, hf' | hf'⟩
  · rw [heq]
    cases hf : t.follow (t.start p) p.parts with
    | error reason => rfl
    | ok l =>
      obtain rfl : l = t.locate p := eq_of_follow hf
      dsimp only
      cases ht : t.node? (t.locate p) with
      | none =>
        rw [ht, Option.isSome_none, Option.isSome_eq_false_iff, Option.isNone_iff_eq_none] at hn
        rw [hn]
      | some n =>
        rw [ht, Option.isSome_some] at hn
        obtain ⟨n', hn'⟩ := Option.isSome_iff_exists.1 hn
        rw [hn', if_neg hnull, if_neg hnull]
        rfl
  all_goals rw [hf, hf']

/-- Where nothing is found nothing is found later, if nothing has come there. -/
theorem Level.exists?_eq_false (h : t.Level t') (hx : t.exists? p = .ok false)
    (hn : t.node? (t.locate p) = none → t'.node? (t.locate p) = none) :
    t'.exists? p = .ok false := by
  by_cases hnone : t.node? (t.locate p) = none
  · rw [h.exists?_eq (by rw [hn hnone, hnone]), hx]
  -- something stands there, so the path leads nowhere
  unfold exists? find? stat at hx ⊢
  rw [h.sound.keeps.start_eq]
  by_cases hnull : p.hasNull = true
  · rw [if_pos hnull]
    rfl
  rw [if_neg hnull] at hx ⊢
  by_cases hlong : isLongPath p = true
  · rw [if_pos hlong] at hx
    cases hx
  rw [if_neg hlong] at hx ⊢
  rcases h.follow_cases (t.start p) p.parts with heq | ⟨-, hf' | hf'⟩
  · rw [heq]
    cases hf : t.follow (t.start p) p.parts with
    | error reason => rwa [hf] at hx
    | ok l =>
      obtain rfl : l = t.locate p := eq_of_follow hf
      obtain ⟨n, hsome⟩ := Option.ne_none_iff_exists'.1 hnone
      rw [hf] at hx
      dsimp only at hx
      rw [hsome] at hx
      cases hx
  all_goals rw [hf']; rfl

theorem read_eq_ok_iff : t.read p = .ok bytes ↔
    p.hasNull = false ∧ ∃ l, t.stat p = .ok (l, .file bytes) := by
  unfold read
  cases p.hasNull with
  | true => simp
  | false =>
    cases t.stat p with
    | error reason => simp
    | ok found =>
      obtain ⟨l, _ | bytes⟩ := found <;> simp

/-- A file that can be read still can be if another one stands in its place. -/
theorem Extends.read_eq_ok {bytes' : Bytes} (h : t'.Extends t) (hr : t.read p = .ok bytes)
    (hf : t'.file? (t.locate p) = some bytes') : t'.read p = .ok bytes' := by
  obtain ⟨hnull, l, hs⟩ := read_eq_ok_iff.1 hr
  obtain ⟨hlong, hfollow, -⟩ := stat_eq_ok_iff.1 hs
  obtain rfl : l = t.locate p := eq_of_follow hfollow
  refine read_eq_ok_iff.2 ⟨hnull, t.locate p, stat_eq_ok_iff.2 ⟨hlong, ?_, file?_eq_some.1 hf⟩⟩
  rw [h.start_eq]
  exact h.follow_eq_ok hfollow

/-- A text is read where its bytes are. -/
theorem readText_eq_ok_iff {text : Text} :
    t.readText p = .ok text ↔ t.read p = .ok (Utf8.encode text) := by
  unfold readText
  cases t.read p with
  | error e => simp
  | ok bytes =>
    dsimp only
    cases hd : Utf8.decode bytes with
    | error e =>
      refine iff_of_false (by simp) fun h => ?_
      rw [Except.ok.inj h, Utf8.decode_encode] at hd
      cases hd
    | ok old =>
      rw [← Utf8.encode_of_decode hd]
      constructor
      · rintro ⟨⟩
        rfl
      · intro h
        have hsame := congrArg Utf8.decode (Except.ok.inj h)
        rw [Utf8.decode_encode, Utf8.decode_encode] at hsame
        rw [Except.ok.inj hsame]

/-- A text that is put in the place of another can be read if that could. -/
theorem Extends.readText_eq_ok {old new : Text} (h : t'.Extends t) (hr : t.readText p = .ok old)
    (hf : t'.file? (t.locate p) = some (Utf8.encode new)) : t'.readText p = .ok new :=
  readText_eq_ok_iff.2 (h.read_eq_ok (readText_eq_ok_iff.1 hr) hf)

/-- A file that is not removed is read as before. -/
theorem readText_of_unlink {q : Path} {text : Text} (hwf : t.WF) (h : t.unlink q = .ok t')
    (hne : t.locate p ≠ t.locate q) (hread : t.readText p = .ok text) :
    t'.readText p = .ok text := by
  have hext := (level_unlink hwf h).sound.keeps
  obtain ⟨hslot, -, rfl⟩ := unlink_eq_ok h
  refine hext.readText_eq_ok hread ?_
  rw [file?_erase hslot.ne_nil, Function.update_of_ne hne]
  exact FileTree.read_eq_ok (readText_eq_ok_iff.1 hread)

/-- There is a file where one can be read. -/
theorem isFile?_iff_read : t.isFile? p = .ok true ↔ ∃ bytes, t.read p = .ok bytes := by
  unfold isFile? find? read
  split
  · exact iff_of_false (by simp [Except.map]) (by simp)
  · cases hs : t.stat p with
    | error reason =>
      refine iff_of_false ?_ (by simp)
      cases reason <;> simp [Except.map]
    | ok found =>
      obtain ⟨l, _ | bytes⟩ := found <;> simp [Except.map]

theorem isFile?_of_readText {text : Text} (h : t.readText p = .ok text) :
    t.isFile? p = .ok true :=
  isFile?_iff_read.2 ⟨_, readText_eq_ok_iff.1 h⟩

/-- A file that is found stands where its path leads. -/
theorem isSome_file?_of_isFile? (h : t.isFile? p = .ok true) : (t.file? (t.locate p)).isSome := by
  obtain ⟨bytes, hread⟩ := isFile?_iff_read.1 h
  rw [FileTree.read_eq_ok hread]
  rfl

/-- Where a file was found one is found if it stands there. -/
theorem Level.isFile?_eq (h : t.Level t') (hfile : t.isFile? p = .ok true) :
    t'.isFile? p = .ok (t'.file? (t.locate p)).isSome := by
  obtain ⟨bytes, hread⟩ := isFile?_iff_read.1 hfile
  obtain ⟨hnull, l, hstat⟩ := read_eq_ok_iff.1 hread
  obtain ⟨hlong, hfollow, hnode⟩ := stat_eq_ok_iff.1 hstat
  obtain rfl : l = t.locate p := eq_of_follow hfollow
  have hfollow' := h.sound.keeps.follow_eq_ok hfollow
  rw [← h.sound.keeps.start_eq] at hfollow'
  unfold isFile? find? stat
  rw [hnull, hlong, hfollow']
  dsimp only
  cases hn : t'.node? (t.locate p) with
  | none => simp [file?, hn, Except.map]
  | some n =>
    cases n with
    | file bytes => simp [file?, hn, Except.map]
    | directory =>
      have hd := h.only _ hn
      rw [HasDirectory, hnode] at hd
      cases hd

/-! ## Places for files -/

/-- Whether a file can be put at the end of a path: the path can be handed to the system, leads to
an entry of a directory, and no directory stands there. -/
structure Opens (t : FileTree) (p : Path) : Prop where
  noNull : p.hasNull = false
  slot : ∃ n, t.slot p = .ok (some (t.locate p, n)) ∧ n ≠ some .directory

theorem Opens.slot_eq (h : t.Opens p) :
    t.slot p = .ok (some (t.locate p, t.node? (t.locate p))) := by
  obtain ⟨n, hs, -⟩ := h.slot
  obtain ⟨-, rfl, -⟩ := slot_eq_some hs
  exact hs

theorem Opens.node?_ne (h : t.Opens p) : t.node? (t.locate p) ≠ some .directory := by
  obtain ⟨n, hs, hn⟩ := h.slot
  obtain ⟨-, rfl, -⟩ := slot_eq_some hs
  exact hn

/-- A file can be put where it could before, as long as no directory has come there. -/
theorem Opens.extends (h : t.Opens p) (he : t'.Extends t)
    (hd : ¬ t'.HasDirectory (t.locate p)) : t'.Opens p :=
  ⟨h.noNull, _, by rw [he.slot_eq_some h.slot_eq, he.locate_eq], hd⟩

theorem Level.opens_iff (h : t.Level t') : t'.Opens p ↔ t.Opens p := by
  constructor
  · intro ho
    refine ho.extends h.extends_left fun hd => ho.node?_ne ?_
    exact h.sound.keeps.directories _ hd
  · intro ho
    exact ho.extends h.sound.keeps fun hd => ho.node?_ne (h.only _ hd)

/-- A file is written where one can be put. -/
theorem write_eq_ok_iff : t.write p bytes = .ok t' ↔
    t.Opens p ∧ t' = t.put (t.locate p) (.file bytes) := by
  constructor
  · intro h
    refine ⟨?_, (write_eq_ok h).2.2⟩
    unfold write at h
    split at h
    · cases h
    · next hnull =>
      split at h
      · cases h
      · cases h
      · cases h
      · next l n hn hs =>
        obtain ⟨rfl, rfl, -⟩ := slot_eq_some hs
        exact ⟨by simpa using hnull, _, hs, hn⟩
  · rintro ⟨ho, rfl⟩
    have hs := ho.slot_eq
    have hd := ho.node?_ne
    unfold write
    rw [ho.noNull, if_neg Bool.false_ne_true, hs]
    cases hn : t.node? (t.locate p) with
    | none => rfl
    | some n =>
      cases n with
      | directory => exact absurd hn hd
      | file b => rfl

/-- A file is put in the place of another where it could be written. -/
theorem exists_replace_iff (hp : t.Opens p) {q : Path} (hf : t.file? (t.locate p) = some bytes) :
    (∃ t', t.replace p q = .ok t') ↔ t.Opens q := by
  have hs := hp.slot_eq
  rw [file?_eq_some.1 hf] at hs
  unfold replace
  rw [hp.noNull, Bool.false_or, hs]
  dsimp only
  constructor
  · rintro ⟨t', h⟩
    split at h
    · cases h
    · next hnull =>
      cases hq : t.slot q with
      | error reason => rw [hq] at h; cases h
      | ok slot =>
        rw [hq] at h
        cases slot with
        | none => cases h
        | some found =>
          obtain ⟨l, n⟩ := found
          obtain ⟨rfl, -, -⟩ := slot_eq_some hq
          dsimp only at h
          split at h
          · cases h
          · next hd => exact ⟨by simpa using hnull, _, hq, hd⟩
  · intro hq
    rw [hq.noNull, if_neg Bool.false_ne_true, hq.slot_eq]
    dsimp only
    rw [if_neg hq.node?_ne]
    exact ⟨_, rfl⟩

/-- What was written can be put in the place of a file that could be written before. -/
theorem exists_replace_written (hwf : t.WF) {q : Path} (hw : t.write p bytes = .ok t') :
    (∃ t'', t'.replace p q = .ok t'') ↔ t.Opens q := by
  have hlevel := level_write hwf hw
  obtain ⟨hp, rfl⟩ := write_eq_ok_iff.1 hw
  rw [exists_replace_iff (hlevel.opens_iff.2 hp), hlevel.opens_iff]
  rw [hlevel.sound.keeps.locate_eq, file?_put_file (slot_eq_some hp.slot_eq).2.2.ne_nil,
    Function.update_self]

/-- Where a file can be put, asking for what is there gives an answer. -/
theorem Opens.exists?_eq (h : t.Opens p) :
    t.exists? p = .ok (t.node? (t.locate p)).isSome := by
  obtain ⟨hlong, -, hf, -⟩ := slot_eq_some_iff.1 h.slot_eq
  unfold exists? find? stat
  rw [h.noNull, if_neg Bool.false_ne_true, hlong, if_neg Bool.false_ne_true, hf]
  dsimp only
  cases t.node? (t.locate p) <;> rfl

/-- Whether a file can be written through its temporary sibling, in a directory that is there. -/
structure Takes (t : FileTree) (p : Path) : Prop where
  parent : t.isDirectory? p.parent = .ok true
  target : t.Opens p
  sibling : ∃ s, p.sibling? = some s ∧ t.Opens s

theorem isDirectory?_iff_stat : t.isDirectory? p = .ok true ↔
    p.hasNull = false ∧ ∃ l, t.stat p = .ok (l, .directory) := by
  unfold isDirectory? find?
  cases p.hasNull with
  | true => simp [Except.map]
  | false =>
    cases t.stat p with
    | error reason =>
      refine iff_of_false ?_ (by simp)
      cases reason <;> simp [Except.map]
    | ok found =>
      obtain ⟨l, _ | bytes⟩ := found <;> simp [Except.map]

theorem Extends.isDirectory?_eq (h : t'.Extends t) (hd : t.isDirectory? p = .ok true) :
    t'.isDirectory? p = .ok true := by
  obtain ⟨hnull, l, hs⟩ := isDirectory?_iff_stat.1 hd
  obtain ⟨hlong, hfollow, hn⟩ := stat_eq_ok_iff.1 hs
  refine isDirectory?_iff_stat.2 ⟨hnull, l, stat_eq_ok_iff.2 ⟨hlong, ?_, h.directories l hn⟩⟩
  rw [h.start_eq]
  exact h.follow_eq_ok hfollow

theorem Level.takes_iff (h : t.Level t') : t'.Takes p ↔ t.Takes p := by
  have hdir : t'.isDirectory? p.parent = .ok true ↔ t.isDirectory? p.parent = .ok true :=
    ⟨h.extends_left.isDirectory?_eq, h.sound.keeps.isDirectory?_eq⟩
  exact ⟨fun ht => ⟨hdir.1 ht.parent, h.opens_iff.1 ht.target,
      ht.sibling.imp fun _ hs => ⟨hs.1, h.opens_iff.1 hs.2⟩⟩,
    fun ht => ⟨hdir.2 ht.parent, h.opens_iff.2 ht.target,
      ht.sibling.imp fun _ hs => ⟨hs.1, h.opens_iff.2 hs.2⟩⟩⟩

/-! ## Places where a file stood before -/

theorem stat_of_slot {n : Node} (h : t.slot p = .ok (some (l, some n))) :
    t.stat p = .ok (l, n) := by
  obtain ⟨hlong, -, hf, hn⟩ := slot_eq_some_iff.1 h
  exact stat_eq_ok_iff.2 ⟨hlong, hf, hn.symm⟩

theorem extends_of_write (h : t.write p bytes = .ok t') : t'.Extends t := by
  obtain ⟨hslot, hd, rfl⟩ := write_eq_ok h
  exact extends_put_file hslot.ne_nil hd bytes

/-- What was written is read. -/
theorem read_of_write (h : t.write p bytes = .ok t') : t'.read p = .ok bytes := by
  obtain ⟨hopen, rfl⟩ := write_eq_ok_iff.1 h
  have hs := hopen.slot_eq
  have hne := (slot_eq_some hs).2.2.ne_nil
  have hext := extends_put_file hne hopen.node?_ne bytes
  have hs' := hext.slot_eq_some hs
  rw [node?_put_self t hne] at hs'
  exact read_eq_ok_iff.2 ⟨hopen.noNull, _, stat_of_slot hs'⟩

/-- Where a directory is found no file is read. -/
theorem read_ne_of_isDirectory? (h : t.isDirectory? p = .ok true) : t.read p ≠ .ok bytes := by
  intro hr
  obtain ⟨-, l, hs⟩ := isDirectory?_iff_stat.1 h
  obtain ⟨-, l', hs'⟩ := read_eq_ok_iff.1 hr
  rw [hs] at hs'
  cases hs'

/-- Where a file can be put no directory is found. -/
theorem Opens.isDirectory?_ne (h : t.Opens p) : t.isDirectory? p ≠ .ok true := by
  intro hd
  obtain ⟨-, l, hs⟩ := isDirectory?_iff_stat.1 hd
  obtain ⟨rfl, hn⟩ := stat_eq_ok hs
  exact h.node?_ne hn

theorem Opens.reachesDirectory (h : t.Opens p) : t.ReachesDirectory p.parent := by
  obtain ⟨-, ⟨names, name, hparts, -⟩, hf, -⟩ := slot_eq_some_iff.1 h.slot_eq
  rw [hparts] at hf
  obtain ⟨k, hk, hd, -⟩ := follow_concat hf
  exact ⟨k, by rwa [Path.parent, hparts, List.dropLast_concat], hd⟩

/-- The directory above one, and the root, are directories. -/
theorem WF.hasDirectory_dropLast (h : t.WF) {l : Location} (hd : t.HasDirectory l) :
    t.HasDirectory l.dropLast := by
  rcases List.eq_nil_or_concat l with rfl | ⟨above, name, rfl⟩
  · rfl
  · rw [List.concat_eq_append, HasDirectory] at hd
    rw [List.concat_eq_append, List.dropLast_concat]
    exact h above name (by rw [hd]; simp)

/-- The last name of a path at which a file was read is short and no pair of points. -/
theorem exists_name_of_read (hwf : t.WF) (hp : p.parts ≠ []) (hread : t.read p = .ok bytes) :
    ∃ names name, p.parts = names ++ [name] ∧ name ≠ above ∧ ¬ isLong name = true := by
  obtain ⟨-, l, hs⟩ := read_eq_ok_iff.1 hread
  obtain ⟨-, hfollow, hnode⟩ := stat_eq_ok_iff.1 hs
  obtain ⟨names, name, hparts⟩ := (List.eq_nil_or_concat p.parts).resolve_left hp
  rw [List.concat_eq_append] at hparts
  rw [hparts] at hfollow
  obtain ⟨k, hk, hd, -⟩ := follow_concat hfollow
  rw [follow_concat_eq name hk hd] at hfollow
  refine ⟨names, name, hparts, fun habove => ?_, fun hlong => ?_⟩
  · -- two points would lead to a directory
    rw [if_pos habove] at hfollow
    cases hfollow
    have hdir := hwf.hasDirectory_dropLast hd
    rw [HasDirectory, hnode] at hdir
    cases hdir
  · rw [if_neg fun habove => absurd (habove ▸ hlong) (by decide), if_pos hlong] at hfollow
    cases hfollow

/-- Where a file was read, one can be put in any tree that has its directory and none in its
place. -/
theorem opens_iff_of_read (hwf : t.WF) (hread : t.read p = .ok bytes) :
    t'.Opens p ↔ t'.ReachesDirectory p.parent ∧ ¬ t'.HasDirectory (t'.locate p) := by
  refine ⟨fun h => ⟨h.reachesDirectory, h.node?_ne⟩, fun ⟨⟨k, hk, hd⟩, hnot⟩ => ?_⟩
  obtain ⟨hnull, l, hs⟩ := read_eq_ok_iff.1 hread
  obtain ⟨hlong, -, -⟩ := stat_eq_ok_iff.1 hs
  by_cases hp : p.parts = []
  · -- the path leads where its parent leads, to a directory
    refine absurd ?_ hnot
    rw [Path.parent, hp, List.dropLast_nil, follow] at hk
    cases hk
    rwa [locate, hp]
  · obtain ⟨names, name, hparts, habove, hshort⟩ := exists_name_of_read hwf hp hread
    rw [Path.parent, hparts, List.dropLast_concat] at hk
    have hfollow : t'.follow (t'.start p) p.parts = .ok (k ++ [name]) := by
      have hlast := follow_concat_eq name hk hd
      rwa [if_neg habove, if_neg hshort, ← hparts] at hlast
    have hslot := slot_eq_some_iff.2 ⟨hlong, ⟨names, name, hparts, habove⟩, hfollow, rfl⟩
    obtain ⟨hl, -, -⟩ := slot_eq_some hslot
    exact ⟨hnull, _, hl ▸ hslot, hl ▸ hnot⟩

end FileTree

namespace Disk

variable {d d' : Disk} {p : Path} {text : Text}

/-- Making a directory that is there succeeds where it can be looked for. -/
theorem ensureDirectories_eq_ok_iff (h : d.tree.ReachesDirectory p) :
    ensureDirectories p d = .ok () d' ↔ d.tree.isDirectory? p = .ok true ∧ d' = d := by
  obtain ⟨e, hmake, hlook⟩ := ensureDirectories_of_reachesDirectory h
  rw [hlook, bind_apply, ask_apply]
  cases hdir : d.tree.isDirectory? p with
  | error e' => simp
  | ok b =>
    dsimp only
    cases b with
    | false =>
      rw [Bool.and_false]
      exact iff_of_false (by rintro ⟨⟩) (by simp)
    | true =>
      have hsys : e.isFromSystem = true :=
        (refuses_of_makeDirectory hmake).resolve_right
          (by simp [(FileTree.isDirectory?_iff_stat.1 hdir).1])
      rw [hsys]
      exact ⟨fun heq => by cases heq; exact ⟨rfl, rfl⟩, fun ⟨_, heq⟩ => by rw [heq]; rfl⟩

/-- What was written into a directory that is there, the tree took. -/
theorem takes_of_write (hwf : d.tree.WF) (hp : d.tree.ReachesDirectory p.parent)
    (h : write p text d = .ok () d') : d.tree.Takes p := by
  obtain ⟨_, d₁, s, t, -, hd, hs, hw, hreplace⟩ := steps_of_write_eq_ok h
  obtain ⟨hdir, rfl⟩ := (ensureDirectories_eq_ok_iff hp).1 hd
  exact ⟨hdir, (FileTree.exists_replace_written hwf hw).1 ⟨_, hreplace⟩, s, hs,
    (FileTree.write_eq_ok_iff.1 hw).1⟩

/-- A file that the tree takes is put in its place, unless that attempt is one to be refused. -/
theorem writeThrough_of_takes {s : Path} (text : Text) (hwf : d.tree.WF) (hp : d.tree.Opens p)
    (hs : d.tree.Opens s) :
    (∃ d', writeThrough s p text d = .ok () d') ∨
      d.replacements ∈ d.refused ∧ ∃ e d', writeThrough s p text d = .error e d' ∧
        d.replacements < d'.replacements := by
  have hw : d.tree.write s (Utf8.encode text) = .ok _ := FileTree.write_eq_ok_iff.2 ⟨hs, rfl⟩
  obtain ⟨t', hreplace⟩ := (FileTree.exists_replace_written hwf hw).2 hp
  have hasked := ((FileTree.level_write hwf hw).opens_iff.2 hp).exists?_eq
  unfold writeThrough writeText
  rw [bind_apply, Utf8.encodeRaw_raw]
  dsimp only
  rw [change_apply, hw]
  dsimp only
  rw [bind_apply, ask_apply]
  dsimp only
  rw [hasked]
  dsimp only
  rw [replace_apply, change_apply]
  dsimp only
  by_cases hr : d.replacements ∈ d.refused
  · rw [if_pos (List.contains_iff_mem.2 hr)]
    exact .inr ⟨hr, _, _, rfl, Nat.lt_succ_self _⟩
  · rw [if_neg (mt List.contains_iff_mem.1 hr), hreplace]
    exact .inl ⟨_, rfl⟩

/-- A write fails where the tree takes the file only because its replacement is refused. -/
theorem refused_of_failed_write {e : FileError} (hwf : d.tree.WF) (h : d.tree.Takes p)
    (hw : write p text d = .error e d') :
    d.replacements ∈ d.refused ∧ d.replacements < d'.replacements := by
  obtain ⟨s, hs, hopen⟩ := h.sibling
  unfold write at hw
  rw [bind_apply, (ensureDirectories_eq_ok_iff h.target.reachesDirectory).2 ⟨h.parent, rfl⟩] at hw
  dsimp only at hw
  rw [hs] at hw
  dsimp only at hw
  rw [tryCatch_apply] at hw
  rcases writeThrough_of_takes text hwf h.target hopen with
    ⟨d₁, hthrough⟩ | ⟨hr, e₁, d₁, hthrough, hlt⟩
  · rw [hthrough] at hw
    cases hw
  · rw [hthrough] at hw
    have hpre := preserves_abandon (fun _ => preserves_count_change d₁.refused d₁.replacements _) s e₁
    exact ⟨hr, Nat.lt_of_lt_of_le hlt (hpre.of_error ⟨rfl, Nat.le_refl _⟩ hw).2⟩

/-- **Writing.** If no replacement is refused, a file is written into a directory that is there just
where the tree takes it. -/
theorem write_succeeds_iff (hwf : d.tree.WF) (hr : d.refused = [])
    (hp : d.tree.ReachesDirectory p.parent) :
    (∃ d', write p text d = .ok () d') ↔ d.tree.Takes p := by
  refine ⟨fun ⟨d', h⟩ => takes_of_write hwf hp h, fun h => ?_⟩
  cases hw : write p text d with
  | ok _ d' => exact ⟨d', rfl⟩
  | error e d' =>
    have hrefused := (refused_of_failed_write hwf h hw).1
    rw [hr] at hrefused
    cases hrefused

end Disk

end OpScaffold
