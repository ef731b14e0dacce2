import OpScaffold.Proofs.Files.Takes
import OpScaffold.Proofs.HostFile.Registration
import OpScaffold.Proofs.HostFile.Rereading
import OpScaffold.Proofs.Insertion
import OpScaffold.Proofs.Variant

/-!
# OpScaffold.Proofs.Duplication

A variant is rejected as a duplicate just where it is one (`insert_registered_iff`): where a host
file as it is on the disk lists one of its spellings as a word of a line in a block. Groups and
points are gone through in order, so the rejection names the first of each that lists the variant
(`FailsFirst`), and what is appended on the way is not seen by any check.
-/

namespace OpScaffold

open OpScaffold.Action

/-! ## The first failure -/

section FailsFirst

variable {α β ε : Type} {check : α → Except ε β} {items : List α} {a : α} {e : ε}

theorem exists_ok_iff {x : Except ε α} : (∃ a, x = .ok a) ↔ ¬ ∃ e, x = .error e := by
  cases x <;> simp

/-- Whether the first item at which a check fails lets it fail with `e`. -/
def FailsFirst (check : α → Except ε β) (items : List α) (e : ε) : Prop :=
  ∃ before a after, items = before ++ a :: after ∧ (∀ b ∈ before, ∃ r, check b = .ok r) ∧
    check a = .error e

theorem not_failsFirst_nil : ¬ FailsFirst check [] e := by
  rintro ⟨before, a, after, heq, -⟩
  simp at heq

theorem failsFirst_cons :
    FailsFirst check (a :: items) e ↔
      check a = .error e ∨ (∃ r, check a = .ok r) ∧ FailsFirst check items e := by
  constructor
  · rintro ⟨_ | ⟨b, before⟩, c, after, heq, hbefore, hc⟩
    · obtain ⟨rfl, rfl⟩ := List.cons.inj heq
      exact .inl hc
    · obtain ⟨rfl, rfl⟩ := List.cons.inj heq
      obtain ⟨ha, hbefore⟩ := List.forall_mem_cons.1 hbefore
      exact .inr ⟨ha, before, c, after, rfl, hbefore, hc⟩
  · rintro (ha | ⟨ha, before, c, after, rfl, hbefore, hc⟩)
    · exact ⟨[], a, items, rfl, by simp, ha⟩
    · exact ⟨a :: before, c, after, rfl, List.forall_mem_cons.2 ⟨ha, hbefore⟩, hc⟩

/-- A check that fails at some item fails first at one of them. -/
theorem exists_failsFirst_iff :
    (∃ e, FailsFirst check items e) ↔ ∃ a ∈ items, ∃ e, check a = .error e := by
  induction items with
  | nil => simp [not_failsFirst_nil]
  | cons a rest ih =>
    simp only [failsFirst_cons, List.exists_mem_cons_iff, ← ih]
    cases check a with
    | error e => simp
    | ok r => simp

theorem failsFirst_map {γ : Type} {f : γ → α} {items : List γ} :
    FailsFirst check (items.map f) e ↔ FailsFirst (fun c => check (f c)) items e := by
  induction items with
  | nil => simp [not_failsFirst_nil]
  | cons c rest ih => rw [List.map_cons, failsFirst_cons, failsFirst_cons, ih]

end FailsFirst

variable {t : FileTree} {root : Path} {path rel spelling anchor : Text} {v : Variant}
  {name : Text} {entries : List Entry} {failure : Failure} {parts : List Part} {host : HostFile}

/-! ## Points -/

namespace ExtensionPoint

variable {p : ExtensionPoint} {snippet : List Text}

/-- Whether a token is a word of a line of the block. -/
def Lists (p : ExtensionPoint) (token : Text) : Prop := ∃ line ∈ p.block, token ∈ line.words

/-- Whether a point lists a variant under one of its spellings. -/
def ListsVariant (p : ExtensionPoint) (v : Variant) : Prop := p.Lists v.name ∨ p.Lists v.upper

/-- The spelling under which a point lists a variant; its name goes before its capitals. -/
inductive Shows (p : ExtensionPoint) (v : Variant) : (spelling : Text) → Prop
  | name (h : p.Lists v.name) : Shows p v v.name
  | upper (h : p.Lists v.upper) (hname : ¬ p.Lists v.name) : Shows p v v.upper

theorem hasToken_eq_true_iff (hv : Variant.derive name = .ok v) {token : Text}
    (ht : token = v.name ∨ token = v.upper) : p.hasToken token = true ↔ p.Lists token :=
  hasToken_iff (Variant.isWord_of_derive hv ht).2

theorem exists_shows_iff : (∃ spelling, p.Shows v spelling) ↔ p.ListsVariant v := by
  constructor
  · rintro ⟨_, ⟨h⟩ | ⟨h, -⟩⟩
    · exact .inl h
    · exact .inr h
  · intro h
    by_cases hname : p.Lists v.name
    · exact ⟨_, .name hname⟩
    · exact ⟨_, .upper (h.resolve_left hname) hname⟩

end ExtensionPoint

namespace HostFile

variable {p : ExtensionPoint}

/-- A point turns a variant away that it lists, under the spelling that it shows. -/
theorem registerAt_eq_error_iff (hv : Variant.derive name = .ok v)
    (hr : ∃ snippet, p.entry.render v = .ok snippet) :
    registerAt path v p = .error failure ↔
      ∃ spelling, p.Shows v spelling ∧ failure = .registered path spelling p.entry.anchor := by
  obtain ⟨snippet, hr⟩ := hr
  have hname := ExtensionPoint.hasToken_eq_true_iff (p := p) hv (.inl rfl)
  have hupper := ExtensionPoint.hasToken_eq_true_iff (p := p) hv (.inr rfl)
  unfold registerAt
  constructor
  · intro h
    split at h
    · next hn => cases h; exact ⟨_, .name (hname.1 hn), rfl⟩
    · next hn =>
      split at h
      · next hu => cases h; exact ⟨_, .upper (hupper.1 hu) (fun hl => hn (hname.2 hl)), rfl⟩
      · rw [hr] at h; cases h
  · rintro ⟨spelling, ⟨hn⟩ | ⟨hu, hn⟩, rfl⟩
    · rw [if_pos (hname.2 hn)]
    · rw [if_neg fun h => hn (hname.1 h), if_pos (hupper.2 hu)]

theorem exists_registerAt_error_iff (hv : Variant.derive name = .ok v)
    (hr : ∃ snippet, p.entry.render v = .ok snippet) :
    (∃ failure, registerAt path v p = .error failure) ↔ p.ListsVariant v := by
  rw [← ExtensionPoint.exists_shows_iff]
  constructor
  · rintro ⟨failure, h⟩
    obtain ⟨spelling, hshows, -⟩ := (registerAt_eq_error_iff hv hr).1 h
    exact ⟨spelling, hshows⟩
  · rintro ⟨spelling, hshows⟩
    exact ⟨_, (registerAt_eq_error_iff hv hr).2 ⟨spelling, hshows, rfl⟩⟩

/-- Registering a variant in parts fails with the first of their points that fails. -/
theorem registerParts_eq_error_iff :
    registerParts path v parts = .error failure ↔
      FailsFirst (registerAt path v) (points ⟨path, parts⟩) failure := by
  induction parts with
  | nil => exact iff_of_false (by simp [registerParts]) not_failsFirst_nil
  | cons part rest ih =>
    cases part with
    | line l =>
      rw [points_line, registerParts, ← ih]
      cases registerParts path v rest <;> simp
    | point p =>
      rw [points_point, registerParts, failsFirst_cons, ← ih]
      cases registerAt path v p with
      | error e => simp
      | ok q => cases registerParts path v rest <;> simp

theorem register_eq_error_iff :
    host.register v = .error failure ↔
      FailsFirst (registerAt host.path v) host.points failure := by
  rw [register, ← registerParts_eq_error_iff]
  cases registerParts host.path v host.parts <;> simp [Except.map]

end HostFile

namespace Insertion

/-! ## Files -/

/-- A host file of a registry as it is on the disk. -/
def readHost (t : FileTree) (root : Path) (entries : List Entry) (rel : Text) :
    Except Failure HostFile := do
  HostFile.parse rel (← t.readText (root.child rel)) (entries.filter (·.path = rel))

/-- Whether a host file lists a variant at one of its points. -/
def ListedIn (t : FileTree) (root : Path) (entries : List Entry) (v : Variant) (rel : Text) :
    Prop :=
  ∃ host, readHost t root entries rel = .ok host ∧ ∃ p ∈ host.points, p.ListsVariant v

theorem path_of_readHost (h : readHost t root entries rel = .ok host) : host.path = rel := by
  obtain ⟨text, -, hparse⟩ := except_bind_eq_ok h
  exact (HostFile.parse_eq_ok_iff.1 hparse).2.1

/-- The points of a host file are those of the registry's entries. -/
theorem entry_mem_of_readHost (h : readHost t root entries rel = .ok host) {p : ExtensionPoint}
    (hp : p ∈ host.points) : p.entry ∈ entries := by
  obtain ⟨text, -, hparse⟩ := except_bind_eq_ok h
  have hmem := (HostFile.parse_eq_ok_iff.1 hparse).2.2.entry_mem (HostFile.mem_points.1 hp)
  exact (List.mem_filter.1 hmem).1

/-- What becomes of a host file that can be read is told by registering the variant in it. -/
theorem newText_of_readHost (h : readHost t root entries rel = .ok host) :
    newText t root v (rel, entries.filter (·.path = rel)) =
      (host.register v).map HostFile.render := by
  obtain ⟨text, hread, hparse⟩ := except_bind_eq_ok h
  unfold newText
  dsimp only
  rw [FileTree.isFile?_of_readText hread]
  dsimp only
  rw [hread]
  dsimp only
  rw [hparse]
  dsimp only
  cases host.register v <;> rfl

theorem newText_eq_error_iff (h : readHost t root entries rel = .ok host) :
    newText t root v (rel, entries.filter (·.path = rel)) = .error failure ↔
      FailsFirst (HostFile.registerAt rel v) host.points failure := by
  have hregister : host.register v = .error failure ↔
      FailsFirst (HostFile.registerAt host.path v) host.points failure :=
    HostFile.register_eq_error_iff
  rw [path_of_readHost h] at hregister
  rw [newText_of_readHost h, ← hregister]
  cases host.register v <;> simp [Except.map]

/-- An insertion into groups fails with the first of them that fails. -/
theorem insertGroups_eq_error_iff {c : Changes} {gs : List Group} :
    insertGroups t root v c gs = .error failure ↔ FailsFirst (newText t root v) gs failure := by
  induction gs generalizing c with
  | nil => exact iff_of_false (by simp [insertGroups]) not_failsFirst_nil
  | cons g rest ih =>
    rw [insertGroups, failsFirst_cons]
    cases newText t root v g with
    | error e => simp
    | ok text => simp [ih]

/-- An insertion fails with the first host file that fails, in the order in which the registry
names them. -/
theorem insert_eq_error_iff :
    insert t root entries v = .error failure ↔
      FailsFirst (fun rel => newText t root v (rel, entries.filter (·.path = rel)))
        (entries.map (·.path)).eraseDups failure := by
  rw [insert, insertGroups_eq_error_iff, groups_eq, failsFirst_map]

/-! ## Duplicates -/

section Exact

variable (hv : Variant.derive name = .ok v)
  (hr : ∀ e ∈ entries, ∃ snippet, e.render v = .ok snippet)

include hv hr

/-- A host file turns a variant away that it lists, and no other. -/
theorem exists_newText_error_iff (h : readHost t root entries rel = .ok host) :
    (∃ failure, newText t root v (rel, entries.filter (·.path = rel)) = .error failure) ↔
      ListedIn t root entries v rel := by
  have hlisted : ListedIn t root entries v rel ↔ ∃ p ∈ host.points, p.ListsVariant v := by
    unfold ListedIn
    rw [h]
    simp
  simp only [newText_eq_error_iff h]
  rw [hlisted, exists_failsFirst_iff]
  refine exists_congr fun p => and_congr_right fun hp => ?_
  exact HostFile.exists_registerAt_error_iff hv (hr p.entry (entry_mem_of_readHost h hp))

/-- The failure names the first point that lists the variant, and the spelling that it shows. -/
theorem newText_eq_registered_iff (h : readHost t root entries rel = .ok host) :
    newText t root v (rel, entries.filter (·.path = rel)) = .error failure ↔
      ∃ front p back spelling, host.points = front ++ p :: back ∧
        (∀ q ∈ front, ¬ q.ListsVariant v) ∧ p.Shows v spelling ∧
        failure = .registered rel spelling p.entry.anchor := by
  have hrender {p : ExtensionPoint} (hp : p ∈ host.points) :=
    hr p.entry (entry_mem_of_readHost h hp)
  rw [newText_eq_error_iff h]
  constructor
  · rintro ⟨front, p, back, heq, hfront, hp⟩
    rw [heq] at hrender
    obtain ⟨spelling, hshows, rfl⟩ :=
      (HostFile.registerAt_eq_error_iff hv (hrender (by simp))).1 hp
    refine ⟨front, p, back, spelling, heq, fun q hq => ?_, hshows, rfl⟩
    rw [← HostFile.exists_registerAt_error_iff hv (hrender (by simp [hq])), ← exists_ok_iff]
    exact hfront q hq
  · rintro ⟨front, p, back, spelling, heq, hfront, hshows, rfl⟩
    rw [heq] at hrender
    refine ⟨front, p, back, heq, fun q hq => ?_, ?_⟩
    · rw [exists_ok_iff, HostFile.exists_registerAt_error_iff hv (hrender (by simp [hq]))]
      exact hfront q hq
    · exact (HostFile.registerAt_eq_error_iff hv (hrender (by simp))).2 ⟨spelling, hshows, rfl⟩

variable (hread : ∀ e ∈ entries, ∃ host, readHost t root entries e.path = .ok host)

include hread

theorem newText_error_iff_of_mem (hrel : rel ∈ (entries.map (·.path)).eraseDups) :
    (∃ failure, newText t root v (rel, entries.filter (·.path = rel)) = .error failure) ↔
      ListedIn t root entries v rel := by
  obtain ⟨e, he, rfl⟩ := List.mem_map.1 (List.mem_eraseDups.1 hrel)
  obtain ⟨host, h⟩ := hread e he
  exact exists_newText_error_iff hv hr h

/-- An insertion fails where some host file lists the variant. -/
theorem exists_insert_error_iff :
    (∃ failure, insert t root entries v = .error failure) ↔
      ∃ e ∈ entries, ListedIn t root entries v e.path := by
  simp only [insert_eq_error_iff, exists_failsFirst_iff]
  constructor
  · rintro ⟨rel, hrel, hfailure⟩
    obtain ⟨e, he, rfl⟩ := List.mem_map.1 (List.mem_eraseDups.1 hrel)
    exact ⟨e, he, (newText_error_iff_of_mem hv hr hread hrel).1 hfailure⟩
  · rintro ⟨e, he, h⟩
    have hrel := List.mem_eraseDups.2 (List.mem_map_of_mem (f := (·.path)) he)
    exact ⟨e.path, hrel, (newText_error_iff_of_mem hv hr hread hrel).2 h⟩

/-- The failure names the first file that lists the variant, and the first point in it. -/
theorem insert_eq_registered_iff :
    insert t root entries v = .error failure ↔
      ∃ before rel after, (entries.map (·.path)).eraseDups = before ++ rel :: after ∧
        (∀ rel' ∈ before, ¬ ListedIn t root entries v rel') ∧
        ∃ host front p back spelling, readHost t root entries rel = .ok host ∧
          host.points = front ++ p :: back ∧ (∀ q ∈ front, ¬ q.ListsVariant v) ∧
          p.Shows v spelling ∧ failure = .registered rel spelling p.entry.anchor := by
  have htakes {before after : List Text} {rel rel' : Text}
      (heq : (entries.map (·.path)).eraseDups = before ++ rel :: after) (hrel' : rel' ∈ before) :
      (∃ new, newText t root v (rel', entries.filter (·.path = rel')) = .ok new) ↔
        ¬ ListedIn t root entries v rel' := by
    rw [exists_ok_iff, newText_error_iff_of_mem hv hr hread (by simp [heq, hrel'])]
  rw [insert_eq_error_iff]
  constructor
  · rintro ⟨before, rel, after, heq, hbefore, hfails⟩
    obtain ⟨e, he, hpath⟩ := List.mem_map.1 (List.mem_eraseDups.1 (heq ▸ List.mem_append_right before
      List.mem_cons_self))
    obtain ⟨host, hhost⟩ := hread e he
    rw [hpath] at hhost
    obtain ⟨front, p, back, spelling, hfirst⟩ :=
      (newText_eq_registered_iff hv hr hhost).1 hfails
    exact ⟨before, rel, after, heq, fun rel' hrel' => (htakes heq hrel').1 (hbefore rel' hrel'),
      host, front, p, back, spelling, hhost, hfirst⟩
  · rintro ⟨before, rel, after, heq, hbefore, host, front, p, back, spelling, hhost, hfirst⟩
    exact ⟨before, rel, after, heq, fun rel' hrel' => (htakes heq hrel').2 (hbefore rel' hrel'),
      (newText_eq_registered_iff hv hr hhost).2 ⟨front, p, back, spelling, hfirst⟩⟩

end Exact

/-- **Duplicates.** Let all host files be readable and all templates show the variant. Then an
insertion turns the variant away as registered just where some host file, as it is before, lists
one of its spellings in a block, and succeeds otherwise. The rejection names the first such file in
the order of the registry, the anchor of the first such point in it, and the name of the variant
rather than its capitals. -/
theorem insert_registered_iff (hv : Variant.derive name = .ok v)
    (hread : ∀ e ∈ entries, ∃ host, readHost t root entries e.path = .ok host)
    (hr : ∀ e ∈ entries, ∃ snippet, e.render v = .ok snippet) :
    ((∃ rel spelling anchor, insert t root entries v = .error (.registered rel spelling anchor)) ↔
      ∃ e ∈ entries, ListedIn t root entries v e.path) ∧
    ((∃ changes, insert t root entries v = .ok changes) ↔
      ∀ e ∈ entries, ¬ ListedIn t root entries v e.path) ∧
    ∀ rel spelling anchor, insert t root entries v = .error (.registered rel spelling anchor) ↔
      ∃ before after, (entries.map (·.path)).eraseDups = before ++ rel :: after ∧
        (∀ rel' ∈ before, ¬ ListedIn t root entries v rel') ∧
        ∃ host front p back, readHost t root entries rel = .ok host ∧
          host.points = front ++ p :: back ∧ (∀ q ∈ front, ¬ q.ListsVariant v) ∧
          p.entry.anchor = anchor ∧ p.Shows v spelling := by
  have hfails := exists_insert_error_iff hv hr hread
  refine ⟨⟨?_, fun h => ?_⟩, ?_, fun rel spelling anchor => ⟨fun h => ?_, ?_⟩⟩
  · rintro ⟨rel, spelling, anchor, h⟩
    exact hfails.1 ⟨_, h⟩
  · obtain ⟨failure, h⟩ := hfails.2 h
    obtain ⟨-, rel, -, -, -, -, -, p, -, spelling, -, -, -, -, rfl⟩ :=
      (insert_eq_registered_iff hv hr hread).1 h
    exact ⟨rel, spelling, p.entry.anchor, h⟩
  · rw [exists_ok_iff, hfails]
    simp
  · obtain ⟨before, rel', after, heq, hbefore, host, front, p, back, spelling', hhost, hpoints,
      hfront, hshows, hfailure⟩ := (insert_eq_registered_iff hv hr hread).1 h
    cases hfailure
    exact ⟨before, after, heq, hbefore, host, front, p, back, hhost, hpoints, hfront, rfl, hshows⟩
  · rintro ⟨before, after, heq, hbefore, host, front, p, back, hhost, hpoints, hfront, rfl, hshows⟩
    exact (insert_eq_registered_iff hv hr hread).2 ⟨before, rel, after, heq, hbefore, host, front,
      p, back, spelling, hhost, hpoints, hfront, hshows, rfl⟩

/-- Of two files the second lists a variant at both its points: its capitals at the first one, beside
a low line, and its name at the second. -/
theorem insert_registered_iff_second_file :
    let t : FileTree := ⟨["w".toList], [(["w".toList], .directory),
      (["w".toList, "a.rs".toList], .file (Utf8.encode "// one\ncosh;\n\ncos;\n".toList)),
      (["w".toList, "b.rs".toList],
        .file (Utf8.encode "// two\nCOS_OP;\n\n// three\ncos;\n".toList))]⟩
    let entry := fun path anchor : String =>
      ({ path := path.toList, anchor := anchor.toList, template := "\x7bname\x7d;".toList } : Entry)
    let entries := [entry "a.rs" "// one", entry "b.rs" "// three", entry "b.rs" "// two"]
    let v : Variant := ⟨"cos".toList, "COS".toList⟩
    let root := Path.ofText []
    Variant.derive "cos".toList = .ok v ∧
      (∀ e ∈ entries, ∃ host, readHost t root entries e.path = .ok host) ∧
      (∀ e ∈ entries, ∃ snippet, e.render v = .ok snippet) ∧
      insert t root entries v = .error (.registered "b.rs".toList "COS".toList "// two".toList) ∧
      ¬ ListedIn t root entries v "a.rs".toList := by
  intro t entry entries v root
  have hv : Variant.derive "cos".toList = .ok v := by decide +kernel
  have hread : ∀ e ∈ entries, ∃ host, readHost t root entries e.path = .ok host := by
    have hall : ∀ e ∈ entries, (readHost t root entries e.path).toBool = true := by decide +kernel
    intro e he
    have h := hall e he
    cases hhost : readHost t root entries e.path with
    | error failure => rw [hhost] at h; cases h
    | ok host => exact ⟨host, rfl⟩
  have hr : ∀ e ∈ entries, ∃ snippet, e.render v = .ok snippet := by
    have hall : ∀ e ∈ entries, e.render v = .ok ["cos;".toList] := by decide +kernel
    exact fun e he => ⟨_, hall e he⟩
  have hrun : insert t root entries v =
      .error (.registered "b.rs".toList "COS".toList "// two".toList) := by decide +kernel
  obtain ⟨before, after, heq, hbefore, -⟩ := ((insert_registered_iff hv hread hr).2.2 _ _ _).1 hrun
  have hfirst : "a.rs".toList ∈ before := by
    have hpaths : before ++ "b.rs".toList :: after = ["a.rs".toList, "b.rs".toList] := by
      rw [← heq]
      decide +kernel
    cases before with
    | nil => exact absurd (List.cons.inj hpaths).1 (by decide)
    | cons rel rest => exact (List.cons.inj hpaths).1 ▸ List.mem_cons_self
  exact ⟨hv, hread, hr, hrun, hbefore _ hfirst⟩

end Insertion

end OpScaffold
