import OpScaffold.Proofs.Changes
import OpScaffold.Proofs.Insertion
import OpScaffold.Proofs.Session
import OpScaffold.Proofs.Variant

/-!
# OpScaffold.Proofs.Plan

A plan that was made in a tree changes the five host files and adds the file of the variant
(`planned_of_plan`). All of them lie in directories that are there, at different places, and where
no temporary sibling stands beside them they can be committed (`Planned.apart`).
-/

namespace OpScaffold

open OpScaffold.Action

namespace Exemplar

variable {t : FileTree} {root target : Path} {v : Variant} {text : Text}

theorem question_eq_ok {α : Type} {x : Except FileError α} {a : α} (h : question x = .ok a) :
    x = .ok a := by
  cases x <;> cases h
  rfl

/-- A file is made after the exemplar where the exemplar is there, is not meant itself, and the new
file is not there; its text is what the exemplar's template shows. -/
theorem instantiate_eq_ok_iff {e : Exemplar} : e.instantiate t root v = .ok (target, text) ↔
    target = targetPath root e.directory v ∧ t.isFile? (root.child e.sourcePath) = .ok true ∧
      v.name ≠ e.variant.name ∧ t.exists? target = .ok false ∧
      ∃ source, t.readText (root.child e.sourcePath) = .ok source ∧
        Template.render (template source e.variant) v = .ok text := by
  unfold instantiate
  constructor
  · intro h
    obtain ⟨found, hsource, h⟩ := except_bind_eq_ok h
    cases found with
    | false => cases h
    | true =>
      simp only [Bool.not_true, Bool.false_eq_true, if_false] at h
      split at h
      · cases h
      · next hname =>
        obtain ⟨taken, htarget, h⟩ := except_bind_eq_ok h
        cases taken with
        | true => cases h
        | false =>
          simp only [Bool.false_eq_true, if_false] at h
          obtain ⟨source, hread, h⟩ := except_bind_eq_ok h
          split at h
          · cases h
          · next shown hrender =>
            cases h
            exact ⟨rfl, question_eq_ok hsource, hname, question_eq_ok htarget, source, hread,
              hrender⟩
  · rintro ⟨rfl, hsource, hname, htarget, source, hread, hrender⟩
    dsimp only
    rw [hsource, htarget, hread]
    simp only [question, bind, Except.bind, Bool.not_true, Bool.false_eq_true, if_false, hname,
      hrender]
    rfl

end Exemplar

namespace Generation

variable {t : FileTree} {root : Path} {v : Variant} {c : Changes} {s s' : Session}

theorem plan_eq_ok {entries : List Entry} (h : plan root v entries s = .ok c s') :
    ∃ registrations target text,
      Insertion.insert s.disk.tree root entries v = .ok registrations ∧
      Exemplar.standard.instantiate s.disk.tree root v = .ok (target, text) ∧
      c = registrations.put target text := by
  unfold plan at h
  obtain ⟨_, s₁, hvalid, h⟩ := bind_eq_ok.1 h
  rw [Run.print_bind] at h
  have hs : s.SameGround (after (Run.print ("\nAdding unary function: ".toList ++ v.name ++
      " (".toList ++ v.upper ++ "_OP)".toList)) s₁) :=
    Run.talks_print _ s s₁ ((Run.talks_ofExcept _ s).of_ok (.refl s) hvalid)
  obtain ⟨tree, s₂, htree, h⟩ := bind_eq_ok.1 h
  cases htree
  obtain ⟨registrations, s₃, h₃, h⟩ := bind_eq_ok.1 h
  obtain ⟨hins, rfl⟩ := Run.ofExcept_eq_ok h₃
  obtain ⟨⟨target, text⟩, s₄, h₄, h⟩ := bind_eq_ok.1 h
  obtain ⟨hinst, rfl⟩ := Run.ofExcept_eq_ok h₄
  cases h
  rw [hs.disk] at hins hinst
  exact ⟨registrations, target, text, hins, hinst, rfl⟩

/-- The paths of the files that adding a variant writes. -/
def touched (root : Path) (v : Variant) : List Path :=
  Registry.standard.map (fun e => root.child e.path) ++
    [Exemplar.targetPath root Exemplar.standard.directory v]

/-- A plan made in a tree: it changes the host files, whose texts grow, and adds the file of the
variant, which is not there, beside that of the exemplar. -/
structure Planned (t : FileTree) (root : Path) (v : Variant) (c : Changes) : Prop where
  keys : c.map (·.1) = touched root v
  hosts : ∀ e ∈ Registry.standard, t.isFile? (root.child e.path) = .ok true ∧
    ∃ old new, t.readText (root.child e.path) = .ok old ∧ (root.child e.path, new) ∈ c ∧
      old.length < new.length
  source : t.isFile? (root.child Exemplar.standard.sourcePath) = .ok true
  fresh : t.exists? (Exemplar.targetPath root Exemplar.standard.directory v) = .ok false

theorem isPlain_of_mem_standard {e : Entry} (he : e ∈ Registry.standard) :
    (Path.ofText e.path).IsPlain := by
  revert e
  decide

theorem eq_of_child_eq {e e' : Entry} (he : e ∈ Registry.standard) (he' : e' ∈ Registry.standard)
    (h : root.child e.path = root.child e'.path) : e.path = e'.path := by
  have hinj : ∀ e ∈ Registry.standard, ∀ e' ∈ Registry.standard,
      (Path.ofText e.path).parts = (Path.ofText e'.path).parts → e.path = e'.path := by decide
  rw [Path.child_eq (isPlain_of_mem_standard he).origin,
    Path.child_eq (isPlain_of_mem_standard he').origin] at h
  exact hinj e he e' he' (List.append_cancel_left (congrArg Path.parts h))

/-- A plan has the registrations, and the file of the variant, which is none of the host files,
behind them. -/
theorem plan_standard_eq_ok (h : plan root v Registry.standard s = .ok c s') :
    ∃ registrations text,
      Insertion.insert s.disk.tree root Registry.standard v = .ok registrations ∧
      Exemplar.standard.instantiate s.disk.tree root v =
        .ok (Exemplar.targetPath root Exemplar.standard.directory v, text) ∧
      c = registrations ++ [(Exemplar.targetPath root Exemplar.standard.directory v, text)] := by
  obtain ⟨registrations, target, text, hins, hinst, rfl⟩ := plan_eq_ok h
  obtain ⟨hkeys, hnew⟩ := Insertion.insert_eq_ok (fun _ he _ he' => eq_of_child_eq he he') hins
  obtain ⟨rfl, -, -, hfresh, -⟩ := Exemplar.instantiate_eq_ok_iff.1 hinst
  refine ⟨registrations, text, hins, hinst, Insertion.put_of_not_mem (fun hm => ?_) text⟩
  rw [hkeys] at hm
  obtain ⟨rel, hrel, heq⟩ := List.mem_map.1 hm
  obtain ⟨new, -, ht⟩ := hnew rel (List.mem_eraseDups.1 hrel)
  have hfound := FileTree.exists_of_isFile (Insertion.newText_eq_ok ht).1
  rw [heq, hfresh] at hfound
  cases hfound

/-- A plan that is made is one in the tree that it meets. -/
theorem planned_of_plan (h : plan root v Registry.standard s = .ok c s') :
    Planned s.disk.tree root v c := by
  obtain ⟨registrations, text, hins, hinst, rfl⟩ := plan_standard_eq_ok h
  obtain ⟨hkeys, hnew⟩ := Insertion.insert_eq_ok (fun _ he _ he' => eq_of_child_eq he he') hins
  obtain ⟨-, hsource, -, hfresh, -⟩ := Exemplar.instantiate_eq_ok_iff.1 hinst
  have hpaths : (Registry.standard.map (·.path)).eraseDups = Registry.standard.map (·.path) := by
    decide
  rw [hpaths, List.map_map] at hkeys
  refine ⟨by rw [List.map_append, hkeys]; rfl, fun e he => ?_, hsource, hfresh⟩
  obtain ⟨new, hmem, ht⟩ := hnew e.path (List.mem_map_of_mem he)
  obtain ⟨hfile, old, added, hread, hs, rfl⟩ := Insertion.newText_eq_ok ht
  have hlt := hs.length_lt (e := e) (List.mem_filter.2 ⟨he, by simp⟩)
  rw [Text.flatten_lines] at hlt
  exact ⟨hfile, old, _, hread, List.mem_append_left _ hmem, hlt⟩

/-! ## The place of a plan -/

/-- The name of the file of a variant. -/
def fileName (v : Variant) : Text := v.name ++ ".rs".toList

theorem not_mem_fileName {x : Char} (h : Variant.isName v.name = true)
    (hx : Variant.isNameChar x = false) (hrs : x ∉ ".rs".toList) : x ∉ fileName v := by
  intro hm
  rcases List.mem_append.1 hm with hm | hm
  · rw [Variant.isNameChar_of_mem h hm] at hx
    cases hx
  · exact hrs hm

/-- The name of the file does not start with a point. -/
theorem fileName_ne_cons (h : Variant.isName v.name = true) (rest : Text) :
    fileName v ≠ '.' :: rest := by
  intro heq
  cases hv : v.name with
  | nil => rw [hv] at h; cases h
  | cons x name =>
    rw [fileName, hv, List.cons_append, List.cons.injEq] at heq
    have hx := Variant.isNameChar_of_mem h (hv ▸ List.mem_cons_self)
    rw [heq.1] at hx
    revert hx
    decide

/-- The file of a variant stands beside that of the exemplar. -/
theorem targetPath_eq (h : Variant.isName v.name = true) :
    Exemplar.targetPath root Exemplar.standard.directory v =
      { root with parts := root.parts ++ ["src".toList, "op".toList] ++ [fileName v] } := by
  have hname : Path.ofText (fileName v) = ⟨.here, [fileName v]⟩ := by
    refine Path.ofText_of_not_mem (not_mem_fileName h (by decide) (by decide)) ?_
    have hlen : (fileName v).length ≠ 1 := by simp [fileName]
    rw [Path.isComponent, Bool.and_eq_true]
    refine ⟨by simp [fileName], ?_⟩
    rw [bne_iff_ne]
    exact fun heq => hlen (by rw [heq]; rfl)
  have hdir : Path.ofText Exemplar.standard.directory = ⟨.here, ["src".toList, "op".toList]⟩ := by
    decide
  have hname' : Path.ofText (v.name ++ ".rs".toList) = ⟨.here, [fileName v]⟩ := hname
  rw [Exemplar.targetPath, Path.child_eq (by rw [hname']), hname', Path.child_eq (by rw [hdir]),
    hdir]

theorem name?_targetPath (h : Variant.isName v.name = true) :
    (Exemplar.targetPath root Exemplar.standard.directory v).name? = some (fileName v) := by
  rw [targetPath_eq h]
  exact List.getLast?_concat ..

theorem child_sourcePath (root : Path) : root.child Exemplar.standard.sourcePath =
    { root with parts := root.parts ++ ["src".toList, "op".toList] ++ ["sin.rs".toList] } := by
  have hsource : Path.ofText Exemplar.standard.sourcePath =
      ⟨.here, ["src".toList, "op".toList, "sin.rs".toList]⟩ := by decide
  rw [Path.child_eq (by rw [hsource]), hsource, List.append_assoc]
  rfl

theorem parent_targetPath (h : Variant.isName v.name = true) :
    (Exemplar.targetPath root Exemplar.standard.directory v).parent =
      (root.child Exemplar.standard.sourcePath).parent := by
  rw [targetPath_eq h, child_sourcePath, Path.parent, Path.parent, List.dropLast_concat,
    List.dropLast_concat]

theorem parts_host_ne_nil {e : Entry} (he : e ∈ Registry.standard) :
    (root.child e.path).parts ≠ [] := by
  have hne : ∀ e ∈ Registry.standard, (Path.ofText e.path).parts ≠ [] := by decide
  rw [Path.child_eq (isPlain_of_mem_standard he).origin]
  exact List.append_ne_nil_of_right_ne_nil _ (hne e he)

/-- No host file is named like a temporary sibling. -/
theorem locate_sibling_ne_host {p q : Path} {e : Entry} (hq : p.sibling? = some q)
    (he : e ∈ Registry.standard) : t.locate q ≠ t.locate (root.child e.path) := by
  have hnames : ∀ e ∈ Registry.standard, ∃ n ∈ (Path.ofText e.path).name?,
      n.head? ≠ some '.' := by decide
  obtain ⟨n, hn, hdot⟩ := hnames e he
  exact FileTree.locate_ne_of_sibling? hq
    (Path.name?_child (isPlain_of_mem_standard he).origin hn) hdot

namespace Planned

variable (hplan : Planned t root v c) (hname : Variant.isName v.name = true)

include hplan

theorem file?_host {e : Entry} (he : e ∈ Registry.standard) :
    (t.file? (t.locate (root.child e.path))).isSome ∧
      t.ReachesDirectory (root.child e.path).parent := by
  obtain ⟨hfile, hreach, -⟩ :=
    FileTree.isFile?_eq_true (parts_host_ne_nil he) (hplan.hosts e he).1
  exact ⟨hfile, hreach⟩

theorem reachesDirectory_source :
    t.ReachesDirectory (root.child Exemplar.standard.sourcePath).parent ∧
      (root.child Exemplar.standard.sourcePath).hasNull = false := by
  have hparts : (root.child Exemplar.standard.sourcePath).parts ≠ [] := by
    rw [child_sourcePath]
    exact List.concat_ne_nil _ _
  exact (FileTree.isFile?_eq_true hparts hplan.source).2

include hname

/-- All files of a plan lie in directories that are there. -/
theorem reachesDirectory {p : Path} (hp : p ∈ touched root v) : t.ReachesDirectory p.parent := by
  rcases List.mem_append.1 hp with hp | hp
  · obtain ⟨e, he, rfl⟩ := List.mem_map.1 hp
    exact (hplan.file?_host he).2
  · obtain rfl := List.mem_singleton.1 hp
    rw [parent_targetPath hname]
    exact hplan.reachesDirectory_source.1

theorem hasNull_target :
    (Exemplar.targetPath root Exemplar.standard.directory v).hasNull = false := by
  have hfile : Char.ofNat 0 ∉ fileName v := not_mem_fileName hname (by decide) (by decide)
  have hsource := hplan.reachesDirectory_source.2
  rw [child_sourcePath, Path.hasNull, List.any_append, Bool.or_eq_false_iff] at hsource
  rw [targetPath_eq hname, Path.hasNull, List.any_append, hsource.1]
  simpa using hfile

/-- Where the file of the variant is to stand there is nothing. -/
theorem node?_target :
    t.node? (t.locate (Exemplar.targetPath root Exemplar.standard.directory v)) = none :=
  FileTree.node?_of_exists?_eq_false (hplan.reachesDirectory hname (by simp [touched]))
    (hplan.hasNull_target hname) hplan.fresh

theorem nodup_locations : ((touched root v).map t.locate).Nodup := by
  have hparts : (Registry.standard.map fun e => (Path.ofText e.path).parts).Nodup := by decide
  have hhosts : ((Registry.standard.map fun e => root.child e.path).map t.locate) =
      (Registry.standard.map fun e => (Path.ofText e.path).parts).map (t.locate root ++ ·) := by
    rw [List.map_map, List.map_map]
    exact List.map_congr_left fun e he => FileTree.locate_child (isPlain_of_mem_standard he)
  rw [touched, List.map_append, hhosts, List.nodup_append]
  refine ⟨hparts.map fun _ _ => List.append_cancel_left, by simp, fun l hl l' hl' heq => ?_⟩
  rw [← hhosts, List.map_map] at hl
  obtain ⟨e, he, rfl⟩ := List.mem_map.1 hl
  rw [List.map_singleton, List.mem_singleton] at hl'
  have hfile := (hplan.file?_host he).1
  rw [Function.comp_apply] at heq
  rw [heq, hl', FileTree.file?, hplan.node?_target hname] at hfile
  cases hfile

/-- No file of a plan stands where the temporary sibling of another is to stand. -/
theorem locate_sibling_not_mem {p q : Path} (hq : p.sibling? = some q)
    (hnone : t.file? (t.locate q) = none) : t.locate q ∉ (touched root v).map t.locate := by
  intro hm
  obtain ⟨p', hp', heq⟩ := List.mem_map.1 hm
  rcases List.mem_append.1 hp' with hp' | hp'
  · obtain ⟨e, he, rfl⟩ := List.mem_map.1 hp'
    have hfile := (hplan.file?_host he).1
    rw [heq, hnone] at hfile
    cases hfile
  · -- the name of a sibling starts with a point, that of a variant does not
    obtain rfl := List.mem_singleton.1 hp'
    refine FileTree.locate_ne_of_sibling? hq (name?_targetPath hname) (fun hdot => ?_) heq.symm
    obtain ⟨rest, hrest⟩ := List.head?_eq_some_iff.1 hdot
    exact fileName_ne_cons hname rest hrest

theorem apart (hs : ∀ p ∈ touched root v, ∀ q, p.sibling? = some q →
    t.file? (t.locate q) = none) : Changes.Apart t (c.map (·.1)) := by
  rw [hplan.keys]
  refine ⟨hplan.nodup_locations hname, fun p hp q hq => ?_, fun p hp => ?_⟩
  · exact ⟨hs p hp q hq, hplan.locate_sibling_not_mem hname hq (hs p hp q hq)⟩
  · exact Changes.tells_of_reachesDirectory (hplan.reachesDirectory hname hp)

end Planned

end Generation

end OpScaffold
