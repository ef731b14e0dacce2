import OpScaffold.Proofs.Forecast
import OpScaffold.Proofs.Independence
import OpScaffold.Proofs.Rejection
import OpScaffold.Proofs.Spelling

/-!
# OpScaffold.Proofs.Repetition

A variant is added once. Whatever the registry, a second run finds the file of the variant, unless
it already stumbles over a host file that the first one has changed (`generate_again_rejected`). In
the crate's own host files it finds the variant registered, so there it stops even if the file of
the variant is gone.
-/

namespace OpScaffold

open Text OpScaffold.Action

namespace Changes

variable {t : FileTree} {d d' : Disk} {c : Changes} {done written : List Written} {p : Path}
  {old text : Text}

theorem parts_ne_nil_of_writeAll (h : writeAll done c d = .ok written d') :
    ∀ w ∈ c, w.1.parts ≠ [] := by
  induction c generalizing done d with
  | nil => simp
  | cons w rest ih =>
    obtain ⟨p, text⟩ := w
    obtain ⟨previous, d₁, -, hw, h⟩ := writeAll_cons_eq_ok_iff.1 h
    obtain ⟨-, q, hq, -⟩ := Disk.files_of_write hw
    exact List.forall_mem_cons.2 ⟨parts_ne_nil_of_sibling? hq, ih h⟩

/-- A host file that could be read before a commit is there no longer, or can be read. -/
theorem Leaves.readable {t' : FileTree} (h : Leaves t c (t.locate p) (t.file? (t.locate p))
      (t'.file? (t.locate p)))
    (hlevel : t.Level t') (hread : t.readText p = .ok old) : Insertion.Readable t' p := by
  have hfound := hlevel.isFile?_eq (FileTree.isFile?_of_readText hread)
  have htext {new : Text} (hnew : t'.file? (t.locate p) = some (Utf8.encode new)) :
      Insertion.Readable t' p := by
    rw [hnew] at hfound
    exact .inr ⟨hfound, new, hlevel.sound.keeps.readText_eq_ok hread hnew⟩
  generalize hnew : t'.file? (t.locate p) = new at h
  cases h with
  | kept => exact htext (hnew.trans (files_of_readText hread))
  | cleared => rw [hnew] at hfound; exact .inl hfound
  | written => exact htext hnew

end Changes

namespace Generation

variable {t t' : FileTree} {root : Path} {v : Variant} {name : Text} {entries : List Entry}
  {c : Changes} {s s' s₁ : Session}

/-! ## What a generation leaves behind -/

theorem validate_of_plan (h : plan root v entries s = .ok c s') :
    Registry.validate entries = .ok () := by
  unfold plan at h
  obtain ⟨_, s₁, hvalid, -⟩ := bind_eq_ok.1 h
  exact (Run.ofExcept_eq_ok hvalid).1

/-- The templates of the host files of an insertion show the variant. -/
theorem exists_render_of_insert (h : Insertion.insert t root entries v = .ok c) :
    ∀ e ∈ entries, ∃ snippet, e.render v = .ok snippet := by
  intro e he
  obtain ⟨new, hnew⟩ := Insertion.newText_of_insert h he
  obtain ⟨-, text, added, -, hs, -⟩ := Insertion.newText_eq_ok hnew
  have hmem : e ∈ entries.filter (·.path = e.path) := List.mem_filter.2 ⟨he, by simp⟩
  obtain ⟨-, snippet, hsnippet, -⟩ := Insertion.registered_of_splice hs hmem
  exact ⟨snippet, hsnippet⟩

/-- The tree behind a generation, whatever its registry: it has the directories of before, each
place has become what the changes make of it, and the file of the variant is there. -/
structure Behind (root : Path) (v : Variant) (c : Changes) (t t' : FileTree) : Prop where
  level : t.Level t'
  leaves : ∀ l, Changes.Leaves t c l (t.file? l) (t'.file? l)
  target : t'.exists? (Exemplar.targetPath root Exemplar.standard.directory v) = .ok true

theorem behind_of_generate (hv : Variant.derive name = .ok v) (hwf : s.disk.tree.WF)
    (h : generate root v entries false s = .ok c s') :
    Behind root v c s.disk.tree s'.disk.tree := by
  obtain ⟨⟨s₁, hplan⟩, written, hcommit⟩ := generate_eq_ok h
  obtain ⟨registrations, target, text, hins, hinst, rfl⟩ := concat_of_plan hplan
  obtain ⟨htarget, hsource, -⟩ := Exemplar.instantiate_eq_ok_iff.1 hinst
  have hparts := Changes.parts_ne_nil_of_writeAll hcommit
  have hreach : ∀ w ∈ registrations ++ [(target, text)],
      s.disk.tree.ReachesDirectory w.1.parent := by
    rw [List.forall_mem_append, List.forall_mem_singleton]
    refine ⟨fun w hw => ?_, ?_⟩
    · have hfile := (Insertion.host_of_insert hins (List.mem_map_of_mem hw)).2
      exact (FileTree.isFile?_eq_true (hparts w (List.mem_append_left _ hw)) hfile).2.1
    · rw [htarget, parent_targetPath (Variant.isName_of_derive hv)]
      refine (FileTree.isFile?_eq_true ?_ hsource).2.1
      rw [child_sourcePath]
      exact List.concat_ne_nil _ _
  refine ⟨?_, Changes.leaves_of_writeAll (.refl hwf) hcommit, ?_⟩
  · rw [← after_of_ok hcommit]
    exact Changes.level_commit hwf hreach
  · rw [Changes.raw_append] at hcommit
    obtain ⟨done, d₁, hregs, hlast⟩ := Changes.writeAll_append_eq_ok.1 hcommit
    obtain ⟨previous, d₂, -, hw, hend⟩ := Changes.writeAll_cons_eq_ok_iff.1 hlast
    obtain ⟨-, rfl⟩ := EStateM.Result.ok.inj hend
    have hsound := (Changes.preserves_sound_writeAll _ [] registrations).of_ok (.refl hwf) hregs
    rw [← htarget]
    exact Changes.exists?_of_write hsound.wf hw

theorem Behind.isFile?_source (hb : Behind root v c t t')
    (hsource : t.isFile? (root.child Exemplar.standard.sourcePath) = .ok true) :
    t'.isFile? (root.child Exemplar.standard.sourcePath) = .ok true := by
  rw [hb.level.isFile?_eq hsource,
    (hb.leaves _).isSome (FileTree.isSome_file?_of_isFile? hsource)]
  intro w _ q hq
  have hname : (Path.ofText Exemplar.standard.sourcePath).name? = some "sin.rs".toList := by decide
  exact FileTree.locate_ne_of_sibling? hq (Path.name?_child (by decide) hname) (by decide)

/-! ## The second run -/

/-- With a valid registry a plan fails with its insertion, or with the file of the variant. -/
theorem plan_of_validate (root : Path) (v : Variant) (s : Session)
    (hvalid : Registry.validate entries = .ok ()) :
    ∃ s', plan root v entries s = (match Insertion.insert s.disk.tree root entries v with
      | .error e => .error e s'
      | .ok registrations => match Exemplar.standard.instantiate s.disk.tree root v with
        | .error e => .error e s'
        | .ok (target, text) => .ok (registrations.put target text) s') := by
  have hdisk (line : Text) : (after (Run.print line) s).disk = s.disk := rfl
  refine ⟨after (Run.print ("\nAdding unary function: ".toList ++ v.name ++ " (".toList ++ v.upper
    ++ "_OP)".toList)) s, ?_⟩
  unfold plan
  rw [bind_apply, Run.ofExcept_apply, hvalid]
  dsimp only
  rw [Run.print_bind, Run.tree_bind, hdisk, bind_apply, Run.ofExcept_apply]
  cases Insertion.insert s.disk.tree root entries v with
  | error e => rfl
  | ok registrations =>
    dsimp only
    rw [bind_apply, Run.ofExcept_apply]
    cases Exemplar.standard.instantiate s.disk.tree root v <;> rfl

theorem instantiate_of_taken {e : Exemplar}
    (hsource : t.isFile? (root.child e.sourcePath) = .ok true)
    (hname : v.name ≠ e.variant.name)
    (htaken : t.exists? (Exemplar.targetPath root e.directory v) = .ok true) :
    ∃ name, e.instantiate t root v = .error (.operatorExists e.directory name) := by
  unfold Exemplar.instantiate
  dsimp only
  rw [hsource, htaken]
  simp only [Exemplar.question, bind, Except.bind, Bool.not_true, Bool.false_eq_true, if_false,
    hname, if_true]
  exact ⟨_, rfl⟩

/-- Where nothing has changed since a generation no plan is made for its variant. -/
theorem plan_again_fails (hv : Variant.derive name = .ok v) (hwf : s.disk.tree.WF)
    (h : generate root v entries false s = .ok c s') (hs₁ : s₁.disk.tree = s'.disk.tree) :
    ∃ failure s₂, plan root v entries s₁ = .error failure s₂ ∧ failure.isRejection = true := by
  have hb := behind_of_generate hv hwf h
  rw [← hs₁] at hb
  obtain ⟨⟨_, hplan⟩, -⟩ := generate_eq_ok h
  obtain ⟨_, target, text, hins, hinst, rfl⟩ := concat_of_plan hplan
  obtain ⟨-, hsource, hname, -⟩ := Exemplar.instantiate_eq_ok_iff.1 hinst
  have hvalid := validate_of_plan hplan
  obtain ⟨s₂, hplan₁⟩ := plan_of_validate root v s₁ hvalid
  cases hins₁ : Insertion.insert s₁.disk.tree root entries v with
  | error failure =>
    rw [hins₁] at hplan₁
    refine ⟨failure, s₂, hplan₁, Insertion.isRejection_of_insert hvalid
      (exists_render_of_insert hins) (fun e he => ?_) hins₁⟩
    obtain ⟨new, hnew⟩ := Insertion.newText_of_insert hins he
    obtain ⟨-, old, -, hread, -⟩ := Insertion.newText_eq_ok hnew
    exact (hb.leaves _).readable hb.level hread
  | ok registrations =>
    obtain ⟨taken, hinst₁⟩ := instantiate_of_taken (hb.isFile?_source hsource) hname hb.target
    rw [hins₁, hinst₁] at hplan₁
    exact ⟨_, s₂, hplan₁, rfl⟩

/-! ## The second run in the crate -/

/-- The first host file of the crate. -/
def core : Entry := Registry.standard.head (by decide)

theorem core_mem : core ∈ Registry.standard := List.head_mem _

theorem exists_groups_standard :
    ∃ rest, Insertion.groups Registry.standard = (core.path, [core]) :: rest := ⟨_, rfl⟩

/-- Each host file of the crate gets a line with the name of the variant as a word of its own. -/
theorem exists_mem_words_snippet {e : Entry} (he : e ∈ Registry.standard)
    (hv : Variant.derive name = .ok v) : ∃ l ∈ e.snippet v, v.name ∈ l.words := by
  have hrows : ∀ e ∈ Registry.standard, ∃ row ∈ e.rows, [Template.Symbol.name] ∈
      row.splitOnP (Template.Symbol.holds fun c => !isAsciiWord c) := by decide +kernel
  obtain ⟨row, hrow, hword⟩ := hrows e he
  have havoids : Template.Avoids v fun c => !isAsciiWord c :=
    Entry.avoids hv fun c hc => by simp [hc]
  refine ⟨Template.spelled v row, List.mem_map_of_mem hrow, ?_⟩
  rw [words, havoids.splitOnP_spelled]
  exact List.mem_map.2 ⟨_, hword, List.append_nil _⟩

theorem registerParts_of_first {path : Text} {q : ExtensionPoint} {failure : Failure}
    (front : List Text) (back : List Part)
    (h : HostFile.registerAt path v q = .error failure) :
    HostFile.registerParts path v (front.map .line ++ .point q :: back) = .error failure := by
  induction front with
  | nil => rw [List.map_nil, List.nil_append, HostFile.registerParts, h]
  | cons l rest ih => rw [List.map_cons, List.cons_append, HostFile.registerParts, ih]

/-- In a host file of the crate that was extended the variant is found. -/
theorem newText_again {e : Entry} {old : Text} {host : HostFile} (he : e ∈ Registry.standard)
    (hv : Variant.derive name = .ok v) (hreg : Registers t root v e old host)
    (hplain : BreaksPlainly old)
    (hread : t'.readText (root.child e.path) = .ok (host.extend (·.snippet v)).render) :
    Insertion.newText t' root v (e.path, [e]) = .error (.registered e.path v.name e.anchor) := by
  obtain ⟨-, hparse⟩ := hreg.parse_extend he hv hplain
  obtain ⟨front, p, back, hp, rfl⟩ := exists_point he hreg.parsed
  have hentry : (p.append (e.snippet v)).entry = e := by rw [ExtensionPoint.append_entry, hp]
  have htoken : (p.append (e.snippet v)).hasToken v.name = true := by
    obtain ⟨hne, hword⟩ := Variant.isWord_of_derive hv (.inl rfl)
    exact (ExtensionPoint.hasToken_append hne hword).2 (.inr (exists_mem_words_snippet he hv))
  have hat : HostFile.registerAt e.path v (p.append (e.snippet v)) =
      .error (.registered e.path v.name e.anchor) := by
    rw [HostFile.registerAt, if_pos htoken, hentry]
  rw [extend_point hp] at hparse hread
  unfold Insertion.newText
  dsimp only
  rw [FileTree.isFile?_of_readText hread]
  dsimp only
  rw [hread]
  dsimp only
  rw [hparse]
  dsimp only
  rw [HostFile.register, registerParts_of_first _ _ hat]
  rfl

/-- The host files of the crate hold their new texts: each is written once, and none is named like
a temporary sibling. -/
theorem Behind.readText_host {e : Entry} {old new : Text} (hb : Behind root v c t t')
    (hplan : Planned t root v c) (hv : Variant.derive name = .ok v) (he : e ∈ Registry.standard)
    (hread : t.readText (root.child e.path) = .ok old) (hnew : (root.child e.path, new) ∈ c) :
    t'.readText (root.child e.path) = .ok new := by
  refine hb.level.sound.keeps.readText_eq_ok hread ?_
  have hnodup : (c.map fun w => t.locate w.1).Nodup := by
    have hkeys := hplan.nodup_locations (Variant.isName_of_derive hv)
    rwa [← hplan.keys, List.map_map] at hkeys
  have hleaves := hb.leaves (t.locate (root.child e.path))
  generalize t'.file? (t.locate (root.child e.path)) = bytes at hleaves
  cases hleaves with
  | kept hnot => exact absurd rfl (hnot _ hnew)
  | cleared _ hq hl => exact absurd hl (locate_sibling_ne_host hq he)
  | written hw hl =>
    cases List.inj_on_of_nodup_map hnodup hw hnew hl
    rfl

/-- Behind a generation in the crate a run for the same variant stops at the first host file, even
if the file of the variant is gone. -/
theorem plan_again_fails_standard (hv : Variant.derive name = .ok v) (hwf : s.disk.tree.WF)
    (hplain : BreakPlainly s.disk.tree root)
    (h : generate root v Registry.standard false s = .ok c s')
    (hs₁ : s₁.disk.tree = s'.disk.tree ∨ s'.disk.tree.unlink
      (Exemplar.targetPath root Exemplar.standard.directory v) = .ok s₁.disk.tree) :
    ∃ s₂, plan root v Registry.standard s₁ =
      .error (.registered core.path v.name core.anchor) s₂ := by
  have hb := behind_of_generate hv hwf h
  obtain ⟨⟨_, hp⟩, -⟩ := generate_eq_ok h
  have hplan := planned_of_plan hp
  obtain ⟨registrations, text, hins, -, rfl⟩ := plan_standard_eq_ok hp
  obtain ⟨old, host, hreg, hmem⟩ := insert_standard hv hins core_mem
  have hread := hb.readText_host hplan hv core_mem hreg.read (List.mem_append_left _ hmem)
  have hread₁ : s₁.disk.tree.readText (root.child core.path) =
      .ok (host.extend (·.snippet v)).render := by
    rcases hs₁ with hs₁ | hunlink
    · rw [hs₁]
      exact hread
    · refine FileTree.readText_of_unlink hb.level.sound.wf hunlink ?_ hread
      rw [hb.level.sound.keeps.locate_eq, hb.level.sound.keeps.locate_eq]
      have hnodup := hplan.nodup_locations (Variant.isName_of_derive hv)
      rw [map_locate_touched] at hnodup
      exact fun heq => (List.nodup_append.1 hnodup).2.2 _ (List.mem_map_of_mem core_mem) _
        (List.mem_singleton_self _) heq
  have hnew := newText_again core_mem hv hreg (hplain core core_mem old hreg.read) hread₁
  have hins₁ : Insertion.insert s₁.disk.tree root Registry.standard v =
      .error (.registered core.path v.name core.anchor) := by
    obtain ⟨rest, hgroups⟩ := exists_groups_standard
    rw [Insertion.insert, hgroups, Insertion.insertGroups, hnew]
  obtain ⟨s₂, hplan₁⟩ := plan_of_validate root v s₁ (validate_of_plan hp)
  rw [hins₁] at hplan₁
  exact ⟨s₂, hplan₁⟩

/-- **Repetition.** Behind a generation that succeeded, adding the same variant again fails with a
fault of the registry or because the variant is there already, and leaves the disk as it is. In the
crate, if its host files break lines by LF and CR LF alone, the variant is found in the first host
file, even if its own file was removed. -/
theorem generate_again_rejected (hv : Variant.derive name = .ok v) (hwf : s.disk.tree.WF)
    (h : generate root v entries false s = .ok c s') :
    (∀ s₁ : Session, s₁.disk.tree = s'.disk.tree → ∃ failure s₂,
      generate root v entries false s₁ = .error failure s₂ ∧ failure.isRejection = true ∧
        s₂.disk = s₁.disk) ∧
    (entries = Registry.standard → BreakPlainly s.disk.tree root →
      ∀ s₁ : Session, s₁.disk.tree = s'.disk.tree ∨ s'.disk.tree.unlink
          (Exemplar.targetPath root Exemplar.standard.directory v) = .ok s₁.disk.tree →
        ∃ s₂, generate root v entries false s₁ = .error (.registered "src/float/core.rs".toList
            v.name "// unary functions".toList) s₂ ∧ s₂.disk = s₁.disk) := by
  have hfails {s₁ s₂ : Session} {failure : Failure}
      (hplan : plan root v entries s₁ = .error failure s₂) :
      generate root v entries false s₁ = .error failure s₂ ∧ s₂.disk = s₁.disk :=
    ⟨generate_of_plan_eq_error hplan false, ((talks_plan _ _ _ s₁).of_error (.refl s₁) hplan).disk⟩
  constructor
  · intro s₁ hs₁
    obtain ⟨failure, s₂, hplan, hrejection⟩ := plan_again_fails hv hwf h hs₁
    exact ⟨failure, s₂, (hfails hplan).1, hrejection, (hfails hplan).2⟩
  · rintro rfl hplain s₁ hs₁
    obtain ⟨s₂, hplan⟩ := plan_again_fails_standard hv hwf hplain h hs₁
    exact ⟨s₂, hfails hplan⟩

/-- An operator is added to a crate without operators. The second run for it finds it in the first
host file, and so does a run behind the removal of its file. -/
theorem generate_again_rejected_cos :
    let directory := fun names : List String => (names.map String.toList, Node.directory)
    let file := fun (names : List String) (text : String) =>
      (names.map String.toList, Node.file (Utf8.encode text.toList))
    let tree : FileTree := ⟨["w".toList], [
      directory ["w"], directory ["w", "src"], directory ["w", "src", "float"],
      directory ["w", "src", "ad"], directory ["w", "src", "op"],
      file ["w", "src", "float", "core.rs"] "// unary functions\r\n",
      file ["w", "src", "float", "az_float.rs"] "// unary functions\r\n",
      file ["w", "src", "float", "num_vec.rs"] "// unary functions\r\n",
      file ["w", "src", "ad", "float_core.rs"] "// unary functions\r\n",
      file ["w", "src", "op", "id.rs"] "// Unary Operators\r\n",
      file ["w", "src", "op", "sin.rs"] "sin"]⟩
    let s : Session := { disk := { tree } }
    let root := Path.ofText "./".toList
    let cos : Variant := ⟨"cos".toList, "COS".toList⟩
    let again := generate root cos Registry.standard false
    ∃ c s' t, again s = .ok c s' ∧
      s'.disk.tree.unlink (Exemplar.targetPath root Exemplar.standard.directory cos) = .ok t ∧
      (∃ failure s₂, again s' = .error failure s₂ ∧ failure.isRejection = true ∧
        s₂.disk = s'.disk) ∧
      ∃ s₂, again { disk := { tree := t } } = .error (.registered "src/float/core.rs".toList
        "cos".toList "// unary functions".toList) s₂ ∧ s₂.disk = { tree := t } := by
  intro directory file tree s root cos again
  have hwf : tree.WF := FileTree.wf_of_nodes (by decide +kernel)
  have hplain : BreakPlainly tree root := breakPlainly_of_anchors (by decide +kernel)
  have hremoves : (match again s with
      | .ok _ s' => (s'.disk.tree.unlink
          (Exemplar.targetPath root Exemplar.standard.directory cos)).toBool
      | .error _ _ => false) = true := by
    decide +kernel
  have hcos : Variant.derive "cos".toList = .ok cos := by decide +kernel
  cases h : again s with
  | error failure s' => rw [h] at hremoves; cases hremoves
  | ok c s' =>
    rw [h] at hremoves
    dsimp only at hremoves
    obtain ⟨hrejected, hregistered⟩ := generate_again_rejected hcos hwf h
    cases ht : s'.disk.tree.unlink (Exemplar.targetPath root Exemplar.standard.directory cos) with
    | error failure => rw [ht] at hremoves; cases hremoves
    | ok t => exact ⟨c, s', t, rfl, ht, hrejected s' rfl, hregistered rfl hplain _ (.inr ht)⟩

end Generation

end OpScaffold
