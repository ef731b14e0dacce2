import OpScaffold.Proofs.Success

/-!
# OpScaffold.Proofs.Independence

Variants do not get in the way of one another. Adding one leaves the tree as ready for another as
it was (`Generated.ready_iff`), and two variants may be added in either order: what is left behind
differs in the order of their lines in the host files alone (`generations_commute`).
-/

namespace OpScaffold

open Text OpScaffold.Action

namespace Generation

variable {t t' t'' : FileTree} {root : Path} {v v₁ v₂ : Variant} {name n₁ n₂ : Text} {e : Entry}
  {old : Text} {host : HostFile}

/-- Whether the host files of the crate break lines by LF and CR LF alone. -/
def BreakPlainly (t : FileTree) (root : Path) : Prop :=
  ∀ e ∈ Registry.standard, ∀ old, t.readText (root.child e.path) = .ok old → BreaksPlainly old

/-- Host files that have no line but their anchors. -/
theorem breakPlainly_of_anchors (h : ∀ e ∈ Registry.standard,
    t.readText (root.child e.path) = .ok (e.anchor ++ "\r\n".toList)) : BreakPlainly t root := by
  intro e he old hold
  obtain rfl := Except.ok.inj ((h e he).symm.trans hold)
  have hanchor : ∀ e ∈ Registry.standard, Unbroken e.anchor := by decide
  have hlined : WellLined [e.anchor ++ "\r\n".toList] :=
    .cons ⟨_, _, hanchor e he, .inr rfl, rfl⟩ .nil
  simpa using hlined.breaksPlainly

/-! ## The second of two variants -/

/-- The texts of the host files behind a generation are read as the extended files. -/
theorem Registers.parse_extend (h : Registers t root v e old host) (he : e ∈ Registry.standard)
    (hv : Variant.derive name = .ok v) (hplain : BreaksPlainly old) :
    BreaksPlainly (host.extend (·.snippet v)).render ∧
      HostFile.parse e.path (host.extend (·.snippet v)).render [e] =
        .ok (host.extend (·.snippet v)) :=
  HostFile.parse_extend h.parsed hplain fun e' he' => by
    rw [List.mem_singleton.1 he']
    exact Registry.clean_snippet he hv

/-- A variant can be registered in an extended host file just where it could be before. -/
theorem isUnregistered_extend_iff (he : e ∈ Registry.standard)
    (hparse : HostFile.parse e.path old [e] = .ok host)
    (hv₁ : Variant.derive n₁ = .ok v₁) (hv₂ : Variant.derive n₂ = .ok v₂) (hne : n₁ ≠ n₂)
    (hown : n₂ ∉ Registry.ownWords) :
    HostFile.IsUnregistered v₂ (host.extend (·.snippet v₁)).parts ↔
      HostFile.IsUnregistered v₂ host.parts :=
  HostFile.isUnregistered_extend (Variant.isWord_of_derive hv₂ (.inl rfl))
    (Variant.isWord_of_derive hv₂ (.inr rfl)) fun p hp l hl => by
      rw [entry_eq hparse hp] at hl
      exact Registry.not_mem_words_snippet he hv₁ hv₂ hne hown hl

theorem Generated.registers_iff (h : Generated root v₁ t t') (he : e ∈ Registry.standard)
    (hv₁ : Variant.derive n₁ = .ok v₁) (hv₂ : Variant.derive n₂ = .ok v₂) (hne : n₁ ≠ n₂)
    (hown : n₂ ∉ Registry.ownWords) (hplain : BreakPlainly t root) :
    (∃ old host, Registers t' root v₂ e old host) ↔ ∃ old host, Registers t root v₂ e old host := by
  obtain ⟨old, host, hreg, hread⟩ := h.hosts e he
  obtain ⟨-, hparse⟩ := hreg.parse_extend he hv₁ (hplain e he old hreg.read)
  have hun := isUnregistered_extend_iff he hreg.parsed hv₁ hv₂ hne hown
  constructor
  · rintro ⟨old', host', h'⟩
    obtain rfl : _ = old' := Except.ok.inj (hread.symm.trans h'.read)
    obtain rfl : _ = host' := Except.ok.inj (hparse.symm.trans h'.parsed)
    exact ⟨old, host, hreg.read, hreg.parsed, hun.1 h'.unregistered⟩
  · rintro ⟨old', host', h'⟩
    obtain rfl : old = old' := Except.ok.inj (hreg.read.symm.trans h'.read)
    obtain rfl : host = host' := Except.ok.inj (hreg.parsed.symm.trans h'.parsed)
    exact ⟨_, _, hread, hparse, hun.2 h'.unregistered⟩

/-- The files of different variants stand at different places. -/
theorem locate_target_ne (t : FileTree) (root : Path) (hv₁ : Variant.derive n₁ = .ok v₁)
    (hv₂ : Variant.derive n₂ = .ok v₂) (hne : n₁ ≠ n₂) :
    t.locate (Exemplar.targetPath root Exemplar.standard.directory v₁) ≠
      t.locate (Exemplar.targetPath root Exemplar.standard.directory v₂) := by
  have hlast {name : Text} {v : Variant} (hv : Variant.derive name = .ok v) :
      (t.locate (Exemplar.targetPath root Exemplar.standard.directory v)).getLast? =
        some (fileName v) := by
    have hname := Variant.isName_of_derive hv
    exact FileTree.getLast?_locate (name?_targetPath hname) (fileName_ne_cons hname _)
  intro heq
  have hsame := hlast hv₁
  rw [heq, hlast hv₂, Option.some.injEq] at hsame
  have hnames : v₂.name = v₁.name := List.append_cancel_right hsame
  rw [(Variant.derive_eq_ok hv₁).2, (Variant.derive_eq_ok hv₂).2] at hnames
  exact hne hnames.symm

namespace Generated

variable (h : Generated root v t t')

include h

/-- The source of the exemplar is none of the files that are written. -/
theorem locate_source_not_mem :
    t.locate (root.child Exemplar.standard.sourcePath) ∉ (touched root v).map t.locate := by
  intro hm
  obtain ⟨p, hp, heq⟩ := List.mem_map.1 hm
  rcases List.mem_append.1 hp with hp | hp
  · obtain ⟨e, he, rfl⟩ := List.mem_map.1 hp
    have hplain : (Path.ofText Exemplar.standard.sourcePath).IsPlain := by decide
    have hparts : ∀ e ∈ Registry.standard,
        (Path.ofText e.path).parts ≠ (Path.ofText Exemplar.standard.sourcePath).parts := by decide
    rw [FileTree.locate_child (isPlain_of_mem_standard he), FileTree.locate_child hplain] at heq
    exact hparts e he (List.append_cancel_left heq)
  · rw [List.mem_singleton.1 hp] at heq
    obtain ⟨source, hsource, -⟩ := h.file
    have hbytes := FileTree.file?_eq_some.1 (Changes.files_of_readText hsource)
    rw [← heq, h.added.fresh.1] at hbytes
    cases hbytes

theorem readText_source {source : Text}
    (hsource : t.readText (root.child Exemplar.standard.sourcePath) = .ok source) :
    t'.readText (root.child Exemplar.standard.sourcePath) = .ok source := by
  refine h.level.sound.keeps.readText_eq_ok hsource ?_
  rw [FileTree.file?, h.added.rest _ h.locate_source_not_mem]
  exact Changes.files_of_readText hsource

/-- Something stands where something stood, save for the file of the variant. -/
theorem isSome_node? {l : Location}
    (hl : l ≠ t.locate (Exemplar.targetPath root Exemplar.standard.directory v)) :
    (t'.node? l).isSome = (t.node? l).isSome := by
  by_cases hm : l ∈ (touched root v).map t.locate
  · obtain ⟨p, hp, rfl⟩ := List.mem_map.1 hm
    rcases List.mem_append.1 hp with hp | hp
    · obtain ⟨e, he, rfl⟩ := List.mem_map.1 hp
      obtain ⟨old, new, hold, hnew, -⟩ := h.added.hosts e he
      rw [FileTree.file?_eq_some.1 hold, FileTree.file?_eq_some.1 hnew]
      rfl
    · exact absurd (congrArg t.locate (List.mem_singleton.1 hp)) hl
  · rw [h.added.rest l hm]

end Generated

/-- Behind a generation the tree is as ready for another variant as it was. -/
theorem Generated.ready_iff (h : Generated root v₁ t t') (hv₁ : Variant.derive n₁ = .ok v₁)
    (hv₂ : Variant.derive n₂ = .ok v₂) (hne : n₁ ≠ n₂) (hown : n₂ ∉ Registry.ownWords)
    (hplain : BreakPlainly t root) : Ready t' root v₂ ↔ Ready t root v₂ := by
  have hhosts {e : Entry} (he : e ∈ Registry.standard) :=
    h.registers_iff he hv₁ hv₂ hne hown hplain
  have hfresh := h.level.exists?_eq (h.isSome_node? (locate_target_ne t root hv₁ hv₂ hne).symm)
  obtain ⟨source, hsource, -⟩ := h.file
  constructor
  · intro hr
    exact ⟨fun e he => (hhosts he).1 (hr.hosts e he), ⟨source, hsource⟩, hr.name,
      hfresh ▸ hr.fresh, fun p hp => h.level.takes_iff.1 (hr.takes p hp)⟩
  · intro hr
    exact ⟨fun e he => (hhosts he).2 (hr.hosts e he), ⟨source, h.readText_source hsource⟩, hr.name,
      hfresh.trans hr.fresh, fun p hp => h.level.takes_iff.2 (hr.takes p hp)⟩

/-! ## Two variants, one after the other -/

/-- The places of the host files. -/
def hostLocations (t : FileTree) (root : Path) : List Location :=
  Registry.standard.map fun e => t.locate (root.child e.path)

theorem map_locate_touched (t : FileTree) (root : Path) (v : Variant) :
    (touched root v).map t.locate = hostLocations t root ++
      [t.locate (Exemplar.targetPath root Exemplar.standard.directory v)] := by
  rw [touched, List.map_append, List.map_map]
  rfl

/-- The file of a variant is none of the host files. -/
theorem Added.locate_target_not_mem (h : Added root v t t') :
    t.locate (Exemplar.targetPath root Exemplar.standard.directory v) ∉ hostLocations t root := by
  have hnodup := h.six.1
  rw [map_locate_touched] at hnodup
  exact fun hm => (List.nodup_append.1 hnodup).2.2 _ hm _ (List.mem_singleton_self _) rfl

/-- All that is neither a host file nor the file of the variant is as before. -/
theorem Generated.node?_eq (h : Generated root v t t') {l : Location}
    (hhost : l ∉ hostLocations t root)
    (hfile : l ≠ t.locate (Exemplar.targetPath root Exemplar.standard.directory v)) :
    t'.node? l = t.node? l := by
  refine h.added.rest l ?_
  rw [map_locate_touched, List.mem_append, List.mem_singleton]
  exact not_or.2 ⟨hhost, hfile⟩

/-- The tree behind two generations: the host files are extended by the lines of both variants, the
files of the variants are made after the exemplar, and all else is as before. -/
structure GeneratedTwice (root : Path) (v₁ v₂ : Variant) (t t' : FileTree) : Prop where
  hosts : ∀ e ∈ Registry.standard, ∃ old host, t.readText (root.child e.path) = .ok old ∧
    HostFile.parse e.path old [e] = .ok host ∧
    let both := host.extend fun e => e.snippet v₁ ++ e.snippet v₂
    t'.readText (root.child e.path) = .ok both.render ∧
      HostFile.parse e.path both.render [e] = .ok both
  files : ∃ source, t.readText (root.child Exemplar.standard.sourcePath) = .ok source ∧
    ∀ v, v = v₁ ∨ v = v₂ →
      t'.file? (t.locate (Exemplar.targetPath root Exemplar.standard.directory v)) =
        some (Utf8.encode (Template.spelled v (Exemplar.symbols Exemplar.standard.variant source)))
  rest : ∀ l ∉ hostLocations t root,
    (∀ v, v = v₁ ∨ v = v₂ →
      l ≠ t.locate (Exemplar.targetPath root Exemplar.standard.directory v)) →
    t'.node? l = t.node? l

theorem Generated.twice (h : Generated root v₁ t t') (h' : Generated root v₂ t' t'')
    (hv₁ : Variant.derive n₁ = .ok v₁) (hv₂ : Variant.derive n₂ = .ok v₂) (hne : n₁ ≠ n₂)
    (hplain : BreakPlainly t root) : GeneratedTwice root v₁ v₂ t t'' := by
  have hlocate := h.level.sound.keeps.locate_eq
  have hlocations : hostLocations t' root = hostLocations t root :=
    List.map_congr_left fun e _ => hlocate _
  have hrest {l : Location} (hhost : l ∉ hostLocations t root)
      (hfile : l ≠ t.locate (Exemplar.targetPath root Exemplar.standard.directory v₂)) :
      t''.node? l = t'.node? l :=
    h'.node?_eq (hlocations ▸ hhost) (hlocate _ ▸ hfile)
  refine ⟨fun e he => ?_, ?_, fun l hhost hfile => ?_⟩
  · obtain ⟨old, host, hreg, hread⟩ := h.hosts e he
    obtain ⟨old', host', hreg', hread'⟩ := h'.hosts e he
    obtain ⟨hplain₁, hparse⟩ := hreg.parse_extend he hv₁ (hplain e he old hreg.read)
    -- the second run reads what the first one has written
    obtain rfl : _ = old' := Except.ok.inj (hread.symm.trans hreg'.read)
    obtain rfl : _ = host' := Except.ok.inj (hparse.symm.trans hreg'.parsed)
    obtain ⟨-, hparse'⟩ := hreg'.parse_extend he hv₂ hplain₁
    have hclean {n : Text} {v : Variant} (hv : Variant.derive n = .ok v) :
        ∀ p, .point p ∈ host.parts → HostFile.Clean [e] p.entry (p.entry.snippet v) := by
      intro p hp
      rw [entry_eq hreg.parsed hp]
      exact Registry.clean_snippet he hv
    have hboth : (host.extend (·.snippet v₁)).extend (·.snippet v₂) =
        host.extend fun e => e.snippet v₁ ++ e.snippet v₂ :=
      HostFile.extend_extend (hclean hv₁) fun p hp => (hclean hv₂ p hp).ne_nil
    rw [hboth] at hread' hparse'
    exact ⟨old, host, hreg.read, hreg.parsed, hread', hparse'⟩
  · obtain ⟨source, hsource, hfile⟩ := h.file
    obtain ⟨source', hsource', hfile'⟩ := h'.file
    obtain rfl : source = source' :=
      Except.ok.inj ((h.readText_source hsource).symm.trans hsource')
    refine ⟨source, hsource, ?_⟩
    rintro v (rfl | rfl)
    · rw [FileTree.file?, hrest h.added.locate_target_not_mem (locate_target_ne t root hv₁ hv₂ hne)]
      exact hfile
    · rw [← hlocate]
      exact hfile'
  · rw [hrest hhost (hfile v₂ (.inr rfl)), h.node?_eq hhost (hfile v₁ (.inl rfl))]

/-! ## Two variants in either order -/

/-- A host file of a crate, in a tree: its text, which has the block of the entry between other
lines. -/
structure Shows (t : FileTree) (root : Path) (e : Entry) (front : List Text) (p : ExtensionPoint)
    (back : List Text) : Prop where
  read : t.readText (root.child e.path) =
    .ok (front.flatten ++ p.lines.flatten ++ back.flatten)
  parsed : HostFile.parse e.path (front.flatten ++ p.lines.flatten ++ back.flatten) [e] =
    .ok ⟨e.path, front.map .line ++ .point p :: back.map .line⟩

/-- Whether `q` is `p` with the lines of two variants behind its block, in this order. -/
def Followed (e : Entry) (v₁ v₂ : Variant) (p q : ExtensionPoint) : Prop :=
  ∃ snippet₁ snippet₂, e.render v₁ = .ok snippet₁ ∧ e.render v₂ = .ok snippet₂ ∧
    q.lines.flatten =
      p.lines.flatten ++ HostFile.addition p.anchorLine p.lastLine (snippet₁ ++ snippet₂)

/-- What two variants leave behind in a tree `t`, added in the one order and in the other: all but
the host files agrees, and in each of them the lines of both stand behind the block of `t` in the
order of the runs, and the rest is as in `t`. -/
structure AgreeUpToOrder (root : Path) (v₁ v₂ : Variant) (t t₁₂ t₂₁ : FileTree) : Prop where
  elsewhere : ∀ l ∉ hostLocations t root, t₁₂.node? l = t₂₁.node? l
  hosts : ∀ e ∈ Registry.standard, ∃ front p back q₁₂ q₂₁,
    Shows t root e front p back ∧
    (Shows t₁₂ root e front q₁₂ back ∧ Followed e v₁ v₂ p q₁₂) ∧
    Shows t₂₁ root e front q₂₁ back ∧ Followed e v₂ v₁ p q₂₁

theorem exists_point (he : e ∈ Registry.standard)
    (h : HostFile.parse e.path old [e] = .ok host) :
    ∃ (front : List Text) (p : ExtensionPoint) (back : List Text),
      p.entry = e ∧ host = ⟨e.path, front.map .line ++ .point p :: back.map .line⟩ := by
  obtain ⟨hloc, hpath, hlayout⟩ := HostFile.parse_eq_ok_iff.1 h
  have hone : ∀ e ∈ Registry.standard, e.expected = 1 := by decide
  have hcount := (hloc.expected e (List.mem_singleton_self e)).2
  rw [hone e he] at hcount
  obtain ⟨front, p, back, hparts⟩ := hlayout.exists_point (Int.ofNat.inj hcount)
  refine ⟨front, p, back, entry_eq h (by simp [hparts]), ?_⟩
  rw [← hparts, ← hpath]

/-- The lines of an entry go to its only point. -/
theorem extend_point {p : ExtensionPoint} (hp : p.entry = e) (f : Entry → List Text) (path : Text)
    (front back : List Text) :
    HostFile.extend f ⟨path, front.map .line ++ .point p :: back.map .line⟩ =
      ⟨path, front.map .line ++ .point (p.append (f e)) :: back.map .line⟩ := by
  simp [HostFile.extend, HostFile.extendPart, hp, Function.comp_def]

theorem shows_of_parse {text : Text} {front back : List Text} {p : ExtensionPoint}
    (hread : t.readText (root.child e.path) = .ok text)
    (hparse : HostFile.parse e.path text [e] =
      .ok ⟨e.path, front.map .line ++ .point p :: back.map .line⟩) :
    Shows t root e front p back := by
  have htext : text = front.flatten ++ p.lines.flatten ++ back.flatten := by
    rw [← HostFile.render_parse hparse, HostFile.render_eq_flatten]
    simp [HostFile.partLines, List.flatMap_map]
  rw [htext] at hread hparse
  exact ⟨hread, hparse⟩

theorem followed_append (he : e ∈ Registry.standard) (hv₁ : Variant.derive n₁ = .ok v₁)
    (hv₂ : Variant.derive n₂ = .ok v₂) (p : ExtensionPoint) :
    Followed e v₁ v₂ p (p.append (e.snippet v₁ ++ e.snippet v₂)) := by
  have hne : e.snippet v₁ ++ e.snippet v₂ ≠ [] :=
    List.append_ne_nil_of_left_ne_nil (Registry.clean_snippet he hv₁).ne_nil _
  exact ⟨_, _, Registry.render_standard he hv₁, Registry.render_standard he hv₂,
    HostFile.text_append p hne⟩

theorem GeneratedTwice.agreeUpToOrder {t₁₂ t₂₁ : FileTree} (h₁₂ : GeneratedTwice root v₁ v₂ t t₁₂)
    (h₂₁ : GeneratedTwice root v₂ v₁ t t₂₁) (hv₁ : Variant.derive n₁ = .ok v₁)
    (hv₂ : Variant.derive n₂ = .ok v₂) : AgreeUpToOrder root v₁ v₂ t t₁₂ t₂₁ := by
  refine ⟨fun l hl => ?_, fun e he => ?_⟩
  · obtain ⟨source, hsource, hfiles⟩ := h₁₂.files
    obtain ⟨source', hsource', hfiles'⟩ := h₂₁.files
    obtain rfl : source = source' := Except.ok.inj (hsource.symm.trans hsource')
    by_cases hfile : ∃ v, (v = v₁ ∨ v = v₂) ∧
        l = t.locate (Exemplar.targetPath root Exemplar.standard.directory v)
    · obtain ⟨v, hv, rfl⟩ := hfile
      rw [FileTree.file?_eq_some.1 (hfiles v hv), FileTree.file?_eq_some.1 (hfiles' v hv.symm)]
    · rw [h₁₂.rest l hl fun v hv hl => hfile ⟨v, hv, hl⟩,
        h₂₁.rest l hl fun v hv hl => hfile ⟨v, hv.symm, hl⟩]
  · obtain ⟨old, host, hold, hparse, hread, hboth⟩ := h₁₂.hosts e he
    obtain ⟨old', host', hold', hparse', hread', hboth'⟩ := h₂₁.hosts e he
    obtain rfl : old = old' := Except.ok.inj (hold.symm.trans hold')
    obtain rfl : host = host' := Except.ok.inj (hparse.symm.trans hparse')
    obtain ⟨front, p, back, hp, rfl⟩ := exists_point he hparse
    rw [extend_point hp] at hboth hboth' hread hread'
    exact ⟨front, p, back, _, _, shows_of_parse hold hparse,
      ⟨shows_of_parse hread hboth, followed_append he hv₁ hv₂ p⟩,
      shows_of_parse hread' hboth', followed_append he hv₂ hv₁ p⟩

section

variable {c₁ : Changes} {s s₁ : Session}

/-- Behind the one of two variants the other one can be added where it can be added at once. -/
theorem generate_second (hv₁ : Variant.derive n₁ = .ok v₁) (hv₂ : Variant.derive n₂ = .ok v₂)
    (hne : n₁ ≠ n₂) (hown : n₂ ∉ Registry.ownWords) (hwf : s.disk.tree.WF)
    (hr : s.disk.refused = []) (hplain : BreakPlainly s.disk.tree root)
    (hs : ∀ v, v = v₁ ∨ v = v₂ → ∀ p ∈ touched root v, ∀ q, p.sibling? = some q →
      s.disk.tree.file? (s.disk.tree.locate q) = none)
    (h₁ : generate root v₁ Registry.standard false s = .ok c₁ s₁) :
    ((∃ c s', generate root v₂ Registry.standard false s₁ = .ok c s') ↔
      ∃ c s', generate root v₂ Registry.standard false s = .ok c s') ∧
    ∀ c s', generate root v₂ Registry.standard false s₁ = .ok c s' →
      GeneratedTwice root v₁ v₂ s.disk.tree s'.disk.tree := by
  have hg := generated_of_generate hv₁ hwf (hs v₁ (.inl rfl)) h₁
  have hwf₁ := hg.level.sound.wf
  have hs₁ : ∀ p ∈ touched root v₂, ∀ q, p.sibling? = some q →
      s₁.disk.tree.file? (s₁.disk.tree.locate q) = none := fun p hp q hq => by
    rw [hg.level.sound.keeps.locate_eq]
    exact hg.siblings p q hq (hs v₂ (.inr rfl) p hp q hq)
  constructor
  · rw [generate_succeeds_iff hv₂ hwf hr (hs v₂ (.inr rfl)),
      generate_succeeds_iff hv₂ hwf₁ (refused_of_generate hr h₁) hs₁]
    exact hg.ready_iff hv₁ hv₂ hne hown hplain
  · intro c s' h
    exact hg.twice (generated_of_generate hv₂ hwf₁ hs₁ h) hv₁ hv₂ hne hplain

/-- **Independence.** Let the host files break lines by LF and CR LF alone, let no replacement be
refused, and let no temporary sibling stand beside the files of two variants with different names,
neither of them one of the templates' own words. If the one can be added, then the other can be
added behind it just where it can be added at once; and where it can, both orders of adding them
leave the same behind, save for the order of their lines in the host files. -/
theorem generations_commute (hv₁ : Variant.derive n₁ = .ok v₁) (hv₂ : Variant.derive n₂ = .ok v₂)
    (hne : n₁ ≠ n₂) (hown₁ : n₁ ∉ Registry.ownWords) (hown₂ : n₂ ∉ Registry.ownWords)
    (hwf : s.disk.tree.WF) (hr : s.disk.refused = []) (hplain : BreakPlainly s.disk.tree root)
    (hs : ∀ v, v = v₁ ∨ v = v₂ → ∀ p ∈ touched root v, ∀ q, p.sibling? = some q →
      s.disk.tree.file? (s.disk.tree.locate q) = none)
    (h₁ : generate root v₁ Registry.standard false s = .ok c₁ s₁) :
    ((∃ c s', generate root v₂ Registry.standard false s₁ = .ok c s') ↔
      ∃ c s', generate root v₂ Registry.standard false s = .ok c s') ∧
    ∀ c₂ s₂, generate root v₂ Registry.standard false s = .ok c₂ s₂ →
      ∃ c₁₂ s₁₂ c₂₁ s₂₁, generate root v₂ Registry.standard false s₁ = .ok c₁₂ s₁₂ ∧
        generate root v₁ Registry.standard false s₂ = .ok c₂₁ s₂₁ ∧
        AgreeUpToOrder root v₁ v₂ s.disk.tree s₁₂.disk.tree s₂₁.disk.tree := by
  obtain ⟨hiff, htwice⟩ := generate_second hv₁ hv₂ hne hown₂ hwf hr hplain hs h₁
  refine ⟨hiff, fun c₂ s₂ h₂ => ?_⟩
  obtain ⟨hiff', htwice'⟩ :=
    generate_second hv₂ hv₁ hne.symm hown₁ hwf hr hplain (fun v hv => hs v hv.symm) h₂
  obtain ⟨c₁₂, s₁₂, h₁₂⟩ := hiff.2 ⟨c₂, s₂, h₂⟩
  obtain ⟨c₂₁, s₂₁, h₂₁⟩ := hiff'.2 ⟨c₁, s₁, h₁⟩
  exact ⟨c₁₂, s₁₂, c₂₁, s₂₁, h₁₂, h₂₁,
    (htwice c₁₂ s₁₂ h₁₂).agreeUpToOrder (htwice' c₂₁ s₂₁ h₂₁) hv₁ hv₂⟩

end

/-- Two operators are added to a crate whose host files have no operators. -/
theorem generations_commute_cos_exp :
    let directory := fun names : List String => (names.map String.toList, Node.directory)
    let file := fun (names : List String) (text : String) =>
      (names.map String.toList, Node.file (Utf8.encode text.toList))
    let tree : FileTree := ⟨["w".toList], [
      directory ["w"], directory ["w", "src"], directory ["w", "src", "float"],
      directory ["w", "src", "ad"], directory ["w", "src", "op"],
      file ["w", "src", "float", "core.rs"] "// unary functions\r\n",
      file ["w", "src", "float", "az_float.rs"] "// unary functions\r\n",
      file ["w", "src", "float", "num_vec.rs"] "// unary functions\r\n",
      file ["w", "src", "ad", "float_core.rs"] "// unary functions\r\n",
      file ["w", "src", "op", "id.rs"] "// Unary Operators\r\n",
      file ["w", "src", "op", "sin.rs"] "sin"]⟩
    let s : Session := { disk := { tree } }
    let root := Path.ofText "./".toList
    let cos : Variant := ⟨"cos".toList, "COS".toList⟩
    let exp : Variant := ⟨"exp".toList, "EXP".toList⟩
    ∃ c₁ s₁ c₂ s₂, generate root cos Registry.standard false s = .ok c₁ s₁ ∧
      generate root exp Registry.standard false s = .ok c₂ s₂ ∧
      ∃ c₁₂ s₁₂ c₂₁ s₂₁, generate root exp Registry.standard false s₁ = .ok c₁₂ s₁₂ ∧
        generate root cos Registry.standard false s₂ = .ok c₂₁ s₂₁ ∧
        AgreeUpToOrder root cos exp tree s₁₂.disk.tree s₂₁.disk.tree := by
  intro directory file tree s root cos exp
  have hwf : tree.WF := FileTree.wf_of_nodes (by decide +kernel)
  have hplain : BreakPlainly tree root := breakPlainly_of_anchors (by decide +kernel)
  have hs : ∀ v, v = cos ∨ v = exp → ∀ p ∈ touched root v, ∀ q ∈ p.sibling?,
      tree.file? (tree.locate q) = none := by
    rintro v (rfl | rfl) <;> decide +kernel
  have hends : ∀ v ∈ [cos, exp], succeeds (generate root v Registry.standard false) s = true := by
    decide +kernel
  obtain ⟨c₁, s₁, h₁⟩ := succeeds_iff.1 (hends cos (by simp))
  obtain ⟨c₂, s₂, h₂⟩ := succeeds_iff.1 (hends exp (by simp))
  have hcos : Variant.derive "cos".toList = .ok cos := by decide +kernel
  have hexp : Variant.derive "exp".toList = .ok exp := by decide +kernel
  have hboth := generations_commute hcos hexp (by decide) (by decide) (by decide) hwf rfl hplain
    hs h₁
  exact ⟨c₁, s₁, c₂, s₂, h₁, h₂, hboth.2 c₂ s₂ h₂⟩

end Generation

end OpScaffold
