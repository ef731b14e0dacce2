import OpScaffold.Proofs.Template.Settled

/-!
# OpScaffold.Proofs.Exemplar.Reversal

Templates made after an operator of any name. Rendered for that operator a template shows its source
(`render_template_self`). Rendered for another one, of which the source has no word and takes no
rank, it shows a text from which the source is made again the other way round
(`render_template_back`): the words that are substituted are just those that are found on the way
back.
-/

namespace OpScaffold

open Template

/-! ## Delimiters and prefixes -/

/-- Texts up to their first delimiters agree where one begins the other. -/
theorem eq_of_prefix_delimiter {x y t u : Text} {d d' : Char}
    (hx : ∀ c ∈ x, c ∉ Boundary.delimiters) (hy : ∀ c ∈ y, c ∉ Boundary.delimiters)
    (hd : d ∈ Boundary.delimiters) (hd' : d' ∈ Boundary.delimiters)
    (h : x ++ d :: t <+: y ++ d' :: u) : x = y ∧ d = d' := by
  induction x generalizing y with
  | nil =>
    cases y with
    | nil => exact ⟨rfl, (List.cons_prefix_cons.1 h).1⟩
    | cons b y =>
      obtain ⟨rfl, -⟩ := List.cons_prefix_cons.1 h
      exact absurd hd (hy d (by simp))
  | cons a x ih =>
    cases y with
    | nil =>
      obtain ⟨rfl, -⟩ := List.cons_prefix_cons.1 h
      exact absurd hd' (hx a (by simp))
    | cons b y =>
      obtain ⟨rfl, hrest⟩ := List.cons_prefix_cons.1 h
      obtain ⟨rfl, hdd⟩ := ih (fun c hc => hx c (by simp [hc])) (fun c hc => hy c (by simp [hc]))
        hrest
      exact ⟨rfl, hdd⟩

/-- A token that is a word with a delimiter and more behind it is apart from a text whose first word
does not end in the same way. -/
theorem Template.apart_append {x y t u : Text} {d d' : Char} (hx : ∀ c ∈ x, c ∉ Boundary.delimiters)
    (hy : ∀ c ∈ y, c ∉ Boundary.delimiters) (hd : d ∈ Boundary.delimiters)
    (hd' : d' ∈ Boundary.delimiters) (hne : ∀ k, y.drop k = x → d' ≠ d)
    (hu : Apart (x ++ d :: t) u) : Apart (x ++ d :: t) (y ++ d' :: u) := by
  intro k hk
  by_cases hle : k ≤ y.length
  · have hdrop : ∀ c ∈ y.drop k, c ∉ Boundary.delimiters := fun c hc =>
      hy c (List.mem_of_mem_drop hc)
    rw [List.drop_append_of_le_length hle]
    constructor
    · intro hp
      obtain ⟨hxy, hdd⟩ := eq_of_prefix_delimiter hx hdrop hd hd' hp
      exact hne k hxy.symm hdd.symm
    · intro hp
      obtain ⟨hxy, hdd⟩ := eq_of_prefix_delimiter hdrop hx hd' hd hp
      exact hne k hxy hdd
  · obtain ⟨j, rfl⟩ : ∃ j, k = y.length + (j + 1) := ⟨k - (y.length + 1), by omega⟩
    rw [← List.drop_drop, List.drop_left, List.drop_succ_cons]
    rw [List.length_append, List.length_cons] at hk
    exact hu j (by omega)

namespace Exemplar

variable {name name' : Text} {e v : Variant} {words : List Text} {marked : List Symbol}
  {before b₁ b₂ : Option Symbol} {behind : Bool}

/-! ## Spellings of derived variants -/

theorem isWord_of_derive (h : Variant.derive name = .ok v) : IsWord v.name ∧ IsWord v.upper := by
  have hword {spelling : Text} (hs : spelling = v.name ∨ spelling = v.upper) : IsWord spelling := by
    obtain ⟨hne, hmem⟩ := Variant.isWord_of_derive h hs
    exact ⟨hne, fun c hc => Text.not_mem_delimiters (hmem c hc)⟩
  exact ⟨hword (.inl rfl), hword (.inr rfl)⟩

theorem plain_of_derive (h : Variant.derive name = .ok v) : Plain v := by
  have hword {spelling : Text} (hs : spelling = v.name ∨ spelling = v.upper) :
      spelling ≠ [] ∧ ∀ c ∈ spelling, c ≠ '{' ∧ c ≠ '}' := by
    obtain ⟨hne, hmem⟩ := Variant.isWord_of_derive h hs
    refine ⟨hne, fun c hc => ?_⟩
    exact Text.forall_isAsciiWord (fun c => c ≠ '{' ∧ c ≠ '}') (by decide) (hmem c hc)
  exact ⟨hword (.inl rfl), hword (.inr rfl)⟩

/-! ## The way there -/

/-- For the exemplar itself a template shows its source. -/
theorem spelled_symbols_self (h : Plain e) (source : Text) :
    spelled e (symbols e source) = source := by
  have hrank : spelled e (.upper :: rankSuffix.map Symbol.char) = e.upper ++ rankSuffix := by
    rw [spelled_cons, spelled_map_char]
    rfl
  unfold symbols marks markRank markUpper markName
  rw [spelled_mark rank_ne_nil hrank, spelled_mark h.upper.1 (List.append_nil _),
    spelled_mark h.name.1 (List.append_nil _), spelled_map_char]

/-- **The exemplar itself.** For every name and every source the template made after the operator of
that name is rendered for it, and shows the source. Its fields stand where the source has the
operator's spellings, and between them it has the characters of the source. -/
theorem render_template_self (h : Variant.derive name = .ok e) (source : Text) :
    render (template source e) e = .ok source ∧
      ∃ symbols, pieces (template source e) = symbols.map Symbol.piece ∧
        spelled e symbols = source := by
  have hplain := plain_of_derive h
  have hself := spelled_symbols_self hplain source
  refine ⟨by rw [render_template hplain, hself], Exemplar.symbols e source, ?_, hself⟩
  rw [template_eq hplain, pieces_written]

/-- An operator whose capitals stand in the phrase by which ranks are taken, among braces. -/
theorem render_template_self_op :
    let op : Variant := ⟨"op".toList, "OP".toList⟩
    let source : Text := "\x7b\x7bop\x7d (op) [OP_OP as usize] \x7bname\x7d".toList
    Variant.derive "op".toList = .ok op ∧
      template source op = ("\x7b\x7b\x7b\x7bop\x7d\x7d (\x7bname\x7d) ".toList ++
        "[OP_\x7bNAME\x7d as usize] \x7b\x7bname\x7d\x7d".toList) ∧
      render (template source op) op = .ok source := by
  intro op source
  have h : Variant.derive "op".toList = .ok op := by decide +kernel
  exact ⟨h, by decide +kernel, (render_template_self h source).1⟩

/-! ## The way back -/

/-- Where the spellings of a variant are settled, the fields are found where they are shown. -/
theorem markWords_spelled (hname : IsWord v.name) (hupper : IsWord v.upper)
    (hapart : Apart v.name v.upper) (hsub : [v.name, v.upper] ⊆ words)
    (h : Settled words behind marked) (hb₁ : IsBehind b₁ ↔ behind = true)
    (hb₂ : IsBehind b₂ ↔ behind = true) :
    markWords v b₁ b₂ ((spelled v marked).map Symbol.char) = marked := by
  induction h generalizing b₁ b₂ with
  | nil => simp [markWords, markUpper, markName, mark]
  | @char behind c rest hfree hrest ih =>
    -- A spelling that is shown here would stand in the symbols, which have it settled.
    have hopens {word : Text} (hw : IsWord word) (hmem : word ∈ words) (hb : behind = true) :
        ¬ OpensWith word (.char c :: (spelled v rest).map Symbol.char) := by
      intro ho
      obtain ⟨x, word', rfl⟩ := List.exists_cons_of_ne_nil hw.1
      obtain ⟨hx, ho'⟩ := opensWith_cons.1 ho
      cases hx
      rw [decide_eq_false (hw.2 c (by simp))] at hrest
      have htail := hrest.opensWith_of_spelled (fun d hd => hw.2 d (by simp [hd])) ho'
      exact hfree hb _ hmem (opensWith_cons.2 ⟨rfl, htail⟩)
    have hno₁ : ¬ marksAt .delimited v.name b₁ (.char c :: (spelled v rest).map Symbol.char) := by
      rw [marksAt_word_iff]
      rintro ⟨hb, ho⟩
      exact hopens hname (hsub (by simp)) (hb₁.1 hb) ho
    have hno₂ : ¬ marksAt .delimited v.upper b₂ (.char c :: (spelled v rest).map Symbol.char) := by
      rw [marksAt_word_iff]
      rintro ⟨hb, ho⟩
      exact hopens hupper (hsub (by simp)) (hb₂.1 hb) ho
    have hbehind : IsBehind (some (.char c)) ↔ decide (c ∈ Boundary.delimiters) = true := by
      simp [isBehind_char]
    rw [spelled_cons, List.map_append, Symbol.spelled, List.map_singleton, List.singleton_append,
      markWords_cons hno₁ hno₂, ih hbehind hbehind]
  | @field s d rest hs hd hrest ih =>
    rw [spelled_cons]
    cases s with
    | char c => exact absurd rfl (hs c)
    | name =>
      have hm : marksAt .delimited v.name b₁ (v.name.map Symbol.char ++
          (spelled v (.char d :: rest)).map Symbol.char) := by
        rw [marksAt_word_iff, spelled_cons]
        exact ⟨hb₁.2 rfl, d, hd, by simp [Symbol.spelled]⟩
      rw [Symbol.spelled, List.map_append, markWords_name hupper.1 hname.1 hm,
        ih (iff_of_false hname.not_isBehind (by simp))
          (iff_of_false (not_isBehind_field (by simp)) (by simp))]
    | upper =>
      rw [spelled_cons] at ih ⊢
      rw [Symbol.spelled, Symbol.spelled, List.singleton_append,
        markWords_upper hupper.1 hname.1 hname.2 hapart (hb₂.2 rfl) hd]
      exact congrArg _ (ih (iff_of_false hupper.not_isBehind (by simp))
        (iff_of_false hupper.not_isBehind (by simp)))

/-- Taking ranks from another operator leaves words settled that do not begin inside such a
place. -/
theorem settled_mark_rank {words' : List Text} (he : IsWord e.upper) (hv : IsWord v.upper)
    (hmem : e.upper ∈ words) (hsub : words' ⊆ words)
    (hapart : ∀ word ∈ words', ∀ tail, tail <:+ word.tail → ∀ d ∈ Boundary.delimiters,
      Apart (rankPlace v) (tail ++ [d]))
    (h : Settled words behind marked) :
    Settled words' behind
      (mark .anywhere (rankPlace e) ((rankPlace v).map Symbol.char) before marked) := by
  have hback {before : Option Symbol} {rest : List Symbol} (word : Text) (hw : word ∈ words')
      (tail : Text) (ht : tail <:+ word.tail) (ho : OpensWith tail
        (mark .anywhere (rankPlace e) ((rankPlace v).map Symbol.char) before rest)) :
      OpensWith tail rest := by
    obtain ⟨d, hd, hp⟩ := ho
    rw [← List.append_nil (List.map Symbol.char (rankPlace v))] at hp
    exact ⟨d, hd, prefix_of_prefix_mark_of_apart (hapart word hw tail ht d hd) hp⟩
  have hne : rankPlace e ≠ [] := rank_ne_nil
  induction before, marked using mark_induction .anywhere ((rankPlace v).map Symbol.char) hne
    generalizing behind with
  | nil => exact .nil
  | found before rest _ ih =>
    have hplace (a : Variant) (more : List Symbol) : (rankPlace a).map Symbol.char ++ more =
        a.upper.map Symbol.char ++
          .char '_' :: ("OP as usize".toList.map Symbol.char ++ more) := by
      rw [rankPlace, List.map_append, List.append_assoc]
      rfl
    rw [hplace e] at h
    rw [hplace v]
    have hbehind : behind = false := by
      refine Bool.eq_false_iff.2 fun hb => ?_
      subst hb
      exact h.not_opensWith hmem ⟨'_', by decide, by simp⟩
    subst hbehind
    obtain ⟨-, hsuffix⟩ := Settled.char_cons_iff.1 (h.of_word_append he)
    have hrest := ih hsuffix.of_map_append
    refine Settled.word_append hv.2 (.char (fun hb => absurd hb (by simp)) ?_)
    exact Settled.append_congr (fun word hw tail ht ho => hback word hw tail ht ho)
      (hsuffix.mono hsub) hrest
  | kept before s rest _ ih =>
    cases h with
    | @char _ c _ hfree hrest =>
      refine .char (fun hb word hw ho => hfree hb word (hsub hw) ?_) (ih hrest)
      exact opensWith_cons_append_congr (t := []) (fun tail ht ho => hback word hw tail ht ho) ho
    | @field _ d rest hs hd hrest =>
      have hmarked := ih hrest
      have hno : ¬ marksAt .anywhere (rankPlace e) (some s) (.char d :: rest) :=
        he.not_marksAt_delimiter hd
      rw [mark_cons_of_not_marksAt hno] at hmarked ⊢
      exact .field hs hd hmarked

/-- Neither spelling of a variant begins inside a place where a rank is taken from it. -/
theorem apart_rankPlace (h : Variant.derive name = .ok v) {word tail : Text}
    (hword : word = v.name ∨ word = v.upper) (ht : tail <:+ word.tail) {d : Char}
    (hd : d ∈ Boundary.delimiters) : Apart (rankPlace v) (tail ++ [d]) := by
  obtain ⟨c, hc, hcapital⟩ := (Variant.exists_head_of_derive h).2
  obtain ⟨rest, hupper⟩ := List.head?_eq_some_iff.1 hc
  rcases hword with rfl | rfl
  · refine apart_of_head_not_mem ⟨c, by rw [rankPlace, hupper]; rfl, fun hmem => ?_⟩
    rcases List.mem_append.1 hmem with hmem | hmem
    · have hno := Variant.isUpper_of_mem_name h (List.mem_of_mem_tail (ht.subset hmem))
      rw [hcapital] at hno
      cases hno
    · obtain rfl := List.mem_singleton.1 hmem
      have hno : ∀ d ∈ Boundary.delimiters, d.isUpper = false :=
        List.all_iff_forall_prop.1 (by decide)
      rw [hno c hd] at hcapital
      cases hcapital
  · have hwords := (isWord_of_derive h).2.2
    have hsub : ∀ c ∈ tail, c ∉ Boundary.delimiters := fun c hc =>
      hwords c (List.mem_of_mem_tail (ht.subset hc))
    refine apart_append hwords hsub (by decide) hd (fun k hk => ?_) (by simp [Apart])
    -- the tail of the capitals is too short to end in all of them
    have hlength := congrArg List.length hk
    have hshort := ht.length_le
    rw [List.length_drop, hupper, List.length_cons] at hlength
    rw [hupper, List.tail_cons] at hshort
    omega

/-- No place where a rank is taken begins inside another. -/
theorem apart_rankPlace_tail (h : Variant.derive name = .ok v) :
    Apart (rankPlace v) (rankPlace v).tail := by
  obtain ⟨c, hc, hcapital⟩ := (Variant.exists_head_of_derive h).2
  obtain ⟨rest, hupper⟩ := List.head?_eq_some_iff.1 hc
  have hwords := (isWord_of_derive h).2.2
  have hrest : ∀ c ∈ rest, c ∉ Boundary.delimiters := fun c hc => hwords c (by simp [hupper, hc])
  have htail : (rankPlace v).tail = rest ++ '_' :: ("OP".toList ++ ' ' :: "as usize".toList) := by
    rw [rankPlace, hupper]
    rfl
  have hlast : Apart (rankPlace v) "as usize".toList := by
    refine apart_of_head_not_mem ⟨c, by rw [rankPlace, hupper]; rfl, fun hmem => ?_⟩
    have hno : ∀ d ∈ "as usize".toList, d.isUpper = false :=
      List.all_iff_forall_prop.1 (by decide)
    rw [hno c hmem] at hcapital
    cases hcapital
  have hop : ∀ c ∈ "OP".toList, c ∉ Boundary.delimiters := List.all_iff_forall_prop.1 (by decide)
  rw [htail]
  refine apart_append hwords hrest (by decide) (by decide) (fun k hk => ?_)
    (apart_append hwords hop (by decide) (by decide) (fun _ _ => by decide) hlast)
  have hlength := congrArg List.length hk
  rw [List.length_drop, hupper, List.length_cons] at hlength
  omega

/-- The name of a variant does not begin inside its capitals. -/
theorem apart_name_upper (h : Variant.derive name = .ok v) : Apart v.name v.upper := by
  obtain ⟨c, hc, hlower⟩ := (Variant.exists_head_of_derive h).1
  refine apart_of_head_not_mem ⟨c, hc, fun hmem => ?_⟩
  rw [Variant.isLower_of_mem_upper h hmem] at hlower
  cases hlower

/-- Marking the words of one variant in a source without those of the other settles all of them. -/
theorem settled_markWords (he : IsWord e.name ∧ IsWord e.upper) {source : Text}
    (hname : occurs .delimited v.name source = false)
    (hupper : occurs .delimited v.upper source = false) :
    Settled [e.upper, e.name, v.name, v.upper] false
      (markWords e none none (source.map Symbol.char)) := by
  have hsource : Settled [v.name, v.upper] false (source.map Symbol.char) :=
    .of_not_occurs (by simp [hname, hupper])
  have hnone : IsBehind none ↔ false = true := by simp [IsBehind]
  exact (hsource.mark he.1 (by simp) hnone).mark he.2 (by simp) hnone

/-- Marking words makes no token that did not stand in the source. -/
theorem not_infix_markWords (he : IsWord e.name ∧ IsWord e.upper) {token source : Text}
    (ht : token ≠ []) (h : occurs .anywhere token source = false) :
    ¬ token.map Symbol.char <:+: markWords e none none (source.map Symbol.char) := by
  intro hmarked
  have hsource := infix_of_infix_mark (by simp) he.1.1 ht
    (infix_of_infix_mark (by simp) he.2.1 ht hmarked)
  obtain ⟨place, ⟨front, back, hplace⟩, heq⟩ := List.infix_map_iff.1 hsource
  obtain rfl := List.map_injective_iff.2 (fun _ _ h => Symbol.char.inj h) heq
  rw [occurs_iff.2 ⟨front, back, hplace.symm, rfl⟩] at h
  cases h

/-- **Reversal.** Let a source have no word of the variant `v` between delimiters, and take no rank
from it. Rendered for `v` its template after `e` shows a text whose template after `v`, rendered for
`e`, shows the source. -/
theorem render_template_back (he : Variant.derive name = .ok e) (hv : Variant.derive name' = .ok v)
    {source : Text} (hname : occurs .delimited v.name source = false)
    (hupper : occurs .delimited v.upper source = false)
    (hrank : occurs .anywhere (v.upper ++ rankSuffix) source = false) :
    ∃ text, render (template source e) v = .ok text ∧ render (template text v) e = .ok source := by
  have hewords := isWord_of_derive he
  have hvwords := isWord_of_derive hv
  let words := markWords e none none (source.map Symbol.char)
  have hwords : Settled [e.upper, e.name, v.name, v.upper] false words :=
    settled_markWords hewords hname hupper
  have hno : ¬ (rankPlace v).map Symbol.char <:+: words :=
    not_infix_markWords hewords rank_ne_nil hrank
  -- the symbols that show the ranks of `v` where those of `e` were taken
  let shown := mark .anywhere (rankPlace e) ((rankPlace v).map Symbol.char) none words
  have hshown : spelled v (symbols e source) = spelled v shown := by
    refine spelled_mark_congr ?_ none words
    rw [spelled_cons, spelled_map_char, spelled_map_char]
    rfl
  have hsettled : Settled [v.name, v.upper] false shown :=
    settled_mark_rank hewords.2 hvwords.2 (by simp) (by simp) (fun word hw tail ht d hd =>
      apart_rankPlace hv (by simpa using hw) ht hd) hwords
  have hback : symbols v (spelled v shown) = symbols e source := by
    have hmarked : markWords v none none ((spelled v shown).map Symbol.char) = shown :=
      markWords_spelled hvwords.1 hvwords.2 (apart_name_upper hv) (List.Subset.refl _) hsettled
        (by simp [IsBehind]) (by simp [IsBehind])
    calc symbols v (spelled v shown)
        = markRank v none (markWords v none none ((spelled v shown).map Symbol.char)) := rfl
      _ = markRank v none shown := by rw [hmarked]
      _ = symbols e source := mark_mark rank_ne_nil rank_ne_nil (apart_rankPlace_tail hv) hno _ _
  refine ⟨spelled v shown, by rw [render_template (plain_of_derive he), hshown], ?_⟩
  rw [render_template (plain_of_derive hv), hback, spelled_symbols_self (plain_of_derive he)]

/-- The name of the exemplar stands in the phrase by which ranks are taken; one rank is taken behind
a bracket, the other phrase ends in a delimited name. -/
theorem render_template_back_usize :
    let usize : Variant := ⟨"usize".toList, "USIZE".toList⟩
    let sin : Variant := ⟨"sin".toList, "SIN".toList⟩
    let source : Text := "\x7b usize_USIZE \x7d [USIZE_OP as usize] [USIZE_OP as usize )".toList
    let text : Text := "\x7b sin_SIN \x7d [SIN_OP as usize] [USIZE_OP as sin )".toList
    (Variant.derive "usize".toList = .ok usize ∧ Variant.derive "sin".toList = .ok sin ∧
      occurs .delimited sin.name source = false ∧ occurs .delimited sin.upper source = false ∧
      occurs .anywhere (sin.upper ++ rankSuffix) source = false) ∧
    render (template source usize) sin = .ok text ∧
      render (template text sin) usize = .ok source := by
  intro usize sin source text
  have he : Variant.derive "usize".toList = .ok usize := by decide +kernel
  have hv : Variant.derive "sin".toList = .ok sin := by decide +kernel
  have hname : occurs .delimited sin.name source = false := by decide +kernel
  have hupper : occurs .delimited sin.upper source = false := by decide +kernel
  have hrank : occurs .anywhere (sin.upper ++ rankSuffix) source = false := by decide +kernel
  have hshown : render (template source usize) sin = .ok text := by decide +kernel
  obtain ⟨_, hthere, hback⟩ := render_template_back he hv hname hupper hrank
  cases hshown.symm.trans hthere
  exact ⟨⟨he, hv, hname, hupper, hrank⟩, hshown, hback⟩

end Exemplar

end OpScaffold
