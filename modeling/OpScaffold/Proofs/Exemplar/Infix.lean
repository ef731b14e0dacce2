import OpScaffold.Proofs.Exemplar

/-!
# OpScaffold.Proofs.Exemplar.Infix

What a template makes of the exemplar's spellings inside longer words. They are kept with the
characters beside them (`infix_kept`), save where a rank is taken: there the capitals are replaced
whatever stands before them, at the end of another operator's capitals too
(`rank_taken_inside_word`).
-/

namespace OpScaffold.Exemplar

open Template

variable {e v : Variant} {before : Option Char} {front token back word new rest t u : Text}
  {c : Char}

/-! ## Substitution step by step -/

/-- What a text becomes when spellings of one variant in it are replaced by those of another. -/
def Becomes (e v : Variant) (t u : Text) : Prop :=
  ∃ marked, spelled e marked = t ∧ spelled v marked = u

theorem Becomes.append {t' u' : Text} (h : Becomes e v t u) (h' : Becomes e v t' u') :
    Becomes e v (t ++ t') (u ++ u') := by
  obtain ⟨first, rfl, rfl⟩ := h
  obtain ⟨second, rfl, rfl⟩ := h'
  exact ⟨first ++ second, spelled_append _ _, spelled_append _ _⟩

theorem becomes_self (t : Text) : Becomes e v t t :=
  ⟨t.map .char, spelled_map_char t, spelled_map_char t⟩

/-- The text that is read at one place, and what is written for it. -/
inductive Step (e v : Variant) (before : Option Char) (t : Text) : (word new : Text) → Prop
  | name (h : Delimited e.name before t) : Step e v before t e.name v.name
  | upper (h : Delimited e.upper before t) : Step e v before t e.upper v.upper
  | rank : Step e v before t (rankPlace e) (rankPlace v)
  | char (c : Char) : Step e v before t [c] [c]

theorem Step.becomes (h : Step e v before t word new) : Becomes e v word new := by
  have hupper : Becomes e v e.upper v.upper := ⟨[.upper], List.append_nil _, List.append_nil _⟩
  cases h with
  | name => exact ⟨[.name], List.append_nil _, List.append_nil _⟩
  | upper => exact hupper
  | rank => exact hupper.append (becomes_self rankSuffix)
  | char c => exact becomes_self [c]

theorem Step.ne_nil (he : Plain e) (h : Step e v before t word new) : word ≠ [] := by
  cases h with
  | name => exact he.name.1
  | upper => exact he.upper.1
  | rank => exact rank_ne_nil
  | char c => exact List.cons_ne_nil _ _

/-- A character is copied where no word is delimited and no rank is taken. -/
theorem substitute_char (hname : ¬ Delimited e.name before (c :: t))
    (hupper : ¬ Delimited e.upper before (c :: t)) (hrank : ¬ rankPlace e <+: c :: t) :
    substitute e v before (c :: t) = c :: substitute e v (some c) t := by
  rw [rankPlace] at hrank
  rw [substitute, if_neg hname, if_neg hupper, if_neg hrank]

/-- Substitution goes on behind what one step reads. -/
theorem exists_step (he : Plain e) (before : Option Char) (ht : t ≠ []) :
    ∃ word new rest, t = word ++ rest ∧ Step e v before t word new ∧
      substitute e v before t = new ++ substitute e v word.getLast? rest := by
  obtain ⟨c, text, rfl⟩ := List.exists_cons_of_ne_nil ht
  by_cases hname : Delimited e.name before (c :: text)
  · obtain ⟨d, -, tail, hrest⟩ := hname.exists_tail
    refine ⟨_, _, _, hrest, .name hname, ?_⟩
    rw [substitute, if_pos hname, drop_of_cons_eq_append he.name.1 hrest]
  by_cases hupper : Delimited e.upper before (c :: text)
  · obtain ⟨d, -, tail, hrest⟩ := hupper.exists_tail
    refine ⟨_, _, _, hrest, .upper hupper, ?_⟩
    rw [substitute, if_neg hname, if_pos hupper, drop_of_cons_eq_append he.upper.1 hrest]
  by_cases hrank : rankPlace e <+: c :: text
  · obtain ⟨rest, hrest⟩ := id hrank
    refine ⟨_, _, _, hrest.symm, .rank, ?_⟩
    rw [rankPlace] at hrank hrest
    rw [substitute, if_neg hname, if_neg hupper, if_pos hrank,
      drop_of_cons_eq_append rank_ne_nil hrest.symm]
    rfl
  · exact ⟨[c], [c], text, rfl, .char c, substitute_char hname hupper hrank⟩

/-- Substitution replaces spellings. -/
theorem becomes_substitute (he : Plain e) (before : Option Char) (t : Text) :
    Becomes e v t (substitute e v before t) := by
  induction hn : t.length using Nat.strongRecOn generalizing before t with
  | ind n ih =>
  by_cases ht : t = []
  · subst ht
    rw [substitute]
    exact becomes_self []
  · obtain ⟨word, new, rest, rfl, hstep, heq⟩ := exists_step (v := v) he before ht
    have hpos := List.length_pos_iff.2 (hstep.ne_nil he)
    rw [List.length_append] at hn
    rw [heq]
    exact hstep.becomes.append (ih _ (by omega) _ _ rfl)

/-! ## The text before a token -/

/-- Whether a token begins inside nothing that is substituted. -/
structure Unentered (e : Variant) (token : Text) : Prop where
  name : ∀ d ∈ Boundary.delimiters, Apart token (e.name ++ [d]).tail
  upper : ∀ d ∈ Boundary.delimiters, Apart token (e.upper ++ [d]).tail
  rank : Apart token (rankPlace e).tail

/-- Neither spelling of the exemplar begins inside what is substituted. -/
theorem unentered_standard
    (htoken : token = standard.variant.name ∨ token = standard.variant.upper) :
    Unentered standard.variant token := by
  rcases htoken with rfl | rfl <;>
    exact ⟨List.all_iff_forall_prop.1 (by decide), List.all_iff_forall_prop.1 (by decide),
      by decide⟩

/-- What stands before a token and does not let it begin inside does not reach into it. -/
theorem prefix_of_apart (h : Apart token word.tail) (hne : front ≠ [])
    (hp : word <+: front ++ (token ++ back)) : word <+: front := by
  rcases List.prefix_or_prefix_of_prefix hp (List.prefix_append _ _) with hin | ⟨rest, hrest⟩
  · exact hin
  · obtain ⟨c, front', rfl⟩ := List.exists_cons_of_ne_nil hne
    subst hrest
    rw [List.prefix_append_right_inj] at hp
    by_cases hnil : rest = []
    · subst hnil; simp
    · have hrest := h.drop front'.length
      rw [List.cons_append, List.tail_cons, List.drop_left] at hrest
      exact absurd (List.prefix_append token back) (hrest.not_prefix hnil hp)

/-- A step before a token stays before it, and leaves the last character if it reaches the token. -/
theorem Step.exists_append (h : Step e v before t word new) (hfree : Unentered e token)
    (ht : t = front ++ (token ++ back)) (hword : word <+: t) (hne : front ≠ []) :
    ∃ more, front = word ++ more ∧ (more = [] → new.getLast? = word.getLast?) := by
  have hdelimited {word : Text} (hw : ∀ d ∈ Boundary.delimiters, Apart token (word ++ [d]).tail)
      (hd : Delimited word before t) : ∃ more, front = word ++ more ∧ more ≠ [] := by
    obtain ⟨-, d, hd, hp⟩ := hd
    obtain ⟨more, rfl⟩ := prefix_of_apart (hw d hd) hne (ht ▸ hp)
    exact ⟨d :: more, by simp, List.cons_ne_nil _ _⟩
  cases h with
  | name hd =>
    obtain ⟨more, hmore, hnil⟩ := hdelimited hfree.name hd
    exact ⟨more, hmore, fun h => absurd h hnil⟩
  | upper hd =>
    obtain ⟨more, hmore, hnil⟩ := hdelimited hfree.upper hd
    exact ⟨more, hmore, fun h => absurd h hnil⟩
  | rank =>
    obtain ⟨more, rfl⟩ := prefix_of_apart hfree.rank hne (ht ▸ hword)
    refine ⟨more, rfl, fun _ => ?_⟩
    have hlast : rankSuffix.getLast? = some 'e' := by decide
    rw [rankPlace, rankPlace, List.getLast?_append, List.getLast?_append, hlast]
    rfl
  | char c =>
    obtain ⟨d, more, rfl⟩ := List.exists_cons_of_ne_nil hne
    rw [ht] at hword
    obtain ⟨rfl, -⟩ := List.cons_prefix_cons.1 hword
    exact ⟨more, rfl, fun _ => rfl⟩

/-- Substitution before a token does not reach into it, and leaves the character before it. -/
theorem substitute_append (he : Plain e) (hfree : Unentered e token) (before : Option Char)
    (front back : Text) :
    ∃ front', Becomes e v front front' ∧ front'.getLast? = front.getLast? ∧
      substitute e v before (front ++ (token ++ back)) =
        front' ++ substitute e v (front.getLast?.or before) (token ++ back) := by
  induction hn : front.length using Nat.strongRecOn generalizing before front with
  | ind n ih =>
  by_cases hne : front = []
  · subst hne
    exact ⟨[], becomes_self [], rfl, rfl⟩
  · obtain ⟨word, new, rest, ht, hstep, heq⟩ := exists_step (v := v) he before
      (List.append_ne_nil_of_left_ne_nil hne (token ++ back))
    obtain ⟨more, rfl, hlast⟩ := hstep.exists_append hfree rfl ⟨rest, ht.symm⟩ hne
    rw [List.append_assoc, List.append_cancel_left_eq] at ht
    subst ht
    have hword := hstep.ne_nil he
    have hpos := List.length_pos_iff.2 hword
    rw [List.length_append] at hn
    obtain ⟨more', hbecomes, hmore, hsub⟩ := ih _ (by omega) word.getLast? more rfl
    refine ⟨new ++ more', hstep.becomes.append hbecomes, ?_, ?_⟩
    · rw [List.getLast?_append, List.getLast?_append, hmore]
      by_cases hnil : more = []
      · rw [hlast hnil]
      · rw [List.getLast?_eq_some_getLast hnil]
        rfl
    · rw [heq, hsub, List.append_assoc, List.getLast?_append, Option.or_assoc]
      congr 3
      rw [List.getLast?_eq_some_getLast hword]
      rfl

theorem not_delimited_of_apart (h : Apart word t) (ht : t ≠ []) :
    ¬ Delimited word before (t ++ rest) := by
  rintro ⟨-, d, -, hp⟩
  exact h.not_prefix ht (List.prefix_append t rest) ((List.prefix_append word [d]).trans hp)

/-- Characters among which nothing begins that is substituted are copied. -/
theorem substitute_append_of_apart (hname : Apart e.name t) (hupper : Apart e.upper t)
    (hrank : Apart (rankPlace e) t) (before : Option Char) (rest : Text) :
    substitute e v before (t ++ rest) = t ++ substitute e v (t.getLast?.or before) rest := by
  induction t generalizing before with
  | nil => rfl
  | cons c t ih =>
    have hcopied : substitute e v before (c :: (t ++ rest)) =
        c :: substitute e v (some c) (t ++ rest) :=
      substitute_char (not_delimited_of_apart hname (List.cons_ne_nil c t))
        (not_delimited_of_apart hupper (List.cons_ne_nil c t))
        (hrank.not_prefix (List.cons_ne_nil c t) (List.prefix_append (c :: t) rest))
    rw [List.cons_append, hcopied, ih (hname.drop 1) (hupper.drop 1) (hrank.drop 1),
      List.cons_append]
    congr 3
    rw [List.getLast?_cons]
    cases t.getLast? <;> rfl

/-! ## Infix occurrences -/

/-- Beside a letter or a digit a word is not delimited. -/
theorem not_delimited_beside (hbeside : (∃ c ∈ front.getLast?, Text.isAsciiWord c = true) ∨
    ∃ c ∈ back.head?, Text.isAsciiWord c = true) :
    ¬ Delimited token front.getLast? (token ++ back) := by
  rintro ⟨⟨d, hd, hmem⟩, d', hmem', hp⟩
  rcases hbeside with ⟨c, hc, hword⟩ | ⟨c, hc, hword⟩
  · obtain rfl := Option.mem_unique hc hd
    exact Text.not_mem_delimiters hword hmem
  · obtain ⟨more, rfl⟩ := (List.prefix_append_right_inj token).1 hp
    obtain rfl : d' = c := Option.some.inj hc
    exact Text.not_mem_delimiters hword hmem'

/-- A token is copied where it is not delimited and no rank is taken, if nothing begins inside it
that is substituted. -/
theorem substitute_token (hname : ¬ Delimited e.name before (token ++ back))
    (hupper : ¬ Delimited e.upper before (token ++ back)) (hrank : ¬ rankPlace e <+: token ++ back)
    (hne : token ≠ []) (hinner : Apart e.name token.tail ∧ Apart e.upper token.tail ∧
      Apart (rankPlace e) token.tail) :
    substitute e v before (token ++ back) = token ++ substitute e v token.getLast? back := by
  obtain ⟨c, inner, rfl⟩ := List.exists_cons_of_ne_nil hne
  obtain ⟨hname', hupper', hrank'⟩ := hinner
  rw [List.cons_append] at hname hupper hrank ⊢
  rw [List.tail_cons] at hname' hupper' hrank'
  rw [substitute_char hname hupper hrank, substitute_append_of_apart hname' hupper' hrank',
    List.cons_append, List.getLast?_cons]
  cases inner.getLast? <;> rfl

/-- Behind a character that is no delimiter the first character is copied unless a rank is taken
there. -/
theorem head?_substitute (hbefore : ∀ c ∈ before, c ∉ Boundary.delimiters)
    (hrank : ¬ rankPlace e <+: t) : (substitute e v before t).head? = t.head? := by
  have hno {word : Text} : ¬ Delimited word before t := by
    rintro ⟨⟨c, hc, hmem⟩, -⟩
    exact hbefore c hc hmem
  cases t with
  | nil => rw [substitute]
  | cons c t => rw [substitute_char hno hno hrank]; rfl

/-- **Infix occurrences.** Let one of the exemplar's spellings stand directly behind or before an
ASCII letter or digit, and no rank be taken from it. It is kept between what the texts before and
behind it become. The character before it is kept, and the one behind it unless a rank is taken
there. -/
theorem infix_kept (v : Variant)
    (htoken : token = standard.variant.name ∨ token = standard.variant.upper)
    (hbeside : (∃ c ∈ front.getLast?, Text.isAsciiWord c = true) ∨
      ∃ c ∈ back.head?, Text.isAsciiWord c = true)
    (hrank : ¬ rankPlace standard.variant <+: token ++ back) :
    ∃ front' back', render (template (front ++ token ++ back) standard.variant) v =
        .ok (front' ++ token ++ back') ∧
      (Becomes standard.variant v front front' ∧ front'.getLast? = front.getLast?) ∧
      (Becomes standard.variant v back back' ∧
        (¬ rankPlace standard.variant <+: back → back'.head? = back.head?)) := by
  have hplain := separate_standard.toPlain
  have hfree := unentered_standard htoken
  obtain ⟨hword, hkept⟩ : (∀ c ∈ token, c ∉ Boundary.delimiters) ∧
      substitute standard.variant v front.getLast? (token ++ back) =
        token ++ substitute standard.variant v token.getLast? back := by
    rcases htoken with rfl | rfl
    · refine ⟨List.all_iff_forall_prop.1 (by decide), ?_⟩
      exact substitute_token (not_delimited_beside hbeside)
        (not_delimited_of_apart (by decide) (by decide)) hrank (by decide) (by decide)
    · refine ⟨List.all_iff_forall_prop.1 (by decide), ?_⟩
      exact substitute_token (not_delimited_of_apart (by decide) (by decide))
        (not_delimited_beside hbeside) hrank (by decide) (by decide)
  obtain ⟨front', hbecomes, hlast', hsub⟩ := substitute_append (v := v) hplain hfree none front back
  rw [Option.or_none, hkept] at hsub
  refine ⟨front', substitute standard.variant v token.getLast? back, ?_, ⟨hbecomes, hlast'⟩,
    becomes_substitute hplain _ _, head?_substitute fun c hc => hword c (List.mem_of_getLast? hc)⟩
  rw [render_template hplain, symbols, spelled_marks separate_standard v none _ rfl Iff.rfl,
    List.append_assoc, hsub, List.append_assoc]

/-- The name inside a longer one, among words that are replaced and a rank that is taken. -/
theorem infix_kept_arcsinh :
    let front : Text := "(sin) [SIN_OP as usize] arc".toList
    let back : Text := "h_SIN_OP".toList
    let token : Text := standard.variant.name
    (∃ c ∈ front.getLast?, Text.isAsciiWord c = true) ∧
      ¬ rankPlace standard.variant <+: token ++ back ∧
      ∃ front' back', render (template (front ++ token ++ back) standard.variant)
          ⟨"cos".toList, "COS".toList⟩ = .ok (front' ++ token ++ back') ∧
        (Becomes standard.variant ⟨"cos".toList, "COS".toList⟩ front front' ∧
          front'.getLast? = front.getLast?) ∧
        (Becomes standard.variant ⟨"cos".toList, "COS".toList⟩ back back' ∧
          (¬ rankPlace standard.variant <+: back → back'.head? = back.head?)) := by
  intro front back token
  have hletter : ∃ c ∈ front.getLast?, Text.isAsciiWord c = true := ⟨'c', by decide, by decide⟩
  have hrank : ¬ rankPlace standard.variant <+: token ++ back := by decide
  exact ⟨hletter, hrank,
    infix_kept ⟨"cos".toList, "COS".toList⟩ (.inl rfl) (.inl hletter) hrank⟩

/-- Where a rank is taken from another operator whose capitals end in those of the exemplar, they
are replaced inside its capitals. -/
theorem rank_taken_inside_word :
    let front : Text := "[A".toList
    let token : Text := standard.variant.upper
    let back : Text := "_OP as usize]".toList
    (∃ c ∈ front.getLast?, Text.isAsciiWord c = true) ∧
      Variant.derive "cos".toList = .ok ⟨"cos".toList, "COS".toList⟩ ∧
      render (template (front ++ token ++ back) standard.variant) ⟨"cos".toList, "COS".toList⟩ =
        .ok "[ACOS_OP as usize]".toList ∧
      ¬ token <:+: "[ACOS_OP as usize]".toList := by
  intro front token back
  exact ⟨⟨'A', by decide, by decide⟩, by decide +kernel, by decide +kernel, by decide +kernel⟩

end OpScaffold.Exemplar
