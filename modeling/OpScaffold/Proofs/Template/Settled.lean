import OpScaffold.Proofs.Exemplar

/-!
# OpScaffold.Proofs.Template.Settled

Symbols in which some words are settled: each field stands between delimiters, and none of the
words stands between delimiters as characters (`Settled`). Searching for a word between delimiters
settles it and leaves the others settled (`Settled.mark`). Replacing one token by another can be
undone where the other does not occur and none of the two begins inside the other (`mark_mark`).
-/

namespace OpScaffold.Template

variable {boundary : Boundary} {token word t u : Text} {replacement symbols rest : List Symbol}
  {before : Option Symbol} {v : Variant} {words : List Text} {s : Symbol} {c d : Char}

/-! ## What is shown -/

/-- What replaces a token shows what the token does, for the symbols as for itself. -/
theorem spelled_mark (ht : token ≠ []) (hr : spelled v replacement = token)
    (before : Option Symbol) (symbols : List Symbol) :
    spelled v (mark boundary token replacement before symbols) = spelled v symbols := by
  induction before, symbols using mark_induction boundary replacement ht with
  | nil => rfl
  | found _ rest _ ih => rw [spelled_append, spelled_append, ih, hr, spelled_map_char]
  | kept _ s rest _ ih => rw [spelled_cons, spelled_cons, ih]

/-- What is shown depends on what the replacement shows. -/
theorem spelled_mark_congr {replacement' : List Symbol}
    (hr : spelled v replacement = spelled v replacement') (before : Option Symbol)
    (symbols : List Symbol) :
    spelled v (mark boundary token replacement before symbols) =
      spelled v (mark boundary token replacement' before symbols) := by
  fun_induction mark boundary token replacement before symbols with
  | case1 => rw [mark]
  | case2 before s rest hm ih => rw [mark, if_pos hm, spelled_append, spelled_append, hr, ih]
  | case3 before s rest hm ih => rw [mark, if_neg hm, spelled_cons, spelled_cons, ih]

/-! ## Characters behind a replacement -/

/-- A text that does not have the first character of a token is apart from it. -/
theorem apart_of_head_not_mem (h : ∃ c ∈ token.head?, c ∉ t) : Apart token t := by
  obtain ⟨c, hc, hnot⟩ := h
  obtain ⟨token', rfl⟩ := List.head?_eq_some_iff.1 hc
  refine fun k hk => ⟨fun hp => hnot (List.mem_of_mem_drop (hp.subset List.mem_cons_self)), ?_⟩
  rw [List.drop_eq_getElem_cons hk, List.cons_prefix_cons]
  rintro ⟨rfl, -⟩
  exact hnot (List.getElem_mem hk)

/-- Where a replacement begins with characters, those of a text apart from them were there
before. -/
theorem prefix_of_prefix_mark_of_apart (h : Apart u t)
    (hp : t.map Symbol.char <+:
      mark boundary token (u.map Symbol.char ++ replacement) before symbols) :
    t.map Symbol.char <+: symbols := by
  induction t generalizing before symbols with
  | nil => simp
  | cons c t ih =>
    cases symbols with
    | nil => rwa [mark] at hp
    | cons s rest =>
      rw [mark] at hp
      split at hp
      · rw [List.append_assoc] at hp
        exact absurd (List.prefix_append _ _) (h.not_prefix_symbols (by simp) hp)
      · obtain ⟨hc, hrest⟩ := List.cons_prefix_cons.1 hp
        exact List.cons_prefix_cons.2
          ⟨hc, ih (h.drop 1) hrest⟩

/-- Fields that replace a token add no characters. -/
theorem infix_of_infix_mark (hs : ∀ c, s ≠ .char c) (ht : token ≠ []) (hu : u ≠ [])
    (h : u.map Symbol.char <:+: mark boundary token [s] before symbols) :
    u.map Symbol.char <:+: symbols := by
  obtain ⟨c, u', rfl⟩ := List.exists_cons_of_ne_nil hu
  induction before, symbols using mark_induction boundary [s] ht with
  | nil => exact h
  | found _ rest _ ih =>
    rw [List.singleton_append, List.infix_cons_iff] at h
    rcases h with hp | hi
    · exact absurd (List.cons_prefix_cons.1 hp).1.symm (hs c)
    · exact (ih hi).trans (List.suffix_append _ _).isInfix
  | kept _ s' rest hm ih =>
    rw [List.infix_cons_iff] at h
    rcases h with hp | hi
    · rw [← mark_cons_of_not_marksAt hm] at hp
      exact (prefix_of_prefix_mark hs hp).isInfix
    · exact (ih hi).trans (List.suffix_cons _ _).isInfix

/-- Replacing a token by another and this one by something else replaces the first at once, unless
the other occurs already. -/
theorem mark_mark (ht : token ≠ []) (hu : u ≠ []) (hself : Apart u u.tail)
    (hno : ¬ u.map Symbol.char <:+: symbols) (before before' : Option Symbol) :
    mark .anywhere u replacement before' (mark .anywhere token (u.map Symbol.char) before symbols) =
      mark .anywhere token replacement before symbols := by
  induction before, symbols using mark_induction .anywhere (u.map Symbol.char) ht
    generalizing before' with
  | nil => rw [mark, mark]
  | found before rest hm ih =>
    have hrest : ¬ u.map Symbol.char <:+: rest := fun hi =>
      hno (hi.trans (List.suffix_append _ _).isInfix)
    rw [mark_of_marksAt hu (marksAt_anywhere_iff.2 (List.prefix_append _ _)), mark_of_marksAt ht hm,
      ih hrest]
  | kept before s rest hm ih =>
    have hrest : ¬ u.map Symbol.char <:+: rest := fun hi =>
      hno (hi.trans (List.suffix_cons _ _).isInfix)
    have hfirst : ¬ marksAt .anywhere u before'
        (s :: mark .anywhere token (u.map Symbol.char) (some s) rest) := by
      rw [marksAt_anywhere_iff]
      obtain ⟨c, u', rfl⟩ := List.exists_cons_of_ne_nil hu
      intro hp
      obtain ⟨hs, htail⟩ := List.cons_prefix_cons.1 hp
      rw [← List.append_nil (List.map Symbol.char (c :: u'))] at htail
      exact hno (List.cons_prefix_cons.2
        ⟨hs, prefix_of_prefix_mark_of_apart hself htail⟩).isInfix
    rw [mark_cons_of_not_marksAt hfirst, mark_cons_of_not_marksAt hm, ih hrest]

/-! ## Words between delimiters -/

/-- A text without delimiters that is not empty. -/
def IsWord (word : Text) : Prop := word ≠ [] ∧ ∀ c ∈ word, c ∉ Boundary.delimiters

/-- Whether symbols begin with the characters of a word and a delimiter. -/
def OpensWith (word : Text) (symbols : List Symbol) : Prop :=
  ∃ d ∈ Boundary.delimiters, (word ++ [d]).map Symbol.char <+: symbols

/-- Whether a delimiter stands before some symbols. -/
def IsBehind (before : Option Symbol) : Prop :=
  ∃ c ∈ before.map Symbol.last, c ∈ Boundary.delimiters

theorem marksAt_word_iff :
    marksAt .delimited word before symbols = true ↔ IsBehind before ∧ OpensWith word symbols :=
  marksAt_delimited_iff

theorem opensWith_cons {x : Char} :
    OpensWith (x :: word) (s :: symbols) ↔ .char x = s ∧ OpensWith word symbols := by
  simp only [OpensWith, List.cons_append, List.map_cons, List.cons_prefix_cons]
  constructor
  · rintro ⟨d, hd, hs, hp⟩
    exact ⟨hs, d, hd, hp⟩
  · rintro ⟨hs, d, hd, hp⟩
    exact ⟨d, hd, hs, hp⟩

theorem isBehind_char : IsBehind (some (.char c)) ↔ c ∈ Boundary.delimiters := by
  simp [IsBehind, Symbol.last]

theorem not_isBehind_field (hs : ∀ c, s ≠ .char c) : ¬ IsBehind (some s) := by
  rintro ⟨c, hc, hmem⟩
  cases s with
  | char c => exact hs c rfl
  | name => cases hc; exact absurd hmem (by decide)
  | upper => cases hc; exact absurd hmem (by decide)

theorem IsWord.not_isBehind (h : IsWord word) : ¬ IsBehind (word.getLast?.map Symbol.char) := by
  rintro ⟨c, hc, hmem⟩
  rw [Exemplar.map_last_map_char] at hc
  exact h.2 c (List.mem_of_getLast? hc) hmem

/-- A word does not begin with a delimiter. -/
theorem IsWord.not_marksAt_delimiter (h : IsWord word) (hd : d ∈ Boundary.delimiters) {u : Text} :
    ¬ marksAt boundary (word ++ u) before (.char d :: rest) := by
  obtain ⟨hne, hmem⟩ := h
  obtain ⟨c, word', rfl⟩ := List.exists_cons_of_ne_nil hne
  rw [marksAt, Bool.and_eq_true, List.isPrefixOf_iff_prefix, List.cons_append, List.map_cons,
    List.cons_prefix_cons]
  rintro ⟨⟨hc, -⟩, -⟩
  cases hc
  exact hmem d (by simp) hd

/-- Whether a delimiter stands before what is behind a text; `behind` tells it of the text. -/
def isBehindText (behind : Bool) (t : Text) : Bool :=
  t.foldl (fun _ c => decide (c ∈ Boundary.delimiters)) behind

theorem IsWord.isBehindText (h : IsWord word) (behind : Bool) :
    isBehindText behind word = false := by
  obtain ⟨hne, hmem⟩ := h
  rcases List.eq_nil_or_concat word with rfl | ⟨u, c, rfl⟩
  · exact absurd rfl hne
  · rw [List.concat_eq_append] at hmem ⊢
    rw [Template.isBehindText, List.foldl_append]
    exact decide_eq_false (hmem c (by simp))

theorem isBehindText_iff :
    isBehindText false t = true ↔ ∃ c ∈ t.getLast?, c ∈ Boundary.delimiters := by
  rcases List.eq_nil_or_concat t with rfl | ⟨u, c, rfl⟩
  · simp [isBehindText]
  · simp [isBehindText, List.foldl_append]

/-- What begins with a word begins with it too if the symbols behind some characters are
changed. -/
theorem opensWith_append_congr {rest' : List Symbol}
    (hrest : ∀ tail, tail <:+ word → OpensWith tail rest' → OpensWith tail rest)
    (h : OpensWith word (t.map Symbol.char ++ rest')) :
    OpensWith word (t.map Symbol.char ++ rest) := by
  induction t generalizing word with
  | nil => exact hrest word List.suffix_rfl h
  | cons c t ih =>
    cases word with
    | nil =>
      obtain ⟨d, hd, hp⟩ := h
      obtain ⟨hdc, -⟩ := List.cons_prefix_cons.1 hp
      exact ⟨d, hd, List.cons_prefix_cons.2 ⟨hdc, List.nil_prefix⟩⟩
    | cons x word =>
      obtain ⟨hx, hopens⟩ := opensWith_cons.1 h
      exact opensWith_cons.2 ⟨hx, ih (fun tail ht => hrest tail (ht.trans (List.suffix_cons _ _)))
        hopens⟩

/-- Behind a first character it is the tails of the word that count. -/
theorem opensWith_cons_append_congr {rest' : List Symbol}
    (hrest : ∀ tail, tail <:+ word.tail → OpensWith tail rest' → OpensWith tail rest)
    (h : OpensWith word (.char c :: (t.map Symbol.char ++ rest'))) :
    OpensWith word (.char c :: (t.map Symbol.char ++ rest)) := by
  cases word with
  | nil =>
    obtain ⟨d, hd, hp⟩ := h
    obtain ⟨hdc, -⟩ := List.cons_prefix_cons.1 hp
    exact ⟨d, hd, List.cons_prefix_cons.2 ⟨hdc, List.nil_prefix⟩⟩
  | cons x word =>
    obtain ⟨hx, hopens⟩ := opensWith_cons.1 h
    exact opensWith_cons.2 ⟨hx, opensWith_append_congr hrest hopens⟩

/-- Symbols in which some words are settled; `behind` tells that a delimiter stands before them. -/
inductive Settled (words : List Text) : (behind : Bool) → List Symbol → Prop
  | nil {behind : Bool} : Settled words behind []
  | char {behind : Bool} {c : Char} {rest : List Symbol}
      (hfree : behind = true → ∀ word ∈ words, ¬ OpensWith word (.char c :: rest))
      (hrest : Settled words (decide (c ∈ Boundary.delimiters)) rest) :
      Settled words behind (.char c :: rest)
  | field {s : Symbol} {d : Char} {rest : List Symbol} (hs : ∀ c, s ≠ .char c)
      (hd : d ∈ Boundary.delimiters) (hrest : Settled words false (.char d :: rest)) :
      Settled words true (s :: .char d :: rest)

namespace Settled

variable {behind : Bool}

theorem char_cons_iff : Settled words behind (.char c :: rest) ↔
    (behind = true → ∀ word ∈ words, ¬ OpensWith word (.char c :: rest)) ∧
      Settled words (decide (c ∈ Boundary.delimiters)) rest := by
  refine ⟨fun h => ?_, fun h => .char h.1 h.2⟩
  cases h with
  | char hfree hrest => exact ⟨hfree, hrest⟩
  | field hs => exact absurd rfl (hs c)

theorem mono {words' : List Text} (hsub : words' ⊆ words) (h : Settled words behind symbols) :
    Settled words' behind symbols := by
  induction h with
  | nil => exact .nil
  | char hfree _ ih => exact .char (fun hb word hw => hfree hb word (hsub hw)) ih
  | field hs hd _ ih => exact .field hs hd ih

/-- Behind a delimiter the symbols do not begin with a settled word. -/
theorem not_opensWith (h : Settled words true symbols) (hw : word ∈ words) :
    ¬ OpensWith word symbols := by
  cases h with
  | nil => rintro ⟨d, -, hp⟩; simp at hp
  | char hfree _ => exact hfree rfl word hw
  | field hs _ _ =>
    rintro ⟨d, -, hp⟩
    cases word with
    | nil => exact hs d (List.cons_prefix_cons.1 hp).1.symm
    | cons c _ => exact hs c (List.cons_prefix_cons.1 hp).1.symm

theorem of_map_append (h : Settled words behind (t.map Symbol.char ++ rest)) :
    Settled words (isBehindText behind t) rest := by
  induction t generalizing behind with
  | nil => exact h
  | cons c t ih => exact ih (char_cons_iff.1 h).2

/-- Behind the characters of a word no delimiter stands. -/
theorem of_word_append (hw : IsWord word)
    (h : Settled words behind (word.map Symbol.char ++ rest)) : Settled words false rest := by
  have hrest := h.of_map_append
  rwa [hw.isBehindText] at hrest

/-- Characters of words may stand where no delimiter is before them. -/
theorem word_append (hw : ∀ c ∈ word, c ∉ Boundary.delimiters) (h : Settled words false rest) :
    Settled words false (word.map Symbol.char ++ rest) := by
  induction word with
  | nil => exact h
  | cons c word ih =>
    refine .char (fun hb => absurd hb (by simp)) ?_
    rw [decide_eq_false (hw c (by simp))]
    exact ih fun d hd => hw d (by simp [hd])

/-- The symbols behind some characters may be changed if no settled word begins in the characters
because of that. -/
theorem append_congr {rest' : List Symbol}
    (hrest : ∀ word ∈ words, ∀ tail, tail <:+ word.tail →
      OpensWith tail rest' → OpensWith tail rest)
    (h : Settled words behind (t.map Symbol.char ++ rest))
    (h' : Settled words (isBehindText behind t) rest') :
    Settled words behind (t.map Symbol.char ++ rest') := by
  induction t generalizing behind with
  | nil => exact h'
  | cons c t ih =>
    obtain ⟨hfree, hbehind⟩ := char_cons_iff.1 h
    exact .char (fun hb word hw ho => hfree hb word hw
      (opensWith_cons_append_congr (hrest word hw) ho)) (ih hbehind h')

/-- Symbols that show a word with a delimiter behind it begin with them, unless a field comes
first. -/
theorem opensWith_of_spelled (hw : ∀ c ∈ word, c ∉ Boundary.delimiters)
    (h : Settled words false symbols)
    (ho : OpensWith word ((spelled v symbols).map Symbol.char)) : OpensWith word symbols := by
  induction word generalizing symbols with
  | nil =>
    obtain ⟨d, hd, hp⟩ := ho
    cases h with
    | nil => simp at hp
    | char _ _ =>
      rw [spelled_cons, List.map_append] at hp
      obtain ⟨rfl, -⟩ := by simpa [Symbol.spelled, List.cons_prefix_cons] using hp
      exact ⟨d, hd, by simp⟩
  | cons x word ih =>
    cases h with
    | nil => obtain ⟨d, hd, hp⟩ := ho; simp at hp
    | @char _ c rest _ hrest =>
      obtain ⟨hx, hopens⟩ := opensWith_cons.1 ho
      cases hx
      rw [decide_eq_false (hw x (by simp))] at hrest
      exact opensWith_cons.2 ⟨rfl, ih (fun d hd => hw d (by simp [hd])) hrest hopens⟩

/-- Searching for a word between delimiters settles it. -/
theorem mark (hw : IsWord word) (hs : ∀ c, s ≠ .char c) (hb : IsBehind before ↔ behind = true)
    (h : Settled words behind symbols) :
    Settled (word :: words) behind (Template.mark .delimited word [s] before symbols) := by
  induction before, symbols using mark_induction .delimited [s] hw.1
    generalizing behind with
  | nil => exact .nil
  | found before rest hm ih =>
    obtain ⟨hbehind, d, hd, hp⟩ := marksAt_word_iff.1 hm
    rw [List.map_append, List.prefix_append_right_inj] at hp
    obtain ⟨tail, rfl⟩ : ∃ tail, rest = .char d :: tail := hp.imp fun _ => Eq.symm
    have hmarked := ih (iff_of_false hw.not_isBehind (by simp)) (h.of_word_append hw)
    rw [List.singleton_append]
    rw [mark_cons_of_not_marksAt (List.append_nil word ▸ hw.not_marksAt_delimiter hd)] at hmarked ⊢
    rw [hb.1 hbehind]
    exact .field hs hd hmarked
  | kept before s' rest hm ih =>
    cases h with
    | @char _ c _ hfree hrest =>
      refine .char (fun hbehind word' hword' ho => ?_) (ih (by simp [isBehind_char]) hrest)
      obtain ⟨d, hd, hp⟩ := ho
      rw [← mark_cons_of_not_marksAt hm] at hp
      have ho' : OpensWith word' (.char c :: rest) := ⟨d, hd, prefix_of_prefix_mark hs hp⟩
      rcases List.mem_cons.1 hword' with rfl | hword'
      · exact hm (marksAt_word_iff.2 ⟨hb.2 hbehind, ho'⟩)
      · exact hfree hbehind word' hword' ho'
    | @field _ d rest hs' hd hrest =>
      have hmarked := ih (iff_of_false (not_isBehind_field hs') (by simp)) hrest
      rw [mark_cons_of_not_marksAt (List.append_nil word ▸ hw.not_marksAt_delimiter hd)]
        at hmarked ⊢
      exact .field hs' hd hmarked

/-- In the characters of a text those words are settled that do not occur between delimiters. -/
theorem of_not_occurs (h : ∀ word ∈ words, occurs .delimited word t = false) :
    Settled words false (t.map Symbol.char) := by
  have hrest : ∀ front rest, t = front ++ rest →
      Settled words (isBehindText false front) (rest.map Symbol.char) := by
    intro front rest
    induction rest generalizing front with
    | nil => exact fun _ => .nil
    | cons c rest ih =>
      intro ht
      refine .char (fun hb word hw ho => ?_) ?_
      · obtain ⟨d, hd, hp⟩ := ho
        obtain ⟨more, hmore⟩ := map_char_prefix_iff.1 ((List.map_cons ..).symm ▸ hp)
        have hoccurs : occurs .delimited word t = true := by
          refine occurs_iff.2 ⟨front, d :: more, by simp [ht, ← hmore], ?_⟩
          exact delimited_eq_true_iff.2 ⟨isBehindText_iff.1 hb, d, rfl, hd⟩
        rw [h word hw] at hoccurs
        cases hoccurs
      · have hsnoc := ih (front ++ [c]) (by rw [ht, List.append_assoc, List.singleton_append])
        rwa [isBehindText, List.foldl_append] at hsnoc
  exact hrest [] t rfl

end Settled

end OpScaffold.Template
