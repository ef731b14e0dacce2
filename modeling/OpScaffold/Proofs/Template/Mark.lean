import Mathlib.Data.Bool.AllAny
import OpScaffold.Proofs.Template.Symbol
import OpScaffold.Proofs.Word

/-!
# OpScaffold.Proofs.Template.Mark

Replacing a token in a template by symbols. The text of a template is searched, but what is found
are symbols: a token without braces that is never found inside a field occurs in the text just where
its characters stand as symbols, so the replaced text is a template again (`replaceAll_written`).
-/

namespace OpScaffold

namespace Template

variable {boundary : Boundary} {token : Text}

/-! ## Tokens in symbols -/

/-- The character with which the text of a symbol begins. -/
def Symbol.first : Symbol → Char
  | .char c => c
  | .name | .upper => '{'

/-- The character with which the text of a symbol ends. -/
def Symbol.last : Symbol → Char
  | .char c => c
  | .name | .upper => '}'

/-- Whether the characters of a token stand at the start of symbols, behind the symbol `before`. -/
def marksAt (boundary : Boundary) (token : Text) (before : Option Symbol) (symbols : List Symbol) :
    Bool :=
  (token.map Symbol.char).isPrefixOf symbols &&
    boundary (before.map Symbol.last) ((symbols.drop token.length).head?.map Symbol.first)

/-- The symbols with every successive occurrence of a token replaced; they stand behind the symbol
`before`. -/
def mark (boundary : Boundary) (token : Text) (replacement : List Symbol) :
    (before : Option Symbol) → List Symbol → List Symbol
  | _, [] => []
  | before, s :: rest =>
    if marksAt boundary token before (s :: rest) then
      replacement ++ mark boundary token replacement (token.getLast?.map Symbol.char)
        (rest.drop (token.length - 1))
    else s :: mark boundary token replacement (some s) rest
termination_by _ symbols => symbols.length

/-- A search finds the token at the start of the symbols or keeps the first of them, and goes on
behind that. -/
@[elab_as_elim]
theorem mark_induction {motive : Option Symbol → List Symbol → List Symbol → Prop}
    (boundary : Boundary) (replacement : List Symbol) (ht : token ≠ [])
    (nil : ∀ before, motive before [] [])
    (found : ∀ before rest, marksAt boundary token before (token.map Symbol.char ++ rest) →
      motive (token.getLast?.map Symbol.char) rest
        (mark boundary token replacement (token.getLast?.map Symbol.char) rest) →
      motive before (token.map Symbol.char ++ rest) (replacement ++
        mark boundary token replacement (token.getLast?.map Symbol.char) rest))
    (kept : ∀ before s rest, ¬ marksAt boundary token before (s :: rest) →
      motive (some s) rest (mark boundary token replacement (some s) rest) →
      motive before (s :: rest) (s :: mark boundary token replacement (some s) rest))
    (before : Option Symbol) (symbols : List Symbol) :
    motive before symbols (mark boundary token replacement before symbols) := by
  fun_induction mark boundary token replacement before symbols with
  | case1 before => exact nil before
  | case2 before s rest hm ih =>
    obtain ⟨tail, htail⟩ : token.map Symbol.char <+: s :: rest := by
      unfold marksAt at hm
      rw [Bool.and_eq_true] at hm
      exact List.isPrefixOf_iff_prefix.1 hm.1
    have hrest : rest.drop (token.length - 1) = tail := by
      obtain ⟨c, token', rfl⟩ := List.exists_cons_of_ne_nil ht
      rw [← (List.cons.inj htail).2, List.length_cons, Nat.add_sub_cancel]
      exact List.drop_left' (List.length_map _)
    rw [hrest] at ih ⊢
    rw [← htail] at hm ⊢
    exact found before tail hm ih
  | case3 before s rest hm ih => exact kept before s rest hm ih

/-- A token that is not found inside a field: it has no braces, and it has a low line or must not
stand behind the characters of a field. -/
structure Clear (boundary : Boundary) (token : Text) : Prop where
  ne_nil : token ≠ []
  plain : ∀ c ∈ token, c ≠ '{' ∧ c ≠ '}'
  outside : (∀ c ∉ Boundary.delimiters, ∀ after, boundary (some c) after = false) ∨ '_' ∈ token

theorem Symbol.written_ne_nil (s : Symbol) : s.written ≠ [] := by
  cases s with
  | char c => rw [written_char]; split <;> simp
  | name => decide
  | upper => decide

theorem Symbol.head?_written (s : Symbol) : s.written.head? = some s.first := by
  cases s with
  | char c => rw [written_char]; split <;> rfl
  | name => rfl
  | upper => rfl

theorem Symbol.eq_first_of_prefix {s : Symbol} {c : Char} {t u : Text}
    (h : c :: t <+: s.written ++ u) : c = s.first := by
  obtain ⟨rest, hrest⟩ := h
  have hhead := congrArg List.head? hrest
  rw [List.cons_append, List.head?_cons, List.head?_append, s.head?_written] at hhead
  exact Option.some.inj hhead

theorem Symbol.getLast_written (s : Symbol) : s.written.getLast s.written_ne_nil = s.last := by
  cases s with
  | char c => simp only [written_char]; split <;> rfl
  | name => rfl
  | upper => rfl

theorem head?_written (symbols : List Symbol) :
    (written symbols).head? = symbols.head?.map Symbol.first := by
  cases symbols with
  | nil => rfl
  | cons s rest => rw [written_cons, List.head?_append, s.head?_written]; rfl

/-- Characters that are no braces are written once. -/
theorem written_map_char {t : Text} (h : ∀ c ∈ t, c ≠ '{' ∧ c ≠ '}') :
    written (t.map Symbol.char) = t := by
  induction t with
  | nil => rfl
  | cons c t ih =>
    have hc := h c (by simp)
    rw [List.map_cons, written_cons, ih fun d hd => h d (by simp [hd])]
    simp [Symbol.written, hc]

/-- A template begins with the text of a token just where it begins with its characters. -/
theorem prefix_written_iff (h : ∀ c ∈ token, c ≠ '{' ∧ c ≠ '}') {symbols : List Symbol} :
    token <+: written symbols ↔ token.map Symbol.char <+: symbols := by
  induction token generalizing symbols with
  | nil => simp
  | cons c token ih =>
    have hc := h c (by simp)
    cases symbols with
    | nil => simp
    | cons s rest =>
      rw [written_cons, List.map_cons, List.cons_prefix_cons]
      cases s with
      | char d =>
        by_cases hd : d = '{' ∨ d = '}'
        · have hcd : c ≠ d := by rintro rfl; exact hd.elim hc.1 hc.2
          simp [Symbol.written, hd, hcd, List.cons_prefix_cons]
        · simp [Symbol.written, hd, List.cons_prefix_cons, ih fun e he => h e (by simp [he])]
      | name => exact iff_of_false (fun hp => hc.1 (Symbol.eq_first_of_prefix hp)) (by simp)
      | upper => exact iff_of_false (fun hp => hc.1 (Symbol.eq_first_of_prefix hp)) (by simp)

/-- In a template a token stands where it marks the symbols. -/
theorem standsAt_written (h : ∀ c ∈ token, c ≠ '{' ∧ c ≠ '}') (before : Option Symbol)
    (symbols : List Symbol) :
    standsAt boundary token (before.map Symbol.last) (written symbols) =
      marksAt boundary token before symbols := by
  rw [standsAt_eq, marksAt]
  by_cases hp : token.map Symbol.char <+: symbols
  · obtain ⟨rest, rfl⟩ := hp
    have hdrop : (token.map Symbol.char ++ rest).drop token.length = rest :=
      List.drop_left' (List.length_map _)
    rw [written_append, written_map_char h, List.drop_left, head?_written, hdrop,
      List.isPrefixOf_iff_prefix.2 (List.prefix_append _ _),
      List.isPrefixOf_iff_prefix.2 (List.prefix_append _ _)]
  · have hw := mt (prefix_written_iff h).1 hp
    rw [Bool.eq_false_iff.2 (mt List.isPrefixOf_iff_prefix.1 hw),
      Bool.eq_false_iff.2 (mt List.isPrefixOf_iff_prefix.1 hp)]
    rfl

/-- Inside the text of a symbol no token is found. -/
theorem Clear.standsAt_within (h : Clear boundary token) {s : Symbol} {u w : Text} {c : Char}
    (hs : s.written = u ++ c :: w) (hw : w ≠ []) (t : Text) :
    standsAt boundary token (some c) (w ++ t) = false := by
  obtain ⟨d, token', rfl⟩ := List.exists_cons_of_ne_nil h.ne_nil
  have hd := h.plain d (by simp)
  have hfield (field : Text) (hf : field = u ++ c :: w) (hclose : field.getLast? = some '}')
      (hlow : '_' ∉ field) (hdel : ∀ c ∈ field, c ∉ Boundary.delimiters) :
      standsAt boundary (d :: token') (some c) (w ++ t) = false := by
    rw [standsAt_eq]
    rcases h.outside with hb | hmem
    · rw [hb c (hdel c (by simp [hf])), Bool.and_false]
    · have hno : ¬ d :: token' <+: w ++ t := by
        intro hp
        rcases List.prefix_or_prefix_of_prefix hp (List.prefix_append w t) with hin | hout
        · exact hlow (by simp [hf, hin.subset hmem])
        · have hlast : '}' ∈ w := by
            rw [hf, List.getLast?_append, List.getLast?_cons,
              List.getLast?_eq_some_getLast hw] at hclose
            exact Option.some.inj hclose ▸ List.getLast_mem hw
          exact (h.plain _ (hout.subset hlast)).2 rfl
      rw [Bool.eq_false_iff.2 (mt List.isPrefixOf_iff_prefix.1 hno), Bool.false_and]
  cases s with
  | char e =>
    rw [Symbol.written_char] at hs
    split at hs
    · next he =>
      have hwe : w = [e] := by
        have hsuffix : w <:+ [e, e] := ⟨u ++ [c], by simp [hs]⟩
        have hlength : w ≠ [e, e] := by rintro rfl; simpa using congrArg List.length hs
        simpa [List.suffix_cons_iff, hw, hlength] using hsuffix
      have hde : d ≠ e := by rintro rfl; exact he.elim hd.1 hd.2
      rw [standsAt_eq, hwe]
      simp [hde]
    · exact absurd (List.append_eq_singleton_iff.1 hs.symm) (by simp [hw])
  | name => exact hfield _ hs rfl (by decide) (List.all_iff_forall_prop.1 (by decide))
  | upper => exact hfield _ hs rfl (by decide) (List.all_iff_forall_prop.1 (by decide))

/-- The text of a symbol that is not marked is kept. -/
theorem Clear.replaceFrom_symbol (h : Clear boundary token) (replacement : Text)
    {before : Option Symbol} {s : Symbol} {rest : List Symbol}
    (hno : marksAt boundary token before (s :: rest) = false) :
    replaceFrom boundary token replacement (before.map Symbol.last) 0 (written (s :: rest)) =
      s.written ++ replaceFrom boundary token replacement (some s.last) 0 (written rest) := by
  rw [← standsAt_written h.plain, written_cons] at hno
  obtain ⟨c, w, hs⟩ := List.exists_cons_of_ne_nil s.written_ne_nil
  have hlast : (c :: w).getLast (by simp) = s.last := by
    rw [← s.getLast_written]; simp only [hs]
  rw [written_cons]
  rw [hs, List.cons_append] at hno ⊢
  rw [replaceFrom_cons_of_not_standsAt replacement hno,
    replaceFrom_append_of_not_standsAt replacement fun _ _ _ hx hne =>
      h.standsAt_within (hs.trans hx) hne _, hlast, List.cons_append]

/-- Replacing a token in a template marks its symbols. -/
theorem Clear.replaceFrom_written (h : Clear boundary token) (replacement : List Symbol)
    (before : Option Symbol) (symbols : List Symbol) :
    replaceFrom boundary token (written replacement) (before.map Symbol.last) 0 (written symbols) =
      written (mark boundary token replacement before symbols) := by
  induction before, symbols using mark_induction boundary replacement h.ne_nil with
  | nil before =>
    obtain ⟨c, token', rfl⟩ := List.exists_cons_of_ne_nil h.ne_nil
    simp [replaceFrom, standsAt_eq]
  | found before rest hm ih =>
    have hstands := (standsAt_written h.plain before _).trans hm
    rw [written_append, written_map_char h.plain] at hstands ⊢
    have hlast : (token.getLast?.map Symbol.char).map Symbol.last = token.getLast? := by
      rw [Option.map_map]
      exact Option.map_id_apply
    rw [replaceFrom_of_standsAt _ h.ne_nil hstands, written_append, ← ih, hlast]
  | kept before s rest hm ih =>
    rw [h.replaceFrom_symbol _ (by simpa using hm), written_cons]
    exact congrArg _ ih

/-- The text of a template with a token replaced is the text of the marked symbols. -/
theorem Clear.replaceAll_written (h : Clear boundary token) (replacement symbols : List Symbol) :
    replaceAll boundary token (written replacement) (written symbols) =
      written (mark boundary token replacement none symbols) :=
  h.replaceFrom_written replacement none symbols

end Template

end OpScaffold
