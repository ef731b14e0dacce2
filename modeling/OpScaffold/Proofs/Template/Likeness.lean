import OpScaffold.Proofs.Action
import OpScaffold.Template.Render

/-!
# OpScaffold.Proofs.Template.Likeness

One template filled in for two variants. What it reaches from the spellings of the one and of the
other is alike (`Alike`): the spellings themselves, characters of them, and functions taken from
them. So where the template can be filled in for the one variant, the other one stops it in two
ways alone: a position in brackets is beyond its end (`Overreaches`), or a directive with fields in
it comes out as one that its value does not take (`Field.FallsShort`, `exists_render_iff`).
-/

namespace OpScaffold.Template

variable {v w : Variant} {x y x' y' : Value} {a : Accessor} {as : List Accessor}
  {path s t d : Text} {inner inner' : Text → Except Error Text} {f : Field}

/-! ## Values -/

namespace Value

theorem property_text (t name : Text) : property (.text t) name =
    .ok (if String.ofList name = "__class__" then .type .text else .nothing) := by
  unfold property
  split <;> simp_all [Value.kind]

theorem property_method (owner : Kind) (m : Member) (self : Value) (name : Text) :
    property (.method owner m self) name =
      if String.ofList name = "__class__" then .ok (.type .method)
      else if String.ofList name = "__self__" then
        .ok (if m.form = .freeFunction then .nothing else self)
      else .ok (memberProperty self.qualifier m name) := by
  unfold property
  split <;> simp_all [Value.kind]

theorem property_operation (owner : Kind) (m : Member) (self : Value) (name : Text) :
    property (.operation owner m self) name =
      if String.ofList name = "__class__" then .ok (.type .operation)
      else if String.ofList name = "__self__" then .ok self
      else if String.ofList name = "__objclass__" then .ok (.type owner)
      else .ok (memberProperty owner.ownName m name) := by
  unfold property
  split <;> simp_all [Value.kind]

/-- The items of a text are its characters. -/
theorem item?_text (t : Text) (n : Nat) : item? (.position n) (.text t) =
    match t[n]? with
    | some c => .ok (.text [c])
    | none => .error (.indexOutOfRange .text) := by
  unfold item? itemOf
  dsimp only
  rw [List.getElem?_map]
  cases t[n]? <;> rfl

end Value

/-- Values that a template reaches for two variants in the same way. -/
inductive Alike (v w : Variant) : Value → Value → Prop
  | same (x : Value) : Alike v w x x
  | name : Alike v w (.text v.name) (.text w.name)
  | upper : Alike v w (.text v.upper) (.text w.upper)
  /-- Single characters of spellings. -/
  | text {t u : Text} (h : t.length = u.length) : Alike v w (.text t) (.text u)
  | method {x y : Value} (owner : Kind) (m : Member) (h : Alike v w x y) :
      Alike v w (.method owner m x) (.method owner m y)
  | operation {x y : Value} (owner : Kind) (m : Member) (h : Alike v w x y) :
      Alike v w (.operation owner m x) (.operation owner m y)

namespace Alike

theorem kind_eq (h : Alike v w x y) : x.kind = y.kind := by
  cases h <;> rfl

theorem qualifier_eq (h : Alike v w x y) : x.qualifier = y.qualifier := by
  cases h <;> rfl

/-- What a value tells about itself. -/
theorem property (h : Alike v w x y) {name : Text} (hx : x.property name = .ok x') :
    ∃ y', y.property name = .ok y' ∧ Alike v w x' y' := by
  cases h with
  | same => exact ⟨x', hx, .same x'⟩
  | name | upper | text =>
    rw [Value.property_text] at hx ⊢
    exact ⟨x', hx, .same x'⟩
  | method owner m h =>
    rw [Value.property_method] at hx ⊢
    rw [← h.qualifier_eq]
    split at hx
    · next hclass => exact ⟨x', (if_pos hclass).trans hx, .same x'⟩
    next hclass =>
    rw [if_neg hclass]
    split at hx
    · next hself =>
      cases hx
      refine ⟨_, if_pos hself, ?_⟩
      split
      · exact .same _
      · exact h
    · next hself => exact ⟨x', (if_neg hself).trans hx, .same x'⟩
  | operation owner m h =>
    rw [Value.property_operation] at hx ⊢
    split at hx
    · next hclass => exact ⟨x', (if_pos hclass).trans hx, .same x'⟩
    next hclass =>
    rw [if_neg hclass]
    split at hx
    · next hself =>
      cases hx
      exact ⟨_, if_pos hself, h⟩
    · next hself => exact ⟨x', (if_neg hself).trans hx, .same x'⟩

/-- A member that is taken from a value. -/
theorem take (h : Alike v w x y) {owner : Kind} {m : Member} (hx : x.take owner m = .ok x') :
    ∃ y', y.take owner m = .ok y' ∧ Alike v w x' y' := by
  unfold Value.take at hx ⊢
  cases hform : m.form <;> rw [hform] at hx <;> dsimp only at hx ⊢
  case property | field => exact h.property hx
  case function => cases hx; exact ⟨_, rfl, .method owner m h⟩
  case operator => cases hx; exact ⟨_, rfl, .operation owner m h⟩
  case typeFunction => cases hx; exact ⟨_, rfl, h.kind_eq ▸ .same _⟩
  all_goals cases hx; exact ⟨_, rfl, .same _⟩

theorem plainMember? (h : Alike v w x y) {name : Text} (hx : x.plainMember? name = .ok x') :
    ∃ y', y.plainMember? name = .ok y' ∧ Alike v w x' y' := by
  unfold Value.plainMember? at hx ⊢
  rw [← h.kind_eq]
  cases hm : x.kind.member? name with
  | none => rw [hm] at hx; cases hx
  | some found =>
    rw [hm] at hx
    exact h.take hx

theorem member? (h : Alike v w x y) {name : Text} (hx : x.member? name = .ok x') :
    ∃ y', y.member? name = .ok y' ∧ Alike v w x' y' := by
  have hplain : x.plainMember? name = .ok x' →
      ∃ y', y.plainMember? name = .ok y' ∧ Alike v w x' y' := h.plainMember?
  cases h with
  | same => exact ⟨x', hx, .same x'⟩
  | name | upper | text | method | operation => exact hplain hx

end Alike

/-! ## Accessors -/

theorem access_member_eq_ok_iff {name : Text} :
    access x (.member name) = .ok x' ↔ name ≠ [] ∧ x.member? name = .ok x' := by
  unfold access
  cases name <;> simp

theorem access_item_eq_ok_iff {key : Text} :
    access x (.item key) = .ok x' ↔ key ≠ [] ∧ ∃ position, wholeNumber key = .ok position ∧
      x.item? ((position.map Key.position).getD (.name key)) = .ok x' := by
  unfold access
  cases hkey : wholeNumber key with
  | error fault => simp [hkey]
  | ok position => cases key <;> simp [hkey]

/-- Whether an accessor asks a spelling of `w` for a position that it does not have, and that the
spellings of `v` have. -/
inductive Overruns (v w : Variant) : Value → Accessor → Prop
  | intro {t key : Text} {n : Nat} (hspelling : t = w.name ∨ t = w.upper)
      (hkey : wholeNumber key = .ok (some n)) (hshort : w.name.length ≤ n)
      (hlong : n < v.name.length) : Overruns v w (.text t) (.item key)

/-- Whether a path overruns a spelling of `w`. -/
inductive Overreaches (v w : Variant) (path : Text) : Prop
  | intro {x y : Value} {before after : List Accessor} {a : Accessor}
      (hvalue : fieldValue w (path.takeWhile isNamePart) = .ok x)
      (hpath : accessors .between (path.dropWhile isNamePart) = before ++ a :: after)
      (hbefore : before.foldlM access x = .ok y) (h : Overruns v w y a) : Overreaches v w path

section Even

-- Both spellings of a variant are of one length.
variable (hv : v.upper.length = v.name.length) (hw : w.upper.length = w.name.length)

include hw in
/-- What is asked for is not there. -/
theorem Overruns.not_access_eq_ok (h : Overruns v w y a) : ¬ ∃ y', access y a = .ok y' := by
  rintro ⟨y', hy⟩
  cases h with
  | @intro t key n hspelling hkey hshort =>
    have hlength : t.length ≤ n := by rcases hspelling with rfl | rfl <;> omega
    obtain ⟨-, position, hposition, hitem⟩ := access_item_eq_ok_iff.1 hy
    obtain rfl := Except.ok.inj (hkey.symm.trans hposition)
    change Value.item? (.position n) (.text t) = .ok y' at hitem
    rw [Value.item?_text, List.getElem?_eq_none hlength] at hitem
    cases hitem

include hv hw in
/-- An item of a text. -/
theorem Alike.item?_text {t u key : Text} {n : Nat} (h : Alike v w (.text t) (.text u))
    (hkey : wholeNumber key = .ok (some n)) (hx : Value.item? (.position n) (.text t) = .ok x') :
    (∃ y', Value.item? (.position n) (.text u) = .ok y' ∧ Alike v w x' y') ∨
      Overruns v w (.text u) (.item key) := by
  rw [Value.item?_text] at hx ⊢
  have hn : n < t.length := Nat.lt_of_not_le fun hle => by
    rw [List.getElem?_eq_none hle] at hx
    cases hx
  rw [List.getElem?_eq_getElem hn] at hx
  cases hx
  by_cases hu : n < u.length
  · rw [List.getElem?_eq_getElem hu]
    exact .inl ⟨_, rfl, .text rfl⟩
  · refine .inr ?_
    -- only a spelling can be shorter than the text that it is like
    cases h with
    | same => exact absurd hn hu
    | name => exact .intro (.inl rfl) hkey (by omega) hn
    | upper => exact .intro (.inr rfl) hkey (by omega) (by omega)
    | text h => omega

include hv hw in
/-- An item of a value. -/
theorem Alike.item? {key : Text} {position : Option Nat} (h : Alike v w x y)
    (hkey : wholeNumber key = .ok position)
    (hx : x.item? ((position.map Key.position).getD (.name key)) = .ok x') :
    (∃ y', y.item? ((position.map Key.position).getD (.name key)) = .ok y' ∧ Alike v w x' y') ∨
      Overruns v w y (.item key) := by
  have hlike := h
  cases h with
  | same => exact .inl ⟨x', hx, .same x'⟩
  | method | operation => cases hx
  | name | upper | text =>
    -- a text has items by position alone
    cases position with
    | none => cases hx
    | some n => exact hlike.item?_text hv hw hkey hx

include hv hw in
/-- One step from values that are alike leads to values that are alike, or overruns a spelling. -/
theorem Alike.access (h : Alike v w x y) (hx : Template.access x a = .ok x') :
    (∃ y', Template.access y a = .ok y' ∧ Alike v w x' y') ∨ Overruns v w y a := by
  cases a with
  | fault m => cases hx
  | member name =>
    obtain ⟨hne, hx⟩ := access_member_eq_ok_iff.1 hx
    obtain ⟨y', hy, h'⟩ := h.member? hx
    exact .inl ⟨y', access_member_eq_ok_iff.2 ⟨hne, hy⟩, h'⟩
  | item key =>
    obtain ⟨hne, position, hkey, hitem⟩ := access_item_eq_ok_iff.1 hx
    exact (h.item? hv hw hkey hitem).imp_left fun ⟨y', hy, h'⟩ =>
      ⟨y', access_item_eq_ok_iff.2 ⟨hne, position, hkey, hy⟩, h'⟩

include hv hw in
/-- Steps in a row, up to the first that overruns a spelling. -/
theorem Alike.foldlM (h : Alike v w x y) (hx : as.foldlM Template.access x = .ok x') :
    (∃ y', as.foldlM Template.access y = .ok y' ∧ Alike v w x' y') ∨
      ∃ before a after z, as = before ++ a :: after ∧
        before.foldlM Template.access y = .ok z ∧ Overruns v w z a := by
  induction as generalizing x y with
  | nil => cases hx; exact .inl ⟨y, rfl, h⟩
  | cons a rest ih =>
    rw [List.foldlM_cons] at hx ⊢
    cases hstep : Template.access x a with
    | error e => rw [hstep] at hx; cases hx
    | ok x₁ =>
      rw [hstep] at hx
      rcases h.access hv hw hstep with ⟨y₁, hy, h₁⟩ | hover
      · rw [hy]
        rcases ih h₁ hx with hok | ⟨before, b, after, z, rfl, hbefore, hover⟩
        · exact .inl hok
        · refine .inr ⟨a :: before, b, after, z, rfl, ?_, hover⟩
          rw [List.foldlM_cons, hy]
          exact hbefore
      · exact .inr ⟨[], a, rest, y, rfl, rfl, hover⟩

/-! ## Paths -/

theorem fieldValue_eq_ok_iff {name : Text} : fieldValue v name = .ok x ↔
    name = "name".toList ∧ x = .text v.name ∨ name = "NAME".toList ∧ x = .text v.upper := by
  constructor
  · intro h
    unfold fieldValue at h
    split at h
    · cases h
    · cases h
    split at h
    · cases h
    split at h
    · next hname => cases h; exact .inl ⟨hname, rfl⟩
    split at h
    · next hname => cases h; exact .inr ⟨hname, rfl⟩
    · cases h
  · rintro (⟨rfl, rfl⟩ | ⟨rfl, rfl⟩) <;> rfl

theorem fieldValue_alike {name : Text} (hx : fieldValue v name = .ok x) :
    ∃ y, fieldValue w name = .ok y ∧ Alike v w x y := by
  rcases fieldValue_eq_ok_iff.1 hx with ⟨hname, rfl⟩ | ⟨hname, rfl⟩
  · exact ⟨_, fieldValue_eq_ok_iff.2 (.inl ⟨hname, rfl⟩), .name⟩
  · exact ⟨_, fieldValue_eq_ok_iff.2 (.inr ⟨hname, rfl⟩), .upper⟩

include hv hw in
/-- A path that leads somewhere for `v` leads to a value that is alike for `w`, or overruns a
spelling. -/
theorem lookup_cases (hx : lookup v path = .ok x) :
    (∃ y, lookup w path = .ok y ∧ Alike v w x y) ∨ Overreaches v w path := by
  unfold lookup at hx ⊢
  cases hvalue : fieldValue v (path.takeWhile isNamePart) with
  | error e => rw [hvalue] at hx; cases hx
  | ok start =>
    rw [hvalue] at hx
    obtain ⟨start', hstart, h⟩ := fieldValue_alike (w := w) hvalue
    rw [hstart]
    rcases h.foldlM hv hw hx with hok | ⟨before, a, after, z, hpath, hbefore, hover⟩
    · exact .inl hok
    · exact .inr ⟨hstart, hpath, hbefore, hover⟩

include hw in
theorem Overreaches.not_lookup_eq_ok (h : Overreaches v w path) :
    ¬ ∃ y, lookup w path = .ok y := by
  obtain ⟨hvalue, hpath, hbefore, hover⟩ := h
  rename_i start z before after a
  unfold lookup
  rw [hvalue]
  dsimp only
  rw [hpath, List.foldlM_append, hbefore]
  rintro ⟨y, hy⟩
  change (a :: after).foldlM access z = .ok y at hy
  rw [List.foldlM_cons] at hy
  cases hstep : access z a with
  | error e => rw [hstep] at hy; cases hy
  | ok y' => exact hover.not_access_eq_ok hw ⟨y', hstep⟩

end Even

/-! ## Fields -/

/-- What a conversion makes of values that are alike is alike, or texts. -/
theorem Alike.convert (h : Alike v w x y) {c : Option Char} (hx : convert x c = .ok x') :
    ∃ y', convert y c = .ok y' ∧ (Alike v w x' y' ∨ ∃ t u, x' = .text t ∧ y' = .text u) := by
  unfold Template.convert at hx ⊢
  split at hx <;> cases hx
  · exact ⟨y, rfl, .inl h⟩
  all_goals exact ⟨_, rfl, .inr ⟨_, _, rfl, rfl⟩⟩

/-- Which directives a text takes does not depend on the text. -/
theorem exists_formatText_iff : (∃ s, formatText d t = .ok s) ↔
    d.isEmpty = true ∨
      ∃ directive, Directive.ofText? .text d = .ok directive ∧ directive.refusal? = none := by
  unfold formatText
  cases d.isEmpty with
  | true => exact iff_of_true ⟨t, rfl⟩ (.inl rfl)
  | false =>
    rw [if_neg Bool.false_ne_true, or_iff_right Bool.false_ne_true]
    constructor
    · rintro ⟨s, h⟩
      obtain ⟨directive, hread, h⟩ := Action.except_bind_eq_ok h
      split at h
      · cases h
      next hrefusal =>
      exact ⟨directive, hread, hrefusal⟩
    · rintro ⟨directive, hread, hrefusal⟩
      refine ⟨directive.layOut t, ?_⟩
      simp only [hread, hrefusal, bind, Except.bind]

theorem exists_format_text_iff :
    (∃ s, format d (.text t) = .ok s) ↔ ∃ s, formatText d t = .ok s := by
  unfold format
  cases hempty : d.isEmpty with
  | true => exact iff_of_true ⟨t, rfl⟩ (exists_formatText_iff.2 (.inl hempty))
  | false =>
    rw [if_neg Bool.false_ne_true]
    dsimp only
    cases formatText d t with
    | error fault => exact iff_of_false nofun nofun
    | ok s => exact iff_of_true ⟨s, rfl⟩ ⟨s, rfl⟩

theorem exists_format_text (u : Text) (h : format d (.text t) = .ok s) :
    ∃ s', format d (.text u) = .ok s' := by
  have htakes := exists_formatText_iff.1 (exists_format_text_iff.1 ⟨s, h⟩)
  exact exists_format_text_iff.2 (exists_formatText_iff.2 htakes)

/-- Values that are alike take the same directives. -/
theorem Alike.exists_format (h : Alike v w x y) (hx : format d x = .ok s) :
    ∃ s', format d y = .ok s' := by
  cases h with
  | same => exact ⟨s, hx⟩
  | name | upper | text => exact exists_format_text _ hx
  | method | operation =>
    unfold format at hx ⊢
    split at hx
    · next hd => exact ⟨_, if_pos hd⟩
    · cases hx

/-- The directive of a field, with the fields in it filled in. -/
def Field.filledDirective (inner : Text → Except Error Text) (f : Field) : Except Error Text :=
  if f.nested then inner f.directive else .ok f.directive

theorem Field.filledDirective_of_nested (h : f.nested = true) :
    f.filledDirective inner = inner f.directive := if_pos h

theorem Field.filledDirective_of_plain (h : f.nested = false) :
    f.filledDirective inner = .ok f.directive := if_neg (by simp [h])

theorem expandField_eq : expandField v inner f =
    lookup v f.path >>= fun x => convert x f.conversion >>= fun x' =>
      f.filledDirective inner >>= fun d => format d x' := by
  unfold expandField Field.filledDirective
  cases f.nested <;> rfl

/-- A field is filled in where its value, its conversion and its directive can be found and fit. -/
theorem expandField_eq_ok_iff : expandField v inner f = .ok t ↔
    ∃ x x' d, lookup v f.path = .ok x ∧ convert x f.conversion = .ok x' ∧
      f.filledDirective inner = .ok d ∧ format d x' = .ok t := by
  rw [expandField_eq]
  constructor
  · intro h
    obtain ⟨x, hx, h⟩ := Action.except_bind_eq_ok h
    obtain ⟨x', hx', h⟩ := Action.except_bind_eq_ok h
    obtain ⟨d, hd, ht⟩ := Action.except_bind_eq_ok h
    exact ⟨x, x', d, hx, hx', hd, ht⟩
  · rintro ⟨x, x', d, hx, hx', hd, ht⟩
    simp only [hx, hx', hd, bind, Except.bind]
    exact ht

/-! ## Pieces -/

/-- The field that a piece is. -/
def Piece.field? : Piece → Option Field
  | .field f => some f
  | .char _ | .fault _ => none

/-- The fields of a template. -/
def fields (template : Text) : List Field := (pieces template).filterMap Piece.field?

theorem mem_fields : f ∈ fields t ↔ .field f ∈ pieces t := by
  rw [fields, List.mem_filterMap]
  constructor
  · rintro ⟨_ | f' | m, hpiece, heq⟩ <;> cases heq
    exact hpiece
  · exact fun h => ⟨_, h, rfl⟩

/-- Pieces are filled in where each of them is. -/
theorem exists_expandPieces_iff {ps : List Piece} :
    (∃ t, expandPieces v inner ps = .ok t) ↔ ∀ p ∈ ps, ∃ t, expandPiece v inner p = .ok t := by
  induction ps with
  | nil => exact ⟨nofun, fun _ => ⟨[], rfl⟩⟩
  | cons p rest ih =>
    rw [List.forall_mem_cons, ← ih, expandPieces]
    constructor
    · rintro ⟨t, h⟩
      split at h
      · cases h
      next t' hp =>
      split at h
      · cases h
      next u hrest =>
      exact ⟨⟨t', hp⟩, u, hrest⟩
    · rintro ⟨⟨t', hp⟩, u, hrest⟩
      rw [hp, hrest]
      exact ⟨_, rfl⟩

/-- Where pieces are filled in for one variant, they are for another one if its fields are. -/
theorem exists_expandPieces_iff_of_ok (h : expandPieces v inner (pieces t) = .ok s) :
    (∃ s', expandPieces w inner' (pieces t) = .ok s') ↔
      ∀ f ∈ fields t, ∃ s', expandField w inner' f = .ok s' := by
  have hall := exists_expandPieces_iff.1 ⟨s, h⟩
  rw [exists_expandPieces_iff]
  constructor
  · exact fun hw f hf => hw _ (mem_fields.1 hf)
  · intro hw p hp
    cases p with
    | char c => exact ⟨[c], rfl⟩
    | field f => exact hw f (mem_fields.2 hp)
    | fault m =>
      obtain ⟨t', ht⟩ := hall _ hp
      cases ht

/-! ## Fields for two variants -/

/-- How a field that can be filled in for `v` cannot be filled in for `w`. -/
inductive Field.FallsShort (v w : Variant) (f : Field) : Prop
  /-- Its path overruns a spelling. -/
  | path (h : Overreaches v w f.path)
  /-- The path of a field in its directive does. -/
  | inner {g : Field} (hnested : f.nested = true) (hg : g ∈ fields f.directive)
      (h : Overreaches v w g.path)
  /-- Its value does not take the directive with the fields in it. -/
  | directive {x x' : Value} {d : Text} {e : Error} (hnested : f.nested = true)
      (hx : lookup w f.path = .ok x) (hx' : convert x f.conversion = .ok x')
      (hd : expand w 1 f.directive = .ok d) (h : format d x' = .error e)

section Even

variable (hv : v.upper.length = v.name.length) (hw : w.upper.length = w.name.length)

include hv hw in
/-- A field without fields in its directive. -/
theorem exists_expandField_iff_of_plain (h : expandField v inner f = .ok s)
    (hnested : f.nested = false) :
    (∃ s', expandField w inner' f = .ok s') ↔ ¬ Overreaches v w f.path := by
  obtain ⟨x, x', d, hx, hx', hd, hs⟩ := expandField_eq_ok_iff.1 h
  constructor
  · rintro ⟨s', hs'⟩ hover
    obtain ⟨y, -, -, hy, -⟩ := expandField_eq_ok_iff.1 hs'
    exact hover.not_lookup_eq_ok hw ⟨y, hy⟩
  · intro hnot
    obtain ⟨y, hy, hlike⟩ := (lookup_cases hv hw hx).resolve_right hnot
    obtain ⟨y', hy', hlike'⟩ := hlike.convert hx'
    have hd' : f.filledDirective inner' = .ok d := by
      rw [Field.filledDirective_of_plain hnested] at hd ⊢
      exact hd
    obtain ⟨s', hs'⟩ : ∃ s', format d y' = .ok s' := by
      rcases hlike' with hlike' | ⟨t, u, rfl, rfl⟩
      · exact hlike'.exists_format hs
      · exact exists_format_text u hs
    exact ⟨s', expandField_eq_ok_iff.2 ⟨y, y', d, hy, hy', hd', hs'⟩⟩

include hv hw in
/-- The directive of a field, whose fields have none in their directives. -/
theorem exists_expand_one_iff (h : expand v 1 t = .ok s) :
    (∃ s', expand w 1 t = .ok s') ↔ ∀ g ∈ fields t, ¬ Overreaches v w g.path := by
  rw [expand] at h ⊢
  rw [exists_expandPieces_iff_of_ok h]
  refine forall₂_congr fun g hg => ?_
  obtain ⟨u, hu⟩ := exists_expandPieces_iff.1 ⟨s, h⟩ _ (mem_fields.1 hg)
  refine exists_expandField_iff_of_plain hv hw hu ?_
  -- a directive in a directive has no level left, so `v` could not have it either
  cases hnested : g.nested with
  | false => rfl
  | true =>
    obtain ⟨-, -, d, -, -, hd, -⟩ := expandField_eq_ok_iff.1 hu
    rw [Field.filledDirective_of_nested hnested] at hd
    cases hd

include hv hw in
theorem exists_expandField_iff (h : expandField v (expand v 1) f = .ok s) :
    (∃ s', expandField w (expand w 1) f = .ok s') ↔ ¬ f.FallsShort v w := by
  cases hnested : f.nested with
  | false =>
    rw [exists_expandField_iff_of_plain hv hw h hnested]
    refine not_congr ⟨.path, fun hshort => ?_⟩
    cases hshort with
    | path hover => exact hover
    | inner htrue | directive htrue => rw [hnested] at htrue; cases htrue
  | true =>
    obtain ⟨x, x', d, hx, hx', hd, hs⟩ := expandField_eq_ok_iff.1 h
    rw [Field.filledDirective_of_nested hnested] at hd
    constructor
    · rintro ⟨s', hs'⟩ hshort
      obtain ⟨y, y', d', hy, hy', hd', hs'⟩ := expandField_eq_ok_iff.1 hs'
      rw [Field.filledDirective_of_nested hnested] at hd'
      cases hshort with
      | path hover => exact hover.not_lookup_eq_ok hw ⟨y, hy⟩
      | inner _ hg hover => exact (exists_expand_one_iff hv hw hd).1 ⟨d', hd'⟩ _ hg hover
      | directive _ hz hz' hd'' herror =>
        cases hz.symm.trans hy
        cases hz'.symm.trans hy'
        cases hd''.symm.trans hd'
        cases herror.symm.trans hs'
    · intro hnot
      obtain ⟨y, hy, hlike⟩ := (lookup_cases hv hw hx).resolve_right fun hover => hnot (.path hover)
      obtain ⟨y', hy', -⟩ := hlike.convert hx'
      obtain ⟨d', hd'⟩ := (exists_expand_one_iff hv hw hd).2 fun g hg hover =>
        hnot (.inner hnested hg hover)
      cases hs' : format d' y' with
      | error e => exact absurd (.directive hnested hy hy' hd' hs') hnot
      | ok s' =>
        refine ⟨s', expandField_eq_ok_iff.2 ⟨y, y', d', hy, hy', ?_, hs'⟩⟩
        rw [Field.filledDirective_of_nested hnested, hd']

include hv hw in
/-- **One template for two variants.** A template that can be filled in for `v` can be filled in
for `w` just where none of its fields falls short. -/
theorem exists_render_iff (h : render t v = .ok s) :
    (∃ s', render t w = .ok s') ↔ ∀ f ∈ fields t, ¬ f.FallsShort v w := by
  rw [render, expand] at h ⊢
  rw [exists_expandPieces_iff_of_ok h]
  refine forall₂_congr fun f hf => ?_
  obtain ⟨u, hu⟩ := exists_expandPieces_iff.1 ⟨s, h⟩ _ (mem_fields.1 hf)
  exact exists_expandField_iff hv hw hu

end Even

/-- A path overruns spellings that are shorter alone. -/
theorem Overreaches.length_lt (h : Overreaches v w path) : w.name.length < v.name.length := by
  obtain ⟨-, -, -, -, -, hshort, hlong⟩ := h
  exact Nat.lt_of_le_of_lt hshort hlong

/-- A field falls short with shorter spellings, or because fields stand in its directive. -/
theorem Field.FallsShort.cases (h : f.FallsShort v w) :
    w.name.length < v.name.length ∨ f.nested = true := by
  cases h with
  | path hover => exact .inl hover.length_lt
  | inner hnested | directive hnested => exact .inr hnested

end OpScaffold.Template
