import OpScaffold.Text.Basic

/-!
# OpScaffold.Text.Raw

Raw texts: code points in order. Most code points are those of characters; the others, the
surrogates, stand for none. A raw text is a text just where no surrogate is in it
(`text?_eq_some_iff`).
-/

namespace OpScaffold

/-- A code point: that of a character, or one of the 2048 surrogates. -/
inductive CodePoint
  | char (c : Char)
  | surrogate (n : Fin 2048)
  deriving DecidableEq, Repr

namespace CodePoint

/-- The code of the first surrogate. -/
def firstSurrogate : Nat := 0xd800

/-- The number of a code point. -/
def code : CodePoint → Nat
  | .char c => c.toNat
  | .surrogate n => firstSurrogate + n

/-- The character of a code point, if it stands for one. -/
def char? : CodePoint → Option Char
  | .char c => some c
  | .surrogate _ => none

/-- Whether a code point stands for no character. -/
def isSurrogate (p : CodePoint) : Bool := p.char?.isNone

end CodePoint

/-- A raw text: its code points in order. -/
abbrev RawText := List CodePoint

/-- A text as a raw one. -/
def Text.raw (t : Text) : RawText := t.map .char

instance : Coe Text RawText := ⟨Text.raw⟩

/-- The text that a raw text is, if there is no surrogate in it. -/
def RawText.text? (r : RawText) : Option Text := r.mapM CodePoint.char?

theorem RawText.text?_char (c : Char) (r : RawText) :
    RawText.text? (.char c :: r) = r.text?.map (c :: ·) := by
  unfold RawText.text?
  rw [List.mapM_cons]
  cases List.mapM CodePoint.char? r <;> rfl

theorem RawText.text?_surrogate (n : Fin 2048) (r : RawText) :
    RawText.text? (.surrogate n :: r) = none := by
  unfold RawText.text?
  rw [List.mapM_cons]
  rfl

@[simp] theorem RawText.text?_raw (t : Text) : t.raw.text? = some t := by
  induction t with
  | nil => rfl
  | cons c t ih => rw [Text.raw, List.map_cons, text?_char, ← Text.raw, ih]; rfl

/-- The raw texts without surrogates are the texts. -/
theorem RawText.text?_eq_some_iff {r : RawText} {t : Text} : r.text? = some t ↔ r = t.raw := by
  refine ⟨fun h => ?_, fun h => by rw [h, text?_raw]⟩
  induction r generalizing t with
  | nil => cases h; rfl
  | cons p r ih =>
    cases p with
    | char c =>
      rw [text?_char] at h
      obtain ⟨t, ht, rfl⟩ := Option.map_eq_some_iff.1 h
      rw [ih ht, Text.raw, Text.raw, List.map_cons]
    | surrogate n => rw [text?_surrogate] at h; cases h

theorem Text.raw_inj {t t' : Text} : t.raw = t'.raw ↔ t = t' := by
  rw [← RawText.text?_eq_some_iff, RawText.text?_raw, Option.some_inj]

end OpScaffold
