import OpScaffold.Text.Utf8

/-!
# OpScaffold.Proofs.Text.Utf8

Decoding is strict: a text that was read is written back to the very bytes it was read from
(`encode_of_decode`), since every character has only one form that is accepted.
-/

namespace OpScaffold.Utf8

theorem toUInt8_eq {n : Nat} {b : UInt8} (h : n = b.toNat) : n.toUInt8 = b := by
  subst h
  exact UInt8.ofNat_toNat

theorem toNat_ofNat {n : Nat} (h : n < 0xd800 ∨ 0xdfff < n ∧ n < 0x110000) :
    (Char.ofNat n).toNat = n := by
  have hv : n.isValidChar := h
  rw [Char.ofNat, dif_pos hv]
  rfl

/-! ## The form of a character -/

theorem encodeChar_two {b c : UInt8} (hb : 0xc2 ≤ b.toNat ∧ b.toNat ≤ 0xdf)
    (hc : 0x80 ≤ c.toNat ∧ c.toNat ≤ 0xbf) : encodeChar (Char.ofNat (code [b, c])) = [b, c] := by
  have hn : code [b, c] = (b.toNat - 0xc0) * 64 + (c.toNat - 0x80) := rfl
  unfold encodeChar
  rw [toNat_ofNat (by omega)]
  generalize code [b, c] = n at hn
  dsimp only
  rw [if_neg (by omega), if_pos (by omega), toUInt8_eq (b := b) (by omega),
    toUInt8_eq (b := c) (by omega)]

theorem encodeChar_three {b c d : UInt8} (hb : 0xe0 ≤ b.toNat ∧ b.toNat ≤ 0xef)
    (hc : 0x80 ≤ c.toNat ∧ c.toNat ≤ 0xbf) (hd : 0x80 ≤ d.toNat ∧ d.toNat ≤ 0xbf)
    (hlow : b.toNat = 0xe0 → 0xa0 ≤ c.toNat) (hhigh : b.toNat = 0xed → c.toNat ≤ 0x9f) :
    encodeChar (Char.ofNat (code [b, c, d])) = [b, c, d] := by
  have hn : code [b, c, d] =
    ((b.toNat - 0xe0) * 64 + (c.toNat - 0x80)) * 64 + (d.toNat - 0x80) := rfl
  unfold encodeChar
  rw [toNat_ofNat (by omega)]
  generalize code [b, c, d] = n at hn
  dsimp only
  rw [if_neg (by omega), if_neg (by omega), if_pos (by omega), toUInt8_eq (b := b) (by omega),
    toUInt8_eq (b := c) (by omega), toUInt8_eq (b := d) (by omega)]

theorem encodeChar_four {b c d e : UInt8} (hb : 0xf0 ≤ b.toNat ∧ b.toNat ≤ 0xf4)
    (hc : 0x80 ≤ c.toNat ∧ c.toNat ≤ 0xbf) (hd : 0x80 ≤ d.toNat ∧ d.toNat ≤ 0xbf)
    (he : 0x80 ≤ e.toNat ∧ e.toNat ≤ 0xbf) (hlow : b.toNat = 0xf0 → 0x90 ≤ c.toNat)
    (hhigh : b.toNat = 0xf4 → c.toNat ≤ 0x8f) :
    encodeChar (Char.ofNat (code [b, c, d, e])) = [b, c, d, e] := by
  have hn : code [b, c, d, e] = (((b.toNat - 0xf0) * 64 + (c.toNat - 0x80)) * 64
    + (d.toNat - 0x80)) * 64 + (e.toNat - 0x80) := rfl
  unfold encodeChar
  rw [toNat_ofNat (by omega)]
  generalize code [b, c, d, e] = n at hn
  dsimp only
  rw [if_neg (by omega), if_neg (by omega), if_neg (by omega), toUInt8_eq (b := b) (by omega),
    toUInt8_eq (b := c) (by omega), toUInt8_eq (b := d) (by omega), toUInt8_eq (b := e) (by omega)]

/-- What the first byte says about the size of a character and about its second byte. -/
theorem shape?_cases {b size low high : Nat} (h : shape? b = some (size, low, high)) :
    (size = 2 ∧ (0xc2 ≤ b ∧ b ≤ 0xdf) ∧ low = 0x80 ∧ high = 0xbf) ∨
    (size = 3 ∧ (0xe0 ≤ b ∧ b ≤ 0xef) ∧ 0x80 ≤ low ∧ high ≤ 0xbf ∧
      (b = 0xe0 → low = 0xa0) ∧ (b = 0xed → high = 0x9f)) ∨
    (size = 4 ∧ (0xf0 ≤ b ∧ b ≤ 0xf4) ∧ 0x80 ≤ low ∧ high ≤ 0xbf ∧
      (b = 0xf0 → low = 0x90) ∧ (b = 0xf4 → high = 0x8f)) := by
  unfold shape? at h
  repeat' split at h
  all_goals cases h
  all_goals omega

theorem of_isContinuation {b : UInt8} (h : ¬ isContinuation b = false) :
    0x80 ≤ b.toNat ∧ b.toNat ≤ 0xbf := by
  simpa [isContinuation] using h

/-! ## Reading and writing back -/

/-- A character that was read has the bytes it was read from. -/
theorem encodeChar_of_next {b : UInt8} {rest rest' : Bytes} {c : Char}
    (h : next b rest = .ok (c, rest')) : encodeChar c ++ rest' = b :: rest := by
  unfold next at h
  split at h
  · next hb =>
    cases h
    have hn : (Char.ofNat b.toNat).toNat = b.toNat := toNat_ofNat (by omega)
    simp [encodeChar, hn, hb]
  split at h
  · cases h
  next size low high hs =>
  split at h
  · cases h
  next c₁ rest₁ =>
  split at h
  · cases h
  next hc =>
  have hshape := shape?_cases hs
  split at h
  · next h2 =>
    obtain ⟨rfl, rfl⟩ := Prod.mk.inj (Except.ok.inj h)
    have htwo := encodeChar_two (b := b) (c := c₁) (by omega) (by omega)
    exact congrArg (· ++ _) htwo
  split at h
  · cases h
  next d rest₂ =>
  split at h
  · cases h
  next hd =>
  have hd := of_isContinuation hd
  split at h
  · next h3 =>
    obtain ⟨rfl, rfl⟩ := Prod.mk.inj (Except.ok.inj h)
    have hthree := encodeChar_three (b := b) (c := c₁) (by omega) (by omega) hd (by omega) (by omega)
    exact congrArg (· ++ _) hthree
  split at h
  · cases h
  next e rest₃ =>
  split at h
  · cases h
  next he =>
  obtain ⟨rfl, rfl⟩ := Prod.mk.inj (Except.ok.inj h)
  have hfour := encodeChar_four (b := b) (c := c₁) (by omega) (by omega) hd (of_isContinuation he)
    (by omega) (by omega)
  exact congrArg (· ++ _) hfour

theorem encode_of_decodeFrom {position : Nat} {bytes : Bytes} {t : Text}
    (h : decodeFrom position bytes = .ok t) : encode t = bytes := by
  fun_induction decodeFrom position bytes generalizing t with
  | case1 => cases h; rfl
  | case2 => cases h
  | case3 => cases h
  | case4 position b rest c rest' hn _ t' ht ih =>
    cases h
    rw [← encodeChar_of_next hn, ← ih ht]
    rfl

/-- What was read is written back. -/
theorem encode_of_decode {bytes : Bytes} {t : Text} (h : decode bytes = .ok t) :
    encode t = bytes :=
  encode_of_decodeFrom h

end OpScaffold.Utf8
