import OpScaffold.Variant

/-!
# OpScaffold.Proofs.Variant

The spellings of a variant are words of ASCII letters and digits, and each of them tells the name:
in lower case the capitals of a name are the name (`lowerAscii_upper`).
-/

namespace OpScaffold

/-- What holds of all letters and digits among the ASCII characters holds of all characters of
words. -/
theorem Text.forall_isAsciiWord (P : Char → Prop)
    (h : ∀ n < 128, isAsciiWord (Char.ofNat n) = true → P (Char.ofNat n)) {c : Char}
    (hc : isAsciiWord c = true) : P c := by
  have hlt : c.toNat < 128 := by
    have hclass : ((c.isUpper || c.isLower) || c.isDigit) = true := hc
    rw [Bool.or_eq_true, Bool.or_eq_true] at hclass
    rcases hclass with (hupper | hlower) | hdigit
    · have hle : c.val ≤ 'Z'.val := (of_decide_eq_true hupper).2
      exact Nat.lt_of_le_of_lt hle (by decide)
    · have hle : c.val ≤ 'z'.val := of_decide_eq_true (Bool.and_eq_true_iff.1 hlower).2
      exact Nat.lt_of_le_of_lt hle (by decide)
    · exact Nat.lt_of_le_of_lt (Char.isDigit_iff_toNat.1 hdigit).2 (by decide)
  have hof := Char.ofNat_toNat c
  exact hof ▸ h c.toNat hlt (hof.symm ▸ hc)

namespace Variant

variable {name : Text} {v : Variant} {c : Char}

theorem isAsciiWord_of_isNameChar (h : isNameChar c = true) : Text.isAsciiWord c = true := by
  rw [isNameChar, Bool.or_eq_true] at h
  change ((c.isUpper || c.isLower) || c.isDigit) = true
  rcases h with h | h <;> simp [h]

/-- What holds of all lower case letters and digits among the ASCII characters holds of all
characters of names. -/
theorem forall_isNameChar (P : Char → Prop)
    (h : ∀ n < 128, isNameChar (Char.ofNat n) = true → P (Char.ofNat n))
    (hc : isNameChar c = true) : P c :=
  Text.forall_isAsciiWord (fun c => isNameChar c = true → P c) (fun n hn _ => h n hn)
    (isAsciiWord_of_isNameChar hc) hc

theorem isNameChar_of_mem (h : isName name = true) (hc : c ∈ name) : isNameChar c = true := by
  cases name with
  | nil => cases hc
  | cons d rest =>
    rw [isName, Bool.and_eq_true, List.all_eq_true] at h
    rcases List.mem_cons.1 hc with rfl | hc
    · rw [isNameStart] at h
      rw [isNameChar, h.1, Bool.true_or]
    · exact h.2 c hc

theorem upperChar_eq (h : isNameChar c = true) : upperChar c = [c.toUpper] :=
  forall_isNameChar (fun c => upperChar c = [c.toUpper]) (by decide) h

/-- The capitals of a name are those of its characters. -/
theorem upper_eq_map (h : isName name = true) : Text.upper name = name.map Char.toUpper := by
  rw [Text.upper, List.map_eq_flatMap, List.flatMap_def, List.flatMap_def,
    List.map_congr_left fun c hc => upperChar_eq (isNameChar_of_mem h hc)]

theorem lowerAscii_eq (h : isName name = true) : Text.lowerAscii name = name := by
  refine (List.map_congr_left fun c hc => ?_).trans (List.map_id name)
  exact forall_isNameChar (fun c => c.toLower = c) (by decide) (isNameChar_of_mem h hc)

/-- In lower case the capitals of a name are the name. -/
theorem lowerAscii_upper (h : isName name = true) : Text.lowerAscii (Text.upper name) = name := by
  rw [upper_eq_map h, Text.lowerAscii, List.map_map]
  refine (List.map_congr_left fun c hc => ?_).trans (List.map_id name)
  exact forall_isNameChar (fun c => c.toUpper.toLower = c) (by decide) (isNameChar_of_mem h hc)

theorem isName_of_derive (h : derive name = .ok v) : isName v.name = true := by
  obtain ⟨hname, rfl⟩ := derive_eq_ok h
  exact hname

/-- A spelling is a word of ASCII letters and digits. -/
theorem isWord_of_derive (h : derive name = .ok v) {spelling : Text}
    (hs : spelling = v.name ∨ spelling = v.upper) :
    spelling ≠ [] ∧ ∀ c ∈ spelling, Text.isAsciiWord c = true := by
  obtain ⟨hname, rfl⟩ := derive_eq_ok h
  have hne : name ≠ [] := by
    rintro rfl
    cases hname
  rcases hs with rfl | rfl
  · exact ⟨hne, fun c hc => isAsciiWord_of_isNameChar (isNameChar_of_mem hname hc)⟩
  · dsimp only
    rw [upper_eq_map hname]
    refine ⟨by simpa using hne, fun c hc => ?_⟩
    obtain ⟨d, hd, rfl⟩ := List.mem_map.1 hc
    exact forall_isNameChar (fun c => Text.isAsciiWord c.toUpper = true) (by decide)
      (isNameChar_of_mem hname hd)

/-- In lower case each spelling is the name. -/
theorem lowerAscii_of_derive (h : derive name = .ok v) {spelling : Text}
    (hs : spelling = v.name ∨ spelling = v.upper) : Text.lowerAscii spelling = name := by
  obtain ⟨hname, rfl⟩ := derive_eq_ok h
  rcases hs with rfl | rfl
  · exact lowerAscii_eq hname
  · exact lowerAscii_upper hname

/-- A name begins with a lower case letter, its capitals with a capital one. -/
theorem exists_head_of_derive (h : derive name = .ok v) :
    (∃ c ∈ v.name.head?, c.isLower = true) ∧ ∃ c ∈ v.upper.head?, c.isUpper = true := by
  obtain ⟨hname, rfl⟩ := derive_eq_ok h
  cases name with
  | nil => cases hname
  | cons c rest =>
    have hchar := isNameChar_of_mem hname (List.mem_cons_self (a := c))
    have hlower : c.isLower = true := (Bool.and_eq_true_iff.1 hname).1
    have hupper : c.toUpper.isUpper = true :=
      forall_isNameChar (fun c => c.isLower = true → c.toUpper.isUpper = true) (by decide) hchar
        hlower
    dsimp only
    rw [upper_eq_map hname]
    exact ⟨⟨c, rfl, hlower⟩, c.toUpper, rfl, hupper⟩

/-- A name has no capital letters. -/
theorem isUpper_of_mem_name (h : derive name = .ok v) (hc : c ∈ v.name) : c.isUpper = false :=
  forall_isNameChar (fun c => c.isUpper = false) (by decide)
    (isNameChar_of_mem (isName_of_derive h) hc)

/-- The capitals of a name have no lower case letters. -/
theorem isLower_of_mem_upper (h : derive name = .ok v) (hc : c ∈ v.upper) : c.isLower = false := by
  obtain ⟨hname, rfl⟩ := derive_eq_ok h
  dsimp only at hc
  rw [upper_eq_map hname] at hc
  obtain ⟨d, hd, rfl⟩ := List.mem_map.1 hc
  exact forall_isNameChar (fun c => c.toUpper.isLower = false) (by decide)
    (isNameChar_of_mem hname hd)

end Variant

end OpScaffold
