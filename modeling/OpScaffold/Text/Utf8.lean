import OpScaffold.Text.Raw

/-!
# OpScaffold.Text.Utf8

UTF-8: the bytes of a text, and the text of well-formed bytes. Decoding stops at the first
malformed sequence and reports which bytes are at fault and why; a sequence is malformed as soon
as no continuation can make it well-formed, so overlong forms, surrogates and codes beyond
U+10FFFF end at their second byte. Reading back what was written gives the text
(`decode_encode`). Surrogates have no bytes, so a raw text is encoded if it is a text
(`encodeRaw_eq_ok_iff`).
-/

namespace OpScaffold

/-- The bytes of a file. -/
abbrev Bytes := List UInt8

namespace Utf8

/-- Why a byte sequence is not UTF-8. -/
inductive Fault
  /-- A byte that starts no character. -/
  | invalidStart
  /-- A byte that cannot follow the bytes before it. -/
  | invalidContinuation
  /-- The bytes end within a character. -/
  | unexpectedEnd
  deriving DecidableEq, Repr

/-- A malformed sequence: the position of its first byte, its bytes, and the fault. -/
structure DecodeError where
  position : Nat
  bytes : Bytes
  fault : Fault
  deriving DecidableEq, Repr

/-- What is wrong with a malformed sequence. -/
def Fault.message : Fault → Text
  | .invalidStart => "invalid start byte".toList
  | .invalidContinuation => "invalid continuation byte".toList
  | .unexpectedEnd => "unexpected end of data".toList

/-- The text shown for a malformed sequence: its byte, or the positions of its bytes. -/
def DecodeError.message (e : DecodeError) : Text :=
  "'utf-8' codec can't decode ".toList ++ (match e.bytes with
    | [b] =>
      "byte 0x".toList ++ Text.hexPadded 2 b.toNat ++ " in position ".toList
        ++ Text.ofNat e.position
    | bytes =>
      "bytes in position ".toList ++ Text.ofNat e.position ++ ['-']
        ++ Text.ofNat (e.position + bytes.length - 1))
    ++ ": ".toList ++ e.fault.message

/-- The bytes of one character. -/
def encodeChar (c : Char) : Bytes :=
  let n := c.toNat
  if n < 0x80 then [n.toUInt8]
  else if n < 0x800 then [(0xc0 + n / 64).toUInt8, (0x80 + n % 64).toUInt8]
  else if n < 0x10000 then
    [(0xe0 + n / 4096).toUInt8, (0x80 + n / 64 % 64).toUInt8, (0x80 + n % 64).toUInt8]
  else
    [(0xf0 + n / 262144).toUInt8, (0x80 + n / 4096 % 64).toUInt8, (0x80 + n / 64 % 64).toUInt8,
      (0x80 + n % 64).toUInt8]

/-- The bytes of a text. -/
def encode (t : Text) : Bytes := t.flatMap encodeChar

/-- Why a raw text has no bytes: the position of its first surrogate, and that surrogate with those
right behind it. -/
structure EncodeError where
  position : Nat
  surrogates : RawText
  deriving DecidableEq, Repr

/-- The text shown for surrogates: the code of a single one, or the positions of several. -/
def EncodeError.message (e : EncodeError) : Text :=
  "'utf-8' codec can't encode ".toList ++ (match e.surrogates with
    | [p] =>
      "character '\\u".toList ++ Text.hexPadded 4 p.code ++ "' in position ".toList
        ++ Text.ofNat e.position
    | surrogates =>
      "characters in position ".toList ++ Text.ofNat e.position ++ ['-']
        ++ Text.ofNat (e.position + surrogates.length - 1))
    ++ ": surrogates not allowed".toList

/-- The first surrogates of a raw text. -/
def firstSurrogates (r : RawText) : EncodeError :=
  let front := r.takeWhile (!·.isSurrogate)
  ⟨front.length, (r.drop front.length).takeWhile (·.isSurrogate)⟩

/-- The bytes of a raw text. -/
def encodeRaw (r : RawText) : Except EncodeError Bytes :=
  match r.text? with
  | some t => .ok (encode t)
  | none => .error (firstSurrogates r)

/-- A raw text has bytes if it is a text. -/
theorem encodeRaw_eq_ok_iff {r : RawText} {bytes : Bytes} :
    encodeRaw r = .ok bytes ↔ ∃ t : Text, r = t ∧ bytes = encode t := by
  unfold encodeRaw
  constructor
  · intro h
    split at h
    · next t ht =>
      cases h
      exact ⟨t, RawText.text?_eq_some_iff.1 ht, rfl⟩
    · cases h
  · rintro ⟨t, rfl, rfl⟩
    rw [RawText.text?_raw]

/-- A raw text has no bytes if it is no text. -/
theorem text?_of_encodeRaw_eq_error {r : RawText} {e : EncodeError} (h : encodeRaw r = .error e) :
    r.text? = none := by
  unfold encodeRaw at h
  split at h
  · cases h
  · next ht => exact ht

@[simp] theorem encodeRaw_raw (t : Text) : encodeRaw t = .ok (encode t) :=
  encodeRaw_eq_ok_iff.2 ⟨t, rfl, rfl⟩

/-- How many bytes a character takes that starts with byte `b`, and the range in which its second
byte lies. -/
def shape? (b : Nat) : Option (Nat × Nat × Nat) :=
  if 0xc2 ≤ b ∧ b ≤ 0xdf then some (2, 0x80, 0xbf)
  else if b = 0xe0 then some (3, 0xa0, 0xbf)
  else if b = 0xed then some (3, 0x80, 0x9f)
  else if 0xe1 ≤ b ∧ b ≤ 0xef then some (3, 0x80, 0xbf)
  else if b = 0xf0 then some (4, 0x90, 0xbf)
  else if 0xf1 ≤ b ∧ b ≤ 0xf3 then some (4, 0x80, 0xbf)
  else if b = 0xf4 then some (4, 0x80, 0x8f)
  else none

/-- Whether `b` is a byte of the form 10xxxxxx. -/
def isContinuation (b : UInt8) : Bool := 0x80 ≤ b.toNat && b.toNat ≤ 0xbf

/-- The code of a character from its bytes. -/
def code : Bytes → Nat
  | [b] => b.toNat
  | [b, c] => (b.toNat - 0xc0) * 64 + (c.toNat - 0x80)
  | [b, c, d] => ((b.toNat - 0xe0) * 64 + (c.toNat - 0x80)) * 64 + (d.toNat - 0x80)
  | [b, c, d, e] =>
    (((b.toNat - 0xf0) * 64 + (c.toNat - 0x80)) * 64 + (d.toNat - 0x80)) * 64 + (e.toNat - 0x80)
  | _ => 0

/-- The first character of nonempty bytes `b :: rest` and the bytes after it, or the malformed
sequence at their start. -/
def next (b : UInt8) (rest : Bytes) : Except (Bytes × Fault) (Char × Bytes) :=
  if b.toNat < 0x80 then .ok (Char.ofNat b.toNat, rest)
  else match shape? b.toNat with
    | none => .error ([b], .invalidStart)
    | some (size, low, high) =>
      match rest with
      | [] => .error ([b], .unexpectedEnd)
      | c :: rest =>
        if c.toNat < low ∨ high < c.toNat then .error ([b], .invalidContinuation)
        else if size = 2 then .ok (Char.ofNat (code [b, c]), rest)
        else match rest with
          | [] => .error ([b, c], .unexpectedEnd)
          | d :: rest =>
            if isContinuation d = false then .error ([b, c], .invalidContinuation)
            else if size = 3 then .ok (Char.ofNat (code [b, c, d]), rest)
            else match rest with
              | [] => .error ([b, c, d], .unexpectedEnd)
              | e :: rest =>
                if isContinuation e = false then .error ([b, c, d], .invalidContinuation)
                else .ok (Char.ofNat (code [b, c, d, e]), rest)

/-- A character takes at least one byte. -/
theorem length_lt_of_next {b : UInt8} {rest : Bytes} {c : Char} {rest' : Bytes}
    (h : next b rest = .ok (c, rest')) : rest'.length < (b :: rest).length := by
  unfold next at h
  repeat' split at h
  all_goals simp_all
  all_goals omega

/-- Decodes from byte `position` on. -/
def decodeFrom (position : Nat) : Bytes → Except DecodeError Text
  | [] => .ok []
  | b :: rest =>
    match h : next b rest with
    | .error (bytes, fault) => .error ⟨position, bytes, fault⟩
    | .ok (c, rest') =>
      have : rest'.length < rest.length + 1 := length_lt_of_next h
      match decodeFrom (position + (rest.length + 1 - rest'.length)) rest' with
      | .error e => .error e
      | .ok t => .ok (c :: t)
termination_by bytes => bytes.length

/-- The text of the bytes. -/
def decode (bytes : Bytes) : Except DecodeError Text := decodeFrom 0 bytes

/-! ## Reading back -/

theorem next_two {b c : UInt8} {low high : Nat} (rest : Bytes) (hb : ¬ b.toNat < 0x80)
    (hs : shape? b.toNat = some (2, low, high)) (hl : low ≤ c.toNat) (hh : c.toNat ≤ high) :
    next b (c :: rest) = .ok (Char.ofNat (code [b, c]), rest) := by
  have hr : ¬ (c.toNat < low ∨ high < c.toNat) := by omega
  simp [next, hb, hs, hr]

theorem next_three {b c d : UInt8} {low high : Nat} (rest : Bytes) (hb : ¬ b.toNat < 0x80)
    (hs : shape? b.toNat = some (3, low, high)) (hl : low ≤ c.toNat) (hh : c.toNat ≤ high)
    (hd : isContinuation d = true) :
    next b (c :: d :: rest) = .ok (Char.ofNat (code [b, c, d]), rest) := by
  have hr : ¬ (c.toNat < low ∨ high < c.toNat) := by omega
  simp [next, hb, hs, hr, hd]

theorem next_four {b c d e : UInt8} {low high : Nat} (rest : Bytes) (hb : ¬ b.toNat < 0x80)
    (hs : shape? b.toNat = some (4, low, high)) (hl : low ≤ c.toNat) (hh : c.toNat ≤ high)
    (hd : isContinuation d = true) (he : isContinuation e = true) :
    next b (c :: d :: e :: rest) = .ok (Char.ofNat (code [b, c, d, e]), rest) := by
  have hr : ¬ (c.toNat < low ∨ high < c.toNat) := by omega
  simp [next, hb, hs, hr, hd, he]

theorem toNat_toUInt8 {n : Nat} (h : n < 256) : n.toUInt8.toNat = n := by
  simpa using Nat.mod_eq_of_lt h

theorem isContinuation_toUInt8 {n : Nat} (h : n < 64) :
    isContinuation (0x80 + n).toUInt8 = true := by
  have hn : (0x80 + n).toUInt8.toNat = 0x80 + n := toNat_toUInt8 (by omega)
  simp only [isContinuation, hn, Bool.and_eq_true, decide_eq_true_eq]
  omega

/-- A character is read back from its bytes. -/
theorem next_encodeChar (c : Char) (rest : Bytes) :
    ∃ b more, encodeChar c ++ rest = b :: more ∧ next b more = .ok (c, rest) := by
  have hv : c.toNat < 0xd800 ∨ 0xdfff < c.toNat ∧ c.toNat < 0x110000 := c.valid
  have hc : Char.ofNat c.toNat = c := Char.ofNat_toNat c
  unfold encodeChar
  generalize c.toNat = n at hv hc
  dsimp only
  split
  · next h =>
    have hb : n.toUInt8.toNat = n := toNat_toUInt8 (by omega)
    exact ⟨_, _, rfl, by rw [next, hb, if_pos h, hc]; rfl⟩
  split
  · next h0 h1 =>
    have hs : shape? (0xc0 + n / 64) = some (2, 0x80, 0xbf) := if_pos (by omega)
    have hb : (0xc0 + n / 64).toUInt8.toNat = 0xc0 + n / 64 := toNat_toUInt8 (by omega)
    have hb' : (0x80 + n % 64).toUInt8.toNat = 0x80 + n % 64 := toNat_toUInt8 (by omega)
    have hn : code [(0xc0 + n / 64).toUInt8, (0x80 + n % 64).toUInt8] = n := by
      show ((0xc0 + n / 64).toUInt8.toNat - 0xc0) * 64 + ((0x80 + n % 64).toUInt8.toNat - 0x80) = n
      rw [hb, hb']
      omega
    refine ⟨_, _, rfl, (next_two rest ?_ (hb ▸ hs) ?_ ?_).trans (by rw [hn, hc])⟩ <;> omega
  split
  · next h0 h1 h2 =>
    have hs : ∃ low high, shape? (0xe0 + n / 4096) = some (3, low, high)
        ∧ low ≤ 0x80 + n / 64 % 64 ∧ 0x80 + n / 64 % 64 ≤ high := by
      unfold shape?
      repeat' split
      all_goals first
        | exact ⟨_, _, rfl, by omega, by omega⟩
        | omega
    have hb : (0xe0 + n / 4096).toUInt8.toNat = 0xe0 + n / 4096 := toNat_toUInt8 (by omega)
    have hb' : (0x80 + n / 64 % 64).toUInt8.toNat = 0x80 + n / 64 % 64 := toNat_toUInt8 (by omega)
    have hd : (0x80 + n % 64).toUInt8.toNat = 0x80 + n % 64 := toNat_toUInt8 (by omega)
    have hn : code [(0xe0 + n / 4096).toUInt8, (0x80 + n / 64 % 64).toUInt8,
        (0x80 + n % 64).toUInt8] = n := by
      show (((0xe0 + n / 4096).toUInt8.toNat - 0xe0) * 64
        + ((0x80 + n / 64 % 64).toUInt8.toNat - 0x80)) * 64
        + ((0x80 + n % 64).toUInt8.toNat - 0x80) = n
      rw [hb, hb', hd]
      omega
    obtain ⟨low, high, hs, hl, hh⟩ := hs
    refine ⟨_, _, rfl, (next_three rest ?_ (hb ▸ hs) ?_ ?_
      (isContinuation_toUInt8 (by omega))).trans (by rw [hn, hc])⟩ <;> omega
  · next h0 h1 h2 =>
    have hs : ∃ low high, shape? (0xf0 + n / 262144) = some (4, low, high)
        ∧ low ≤ 0x80 + n / 4096 % 64 ∧ 0x80 + n / 4096 % 64 ≤ high := by
      unfold shape?
      repeat' split
      all_goals first
        | exact ⟨_, _, rfl, by omega, by omega⟩
        | omega
    have hb : (0xf0 + n / 262144).toUInt8.toNat = 0xf0 + n / 262144 := toNat_toUInt8 (by omega)
    have hb' : (0x80 + n / 4096 % 64).toUInt8.toNat = 0x80 + n / 4096 % 64 :=
      toNat_toUInt8 (by omega)
    have hd : (0x80 + n / 64 % 64).toUInt8.toNat = 0x80 + n / 64 % 64 := toNat_toUInt8 (by omega)
    have he : (0x80 + n % 64).toUInt8.toNat = 0x80 + n % 64 := toNat_toUInt8 (by omega)
    have hn : code [(0xf0 + n / 262144).toUInt8, (0x80 + n / 4096 % 64).toUInt8,
        (0x80 + n / 64 % 64).toUInt8, (0x80 + n % 64).toUInt8] = n := by
      show ((((0xf0 + n / 262144).toUInt8.toNat - 0xf0) * 64
        + ((0x80 + n / 4096 % 64).toUInt8.toNat - 0x80)) * 64
        + ((0x80 + n / 64 % 64).toUInt8.toNat - 0x80)) * 64
        + ((0x80 + n % 64).toUInt8.toNat - 0x80) = n
      rw [hb, hb', hd, he]
      omega
    obtain ⟨low, high, hs, hl, hh⟩ := hs
    refine ⟨_, _, rfl, (next_four rest ?_ (hb ▸ hs) ?_ ?_
      (isContinuation_toUInt8 (by omega)) (isContinuation_toUInt8 (by omega))).trans
      (by rw [hn, hc])⟩ <;> omega

theorem decodeFrom_encode (position : Nat) (t : Text) : decodeFrom position (encode t) = .ok t := by
  induction t generalizing position with
  | nil => simp [encode, decodeFrom]
  | cons c t ih =>
    obtain ⟨b, more, he, hn⟩ := next_encodeChar c (encode t)
    have hcons : encode (c :: t) = b :: more := by rw [← he]; simp [encode]
    rw [hcons, decodeFrom]
    split
    · next h => rw [hn] at h; cases h
    · next c' rest' h =>
      rw [hn] at h
      cases h
      simp [ih]

/-- What was written is read back. -/
@[simp] theorem decode_encode (t : Text) : decode (encode t) = .ok t := decodeFrom_encode 0 t

end Utf8

end OpScaffold
