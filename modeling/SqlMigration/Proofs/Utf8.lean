import SqlMigration.Text.Utf8

/-!
# Decoding encoded text

The strict decoder reads back every text the encoder writes. The bytes of one character take it
through a lead step and its continuation steps and give the character back
(`decodeFrom_encodeChar`), so a whole text decodes to its characters (`decode_encode`). A call
that is not final may end inside a character: it answers the characters before the cut and keeps
the cut character's bytes (`decodeFrom_take_encodeList`), which the next call finishes.

Main statement: `decodeChunks_encodeList`, a file holding encoded text is decoded back to that
text by the buffered reader, wherever its chunks happen to cut characters.
-/

namespace SqlMigration.Text.Utf8

/-! ## Steps of the decoder -/

/-- The range the next continuation byte of a partial character must lie in. -/
def Partial.nextRange (p : Partial) : UInt8 × UInt8 :=
  if p.read = 0 then firstRange p.lead else (0x80, 0xBF)

theorem continuations_eq (b : UInt8) : continuations b =
    if b.toNat < 0x80 then some 0 else if b.toNat < 0xC2 then none
    else if b.toNat < 0xE0 then some 1 else if b.toNat < 0xF0 then some 2
    else if b.toNat < 0xF5 then some 3 else none := by
  simp [continuations, UInt8.lt_iff_toNat_lt]

theorem firstRange_eq (b : UInt8) : firstRange b =
    if b.toNat = 0xE0 then (0xA0, 0xBF) else if b.toNat = 0xED then (0x80, 0x9F)
    else if b.toNat = 0xF0 then (0x90, 0xBF) else if b.toNat = 0xF4 then (0x80, 0x8F)
    else (0x80, 0xBF) := by
  simp only [firstRange, ← UInt8.toNat_inj, UInt8.reduceToNat]

theorem decodeFrom_ascii {final : Bool} {pos : Nat} {b : UInt8} (hb : b.toNat < 0x80)
    (rest : List UInt8) :
    decodeFrom final pos none [] (b :: rest) =
      { decodeFrom final (pos + 1) none [] rest with
        chars := Char.ofNat b.toNat :: (decodeFrom final (pos + 1) none [] rest).chars } := by
  have hc : continuations b = some 0 := by rw [continuations_eq, if_pos hb]
  simp only [decodeFrom, hc]

theorem decodeFrom_lead {final : Bool} {pos : Nat} {b : UInt8} {k : Nat}
    (hb : continuations b = some (k + 1)) (rest : List UInt8) :
    decodeFrom final pos none [] (b :: rest) =
      decodeFrom final (pos + 1) (some ⟨b, pos, leadBits b (k + 1), 0, k + 1⟩) [b] rest := by
  simp only [decodeFrom, hb]

theorem decodeFrom_last {final : Bool} {pos : Nat} {p : Partial} {seen : List UInt8}
    {b : UInt8} (hb : p.nextRange.1 ≤ b ∧ b ≤ p.nextRange.2) (ho : p.owed = 1)
    (rest : List UInt8) :
    decodeFrom final pos (some p) seen (b :: rest) =
      { decodeFrom final (pos + 1) none [] rest with
        chars := Char.ofNat (p.bits * 0x40 + b.toNat % 0x40) ::
          (decodeFrom final (pos + 1) none [] rest).chars } := by
  simp only [Partial.nextRange] at hb
  simp only [decodeFrom, hb, ho, and_self, ↓reduceIte]

theorem decodeFrom_more {final : Bool} {pos : Nat} {p : Partial} {seen : List UInt8}
    {b : UInt8} (hb : p.nextRange.1 ≤ b ∧ b ≤ p.nextRange.2) (ho : p.owed ≠ 1)
    (rest : List UInt8) :
    decodeFrom final pos (some p) seen (b :: rest) =
      decodeFrom final (pos + 1)
        (some { p with bits := p.bits * 0x40 + b.toNat % 0x40, read := p.read + 1,
                       owed := p.owed - 1 }) (b :: seen) rest := by
  simp only [Partial.nextRange] at hb
  simp only [decodeFrom, hb, ho, and_self, ↓reduceIte]

/-- A call that is not final keeps the bytes of an unfinished character. -/
theorem decodeFrom_unfinished (pos : Nat) (p : Partial) (seen : List UInt8) :
    decodeFrom false pos (some p) seen [] = ⟨[], none, seen.reverse⟩ := by
  simp [decodeFrom]

/-! ## The bytes of one character -/

theorem toNat_toUInt8 {n : Nat} (h : n < 0x100) : n.toUInt8.toNat = n := by
  simp only [Nat.toUInt8_eq, UInt8.toNat_ofNat']
  exact Nat.mod_eq_of_lt h

/-- The code point of a character is no surrogate and at most U+10FFFF. -/
theorem toNat_valid (c : Char) :
    c.toNat < 0xD800 ∨ (0xDFFF < c.toNat ∧ c.toNat < 0x110000) := by
  have hv := c.valid
  simp only [UInt32.isValidChar, Nat.isValidChar] at hv
  exact hv

theorem encodeChar_of_lt_0x80 {c : Char} (h : c.toNat < 0x80) :
    encodeChar c = [c.toNat.toUInt8] := by
  simp [encodeChar, h]

theorem encodeChar_of_lt_0x800 {c : Char} (h1 : 0x80 ≤ c.toNat) (h2 : c.toNat < 0x800) :
    encodeChar c = [(0xC0 + c.toNat / 0x40).toUInt8, (0x80 + c.toNat % 0x40).toUInt8] := by
  simp [encodeChar, Nat.not_lt.2 h1, h2]

theorem encodeChar_of_lt_0x10000 {c : Char} (h1 : 0x800 ≤ c.toNat) (h2 : c.toNat < 0x10000) :
    encodeChar c = [(0xE0 + c.toNat / 0x1000).toUInt8, (0x80 + c.toNat / 0x40 % 0x40).toUInt8,
      (0x80 + c.toNat % 0x40).toUInt8] := by
  simp [encodeChar, Nat.not_lt.2 h1, h2, show ¬ c.toNat < 0x80 by omega]

theorem encodeChar_of_ge_0x10000 {c : Char} (h1 : 0x10000 ≤ c.toNat) :
    encodeChar c = [(0xF0 + c.toNat / 0x40000).toUInt8, (0x80 + c.toNat / 0x1000 % 0x40).toUInt8,
      (0x80 + c.toNat / 0x40 % 0x40).toUInt8, (0x80 + c.toNat % 0x40).toUInt8] := by
  simp [encodeChar, Nat.not_lt.2 h1, show ¬ c.toNat < 0x80 by omega,
    show ¬ c.toNat < 0x800 by omega]

/-! ## One character, read back

A character of `w` bytes is read in `w` steps; a cut between chunks can stop after any of the
first `w - 1`, so the states after them are named too.
-/

theorem continuations_two {n : Nat} (h1 : 0x80 ≤ n) (h2 : n < 0x800) :
    continuations (0xC0 + n / 0x40).toUInt8 = some (0 + 1) := by
  rw [continuations_eq, toNat_toUInt8 (by omega), if_neg (by omega), if_neg (by omega),
    if_pos (by omega)]

theorem continuations_three {n : Nat} (h1 : 0x800 ≤ n) (h2 : n < 0x10000) :
    continuations (0xE0 + n / 0x1000).toUInt8 = some (1 + 1) := by
  rw [continuations_eq, toNat_toUInt8 (by omega), if_neg (by omega), if_neg (by omega),
    if_neg (by omega), if_pos (by omega)]

theorem continuations_four {n : Nat} (h1 : 0x10000 ≤ n) (h2 : n < 0x110000) :
    continuations (0xF0 + n / 0x40000).toUInt8 = some (2 + 1) := by
  rw [continuations_eq, toNat_toUInt8 (by omega), if_neg (by omega), if_neg (by omega),
    if_neg (by omega), if_neg (by omega), if_pos (by omega)]

theorem decodeFrom_two {final : Bool} {pos n : Nat} (h1 : 0x80 ≤ n) (h2 : n < 0x800)
    (rest : List UInt8) :
    decodeFrom final pos none [] ((0xC0 + n / 0x40).toUInt8 :: (0x80 + n % 0x40).toUInt8 :: rest) =
      { decodeFrom final (pos + 2) none [] rest with
        chars := Char.ofNat n :: (decodeFrom final (pos + 2) none [] rest).chars } := by
  have e0 : (0xC0 + n / 0x40).toUInt8.toNat = 0xC0 + n / 0x40 := toNat_toUInt8 (by omega)
  have e1 : (0x80 + n % 0x40).toUInt8.toNat = 0x80 + n % 0x40 := toNat_toUInt8 (by omega)
  have hr : firstRange (0xC0 + n / 0x40).toUInt8 = (0x80, 0xBF) := by
    rw [firstRange_eq, e0, if_neg (by omega), if_neg (by omega), if_neg (by omega),
      if_neg (by omega)]
  have hbits : leadBits (0xC0 + n / 0x40).toUInt8 (0 + 1) * 0x40 +
      (0x80 + n % 0x40).toUInt8.toNat % 0x40 = n := by
    simp only [leadBits, e0, e1, if_pos]
    omega
  rw [decodeFrom_lead (continuations_two h1 h2), decodeFrom_last _ rfl, hbits]
  simp only [Partial.nextRange, hr, UInt8.le_iff_toNat_le, e1, UInt8.reduceToNat, if_pos]
  omega

/-- The first two bytes of a three-byte character. -/
theorem decodeFrom_three_two {final : Bool} {pos n : Nat} (h1 : 0x800 ≤ n) (h2 : n < 0x10000)
    (hs : n < 0xD800 ∨ 0xDFFF < n) (rest : List UInt8) :
    decodeFrom final pos none []
        ((0xE0 + n / 0x1000).toUInt8 :: (0x80 + n / 0x40 % 0x40).toUInt8 :: rest) =
      decodeFrom final (pos + 1 + 1) (some ⟨(0xE0 + n / 0x1000).toUInt8, pos, n / 0x40, 1, 1⟩)
        [(0x80 + n / 0x40 % 0x40).toUInt8, (0xE0 + n / 0x1000).toUInt8] rest := by
  have e0 : (0xE0 + n / 0x1000).toUInt8.toNat = 0xE0 + n / 0x1000 := toNat_toUInt8 (by omega)
  have e1 : (0x80 + n / 0x40 % 0x40).toUInt8.toNat = 0x80 + n / 0x40 % 0x40 :=
    toNat_toUInt8 (by omega)
  -- the second byte is narrower after E0 (no overlong form) and ED (no surrogate)
  have hr : (firstRange (0xE0 + n / 0x1000).toUInt8).1.toNat ≤ 0x80 + n / 0x40 % 0x40 ∧
      0x80 + n / 0x40 % 0x40 ≤ (firstRange (0xE0 + n / 0x1000).toUInt8).2.toNat := by
    rw [firstRange_eq, e0]
    repeat' split
    all_goals simp only [UInt8.reduceToNat]; omega
  have hbits : leadBits (0xE0 + n / 0x1000).toUInt8 (1 + 1) * 0x40 +
      (0x80 + n / 0x40 % 0x40).toUInt8.toNat % 0x40 = n / 0x40 := by
    simp only [leadBits, e0, e1]
    simp only [show (1 + 1 = 1) = False by decide, if_false, if_pos]
    omega
  rw [decodeFrom_lead (continuations_three h1 h2), decodeFrom_more _ (by simp), hbits]
  · rfl
  · simpa only [Partial.nextRange, UInt8.le_iff_toNat_le, e1, if_pos] using hr

theorem decodeFrom_three {final : Bool} {pos n : Nat} (h1 : 0x800 ≤ n) (h2 : n < 0x10000)
    (hs : n < 0xD800 ∨ 0xDFFF < n) (rest : List UInt8) :
    decodeFrom final pos none [] ((0xE0 + n / 0x1000).toUInt8 ::
        (0x80 + n / 0x40 % 0x40).toUInt8 :: (0x80 + n % 0x40).toUInt8 :: rest) =
      { decodeFrom final (pos + 3) none [] rest with
        chars := Char.ofNat n :: (decodeFrom final (pos + 3) none [] rest).chars } := by
  have e2 : (0x80 + n % 0x40).toUInt8.toNat = 0x80 + n % 0x40 := toNat_toUInt8 (by omega)
  have hbits : n / 0x40 * 0x40 + (0x80 + n % 0x40).toUInt8.toNat % 0x40 = n := by
    rw [e2]
    omega
  rw [decodeFrom_three_two h1 h2 hs, decodeFrom_last _ rfl, hbits]
  simp [Partial.nextRange, UInt8.le_iff_toNat_le]
  omega

/-- The first two bytes of a four-byte character. -/
theorem decodeFrom_four_two {final : Bool} {pos n : Nat} (h1 : 0x10000 ≤ n) (h2 : n < 0x110000)
    (rest : List UInt8) :
    decodeFrom final pos none []
        ((0xF0 + n / 0x40000).toUInt8 :: (0x80 + n / 0x1000 % 0x40).toUInt8 :: rest) =
      decodeFrom final (pos + 1 + 1) (some ⟨(0xF0 + n / 0x40000).toUInt8, pos, n / 0x1000, 1, 2⟩)
        [(0x80 + n / 0x1000 % 0x40).toUInt8, (0xF0 + n / 0x40000).toUInt8] rest := by
  have e0 : (0xF0 + n / 0x40000).toUInt8.toNat = 0xF0 + n / 0x40000 := toNat_toUInt8 (by omega)
  have e1 : (0x80 + n / 0x1000 % 0x40).toUInt8.toNat = 0x80 + n / 0x1000 % 0x40 :=
    toNat_toUInt8 (by omega)
  -- the second byte is narrower after F0 (no overlong form) and F4 (nothing above U+10FFFF)
  have hr : (firstRange (0xF0 + n / 0x40000).toUInt8).1.toNat ≤ 0x80 + n / 0x1000 % 0x40 ∧
      0x80 + n / 0x1000 % 0x40 ≤ (firstRange (0xF0 + n / 0x40000).toUInt8).2.toNat := by
    rw [firstRange_eq, e0]
    repeat' split
    all_goals simp only [UInt8.reduceToNat]; omega
  have hbits : leadBits (0xF0 + n / 0x40000).toUInt8 (2 + 1) * 0x40 +
      (0x80 + n / 0x1000 % 0x40).toUInt8.toNat % 0x40 = n / 0x1000 := by
    simp only [leadBits, e0, e1]
    simp only [show (2 + 1 = 1) = False by decide, show (2 + 1 = 2) = False by decide, if_false]
    omega
  rw [decodeFrom_lead (continuations_four h1 h2), decodeFrom_more _ (by simp), hbits]
  · rfl
  · simpa only [Partial.nextRange, UInt8.le_iff_toNat_le, e1, if_pos] using hr

/-- The first three bytes of a four-byte character. -/
theorem decodeFrom_four_three {final : Bool} {pos n : Nat} (h1 : 0x10000 ≤ n)
    (h2 : n < 0x110000) (rest : List UInt8) :
    decodeFrom final pos none [] ((0xF0 + n / 0x40000).toUInt8 ::
        (0x80 + n / 0x1000 % 0x40).toUInt8 :: (0x80 + n / 0x40 % 0x40).toUInt8 :: rest) =
      decodeFrom final (pos + 1 + 1 + 1)
        (some ⟨(0xF0 + n / 0x40000).toUInt8, pos, n / 0x40, 2, 1⟩)
        [(0x80 + n / 0x40 % 0x40).toUInt8, (0x80 + n / 0x1000 % 0x40).toUInt8,
          (0xF0 + n / 0x40000).toUInt8] rest := by
  have e2 : (0x80 + n / 0x40 % 0x40).toUInt8.toNat = 0x80 + n / 0x40 % 0x40 :=
    toNat_toUInt8 (by omega)
  have hbits : n / 0x1000 * 0x40 + (0x80 + n / 0x40 % 0x40).toUInt8.toNat % 0x40 = n / 0x40 := by
    rw [e2]
    omega
  rw [decodeFrom_four_two h1 h2, decodeFrom_more _ (by simp), hbits]
  · rfl
  · simp [Partial.nextRange, UInt8.le_iff_toNat_le]
    omega

theorem decodeFrom_four {final : Bool} {pos n : Nat} (h1 : 0x10000 ≤ n) (h2 : n < 0x110000)
    (rest : List UInt8) :
    decodeFrom final pos none [] ((0xF0 + n / 0x40000).toUInt8 ::
        (0x80 + n / 0x1000 % 0x40).toUInt8 :: (0x80 + n / 0x40 % 0x40).toUInt8 ::
        (0x80 + n % 0x40).toUInt8 :: rest) =
      { decodeFrom final (pos + 4) none [] rest with
        chars := Char.ofNat n :: (decodeFrom final (pos + 4) none [] rest).chars } := by
  have e3 : (0x80 + n % 0x40).toUInt8.toNat = 0x80 + n % 0x40 := toNat_toUInt8 (by omega)
  have hbits : n / 0x40 * 0x40 + (0x80 + n % 0x40).toUInt8.toNat % 0x40 = n := by
    rw [e3]
    omega
  rw [decodeFrom_four_three h1 h2, decodeFrom_last _ rfl, hbits]
  simp [Partial.nextRange, UInt8.le_iff_toNat_le]
  omega

/-- The bytes of a character decode to that character, and decoding goes on after them. -/
theorem decodeFrom_encodeChar (final : Bool) (pos : Nat) (c : Char) (rest : List UInt8) :
    decodeFrom final pos none [] (encodeChar c ++ rest) =
      { decodeFrom final (pos + (encodeChar c).length) none [] rest with
        chars := c :: (decodeFrom final (pos + (encodeChar c).length) none [] rest).chars } := by
  have hv := toNat_valid c
  by_cases h1 : c.toNat < 0x80
  · have e : c.toNat.toUInt8.toNat = c.toNat := toNat_toUInt8 (by omega)
    rw [encodeChar_of_lt_0x80 h1, List.singleton_append, decodeFrom_ascii (by rwa [e]), e,
      Char.ofNat_toNat]
    rfl
  by_cases h2 : c.toNat < 0x800
  · rw [encodeChar_of_lt_0x800 (by omega) h2]
    simpa using @decodeFrom_two final pos c.toNat (by omega) h2 rest
  by_cases h3 : c.toNat < 0x10000
  · rw [encodeChar_of_lt_0x10000 (by omega) h3]
    simpa using @decodeFrom_three final pos c.toNat (by omega) h3 (by omega) rest
  · rw [encodeChar_of_ge_0x10000 (by omega)]
    simpa using @decodeFrom_four final pos c.toNat (by omega) (by omega) rest

/-- The bytes of a text decode to its characters, and decoding goes on after them. -/
theorem decodeFrom_encodeList (final : Bool) (cs : List Char) (pos : Nat) (rest : List UInt8) :
    decodeFrom final pos none [] (encodeList cs ++ rest) =
      { decodeFrom final (pos + (encodeList cs).length) none [] rest with
        chars := cs ++ (decodeFrom final (pos + (encodeList cs).length) none [] rest).chars } := by
  induction cs generalizing pos with
  | nil => rfl
  | cons c cs ih =>
    rw [encodeList, List.append_assoc, decodeFrom_encodeChar, ih, List.length_append,
      Nat.add_assoc]
    rfl

/-- A call that is not final, cut inside a character, keeps the bytes read of that character. -/
theorem decodeFrom_take_encodeChar (pos : Nat) (c : Char) {k : Nat} (hk0 : 0 < k)
    (hk : k < (encodeChar c).length) :
    decodeFrom false pos none [] ((encodeChar c).take k) = ⟨[], none, (encodeChar c).take k⟩ := by
  have hv := toNat_valid c
  by_cases h1 : c.toNat < 0x80
  · rw [encodeChar_of_lt_0x80 h1] at hk
    simp only [List.length_singleton] at hk
    omega
  by_cases h2 : c.toNat < 0x800
  · rw [encodeChar_of_lt_0x800 (by omega) h2] at hk ⊢
    obtain rfl : k = 1 := by simp only [List.length_cons, List.length_nil] at hk; omega
    simp only [List.take]
    rw [decodeFrom_lead (continuations_two (by omega) h2), decodeFrom_unfinished]
    rfl
  by_cases h3 : c.toNat < 0x10000
  · rw [encodeChar_of_lt_0x10000 (by omega) h3] at hk ⊢
    simp only [List.length_cons, List.length_nil] at hk
    rcases (show k = 1 ∨ k = 2 by omega) with rfl | rfl <;> simp only [List.take]
    · rw [decodeFrom_lead (continuations_three (by omega) h3), decodeFrom_unfinished]
      rfl
    · rw [decodeFrom_three_two (by omega) h3 (by omega), decodeFrom_unfinished]
      rfl
  · rw [encodeChar_of_ge_0x10000 (by omega)] at hk ⊢
    simp only [List.length_cons, List.length_nil] at hk
    rcases (show k = 1 ∨ k = 2 ∨ k = 3 by omega) with rfl | rfl | rfl <;> simp only [List.take]
    · rw [decodeFrom_lead (@continuations_four c.toNat (by omega) (by omega)),
        decodeFrom_unfinished]
      rfl
    · rw [decodeFrom_four_two (by omega) (by omega), decodeFrom_unfinished]
      rfl
    · rw [decodeFrom_four_three (by omega) (by omega), decodeFrom_unfinished]
      rfl

theorem length_encodeChar_pos (c : Char) : 0 < (encodeChar c).length := by
  simp only [encodeChar]
  repeat' split
  all_goals simp

/-- Bytes kept between calls: nothing, or fewer bytes than the next character has. -/
def Cut (kept : List UInt8) (cs : List Char) : Prop :=
  kept = [] ∨ ∃ c rest, cs = c :: rest ∧ kept.length < (encodeChar c).length

/-- A call that is not final, on the first `i` bytes of a text, decodes the characters that
end before byte `i` and keeps what it read of the next one. -/
theorem decodeFrom_take_encodeList (cs : List Char) (i pos : Nat) :
    ∃ cs₁ cs₂ kept, cs = cs₁ ++ cs₂ ∧ Cut kept cs₂ ∧
      kept ++ (encodeList cs).drop i = encodeList cs₂ ∧
      decodeFrom false pos none [] ((encodeList cs).take i) = ⟨cs₁, none, kept⟩ := by
  induction cs generalizing i pos with
  | nil => exact ⟨[], [], [], rfl, .inl rfl, by simp [encodeList], by simp [encodeList, decodeFrom]⟩
  | cons c cs ih =>
    by_cases hi : (encodeChar c).length ≤ i
    · obtain ⟨cs₁, cs₂, kept, rfl, hcut, hrest, hdec⟩ :=
        ih (i - (encodeChar c).length) (pos + (encodeChar c).length)
      refine ⟨c :: cs₁, cs₂, kept, rfl, hcut, ?_, ?_⟩
      · rwa [encodeList, List.drop_append, List.drop_eq_nil_of_le hi, List.nil_append]
      · rw [encodeList, List.take_append, List.take_of_length_le hi, decodeFrom_encodeChar, hdec]
    · have hsplit : (encodeList (c :: cs)).take i = (encodeChar c).take i := by
        rw [encodeList, List.take_append_of_le_length (by omega)]
      by_cases h0 : i = 0
      · subst h0
        exact ⟨[], c :: cs, [], rfl, .inl rfl, by simp, by simp [decodeFrom]⟩
      · refine ⟨[], c :: cs, (encodeChar c).take i, rfl, .inr ⟨c, cs, rfl, by simp; omega⟩, ?_,
          by rw [hsplit, decodeFrom_take_encodeChar pos c (by omega) (by omega)]⟩
        rw [encodeList, List.drop_append_of_le_length (by omega), ← List.append_assoc,
          List.take_append_drop]

/-- Fed in chunks, the bytes of a text decode back to it. -/
theorem feed_encodeList (chunks : List (List UInt8)) :
    ∀ (kept : List UInt8) (cs : List Char), kept ++ chunks.flatten = encodeList cs →
      Cut kept cs → feed kept chunks = ⟨cs, none⟩ := by
  induction chunks with
  | nil =>
    intro kept cs h hcut
    rw [List.flatten_nil, List.append_nil] at h
    rcases hcut with rfl | ⟨c, rest, rfl, hlt⟩
    · cases cs with
      | nil => simp [feed, decodeCall, decodeFrom]
      | cons c rest =>
        have := congrArg List.length h
        simp only [encodeList, List.length_append, List.length_nil] at this
        have := length_encodeChar_pos c
        omega
    · have := congrArg List.length h
      simp only [encodeList, List.length_append] at this
      omega
  | cons chunk chunks ih =>
    intro kept cs h hcut
    have htake : (encodeList cs).take (kept ++ chunk).length = kept ++ chunk := by
      rw [← h, List.flatten_cons, ← List.append_assoc, List.take_left]
    obtain ⟨cs₁, cs₂, kept', rfl, hcut', hrest, hdec⟩ :=
      decodeFrom_take_encodeList cs (kept ++ chunk).length 0
    have hdrop : (encodeList (cs₁ ++ cs₂)).drop (kept ++ chunk).length = chunks.flatten := by
      rw [← h, List.flatten_cons, ← List.append_assoc, List.drop_left]
    rw [hdrop] at hrest
    rw [htake] at hdec
    simp only [feed, decodeCall, hdec, ih kept' cs₂ hrest hcut']

theorem chunksOf_flatten {n : Nat} (hn : 0 < n) (bs : List UInt8) :
    (chunksOf n bs).flatten = bs := by
  suffices ∀ fuel bs, bs.length ≤ fuel → (chunksOf.go n fuel bs).flatten = bs from
    this bs.length bs (Nat.le_refl _)
  intro fuel
  induction fuel with
  | zero => intro bs h; simp_all [chunksOf.go]
  | succ fuel ih =>
    intro bs h
    cases bs with
    | nil => simp [chunksOf.go]
    | cons b bs' =>
      simp only [chunksOf.go, List.isEmpty_cons, Bool.false_eq_true, ↓reduceIte, List.flatten_cons]
      rw [ih _ (by simp at h ⊢; omega), Nat.max_eq_left hn, List.take_append_drop]

/-- A file holding the bytes of a text is read back as that text, whatever cuts its chunks
make. -/
theorem decodeChunks_encodeList (cs : List Char) : decodeChunks (encodeList cs) = ⟨cs, none⟩ :=
  feed_encodeList _ [] cs (by rw [chunksOf_flatten (by decide)]; rfl) (.inl rfl)

theorem decode_encode (s : String) : decode (encode s) = .ok s := by
  have h := decodeFrom_encodeList true s.toList 0 []
  rw [List.append_nil] at h
  simp only [decode, decodeCall, encode, h]
  simp [decodeFrom, String.ofList_toList]

end SqlMigration.Text.Utf8
