import LocaleGen.Text.Utf8
import Mathlib

/-!
# UTF-8 read back

A text without surrogates is written (`encode_of_isScalar`), and reading the bytes gives the text
again (`decode_encodeAll`). By the width of a character there are four cases: its first byte says
how many more belong to it and what the second one has to lie between, and each of the bytes after
the first adds six bits to its number.
-/

namespace LocaleGen.Utf8

/-! ## Writing -/

theorem firstSurrogates_eq_none {t : Text} : firstSurrogates t = none ↔ t.IsScalar := by
  unfold firstSurrogates
  constructor
  · intro h
    cases hrest : t.dropWhile fun c => !c.isSurrogate with
    | nil => simpa [Text.IsScalar] using List.dropWhile_eq_nil_iff.mp hrest
    | cons c rest =>
      rw [hrest] at h
      cases h
  · intro h
    have hrest : t.dropWhile (fun c => !c.isSurrogate) = [] :=
      List.dropWhile_eq_nil_iff.mpr fun c hc => by rw [h c hc]; rfl
    rw [hrest]

@[simp] theorem encode_of_isScalar {t : Text} (h : t.IsScalar) : encode t = .ok (encodeAll t) := by
  rw [encode, firstSurrogates_eq_none.mpr h]

theorem encode_eq_ok {t : Text} {bytes : Bytes} (h : encode t = .ok bytes) :
    encodeAll t = bytes := by
  unfold encode at h
  split at h
  · cases h
  · exact Except.ok.inj h

theorem isScalar_of_encode {t : Text} {bytes : Bytes} (h : encode t = .ok bytes) : t.IsScalar := by
  rw [← firstSurrogates_eq_none]
  unfold encode at h
  split at h
  · cases h
  · next hnone => exact hnone

/-! ## Bytes by their numbers -/

theorem toNat_toUInt8 {n : Nat} (h : n < 256) : n.toUInt8.toNat = n := UInt8.toNat_ofNat_of_lt' h

theorem secondBounds_eq (first : UInt8) : secondBounds first =
    if first.toNat = 0xE0 then (0xA0, 0xBF)
    else if first.toNat = 0xED then (0x80, 0x9F)
    else if first.toNat = 0xF0 then (0x90, 0xBF)
    else if first.toNat = 0xF4 then (0x80, 0x8F)
    else (0x80, 0xBF) := by
  unfold secondBounds
  simp only [← UInt8.toNat_inj]
  rfl

/-- A byte within the bounds adds six bits. -/
theorem readTail_byte {needed taken value n : Nat} {bounds : Nat × Nat} (rest : Bytes)
    (hn : bounds.1 ≤ n ∧ n ≤ bounds.2) (hbyte : n < 256) :
    readTail (needed + 1) taken value bounds (n.toUInt8 :: rest) =
      readTail needed (taken + 1) (value * 0x40 + n % 0x40) (0x80, 0xBF) rest := by
  rw [readTail, toNat_toUInt8 hbyte, if_pos hn]

theorem readTail_six {needed taken value six : Nat} (rest : Bytes) (hsix : six < 0x40) :
    readTail (needed + 1) taken value (0x80, 0xBF) ((0x80 + six).toUInt8 :: rest) =
      readTail needed (taken + 1) (value * 0x40 + six) (0x80, 0xBF) rest := by
  rw [readTail_byte rest (by constructor <;> simp only <;> omega) (by omega)]
  congr 2
  omega

/-! ## One character -/

section

variable {c : CodePoint} (rest : Bytes)

theorem readChar_one (h : c.val < 0x80) : readChar c.val.toUInt8 rest = .char c rest := by
  simp only [readChar, toNat_toUInt8 (show c.val < 256 by omega), if_pos h, CodePoint.ofNat_val]

theorem readChar_two (hlow : 0x80 ≤ c.val) (hhigh : c.val < 0x800) :
    readChar (0xC0 + c.val / 0x40).toUInt8 ((0x80 + c.val % 0x40).toUInt8 :: rest) =
      .char c rest := by
  have hfirst := toNat_toUInt8 (show 0xC0 + c.val / 0x40 < 256 by omega)
  have hbounds : secondBounds (0xC0 + c.val / 0x40).toUInt8 = (0x80, 0xBF) := by
    rw [secondBounds_eq, hfirst]
    repeat rw [if_neg (by omega)]
  have hvalue : (0xC0 + c.val / 0x40) % 0x20 * 0x40 + c.val % 0x40 = c.val := by omega
  unfold readChar
  simp only [hfirst, hbounds]
  rw [if_neg (by omega), if_neg (by omega), if_pos (by omega), readTail_six rest (by omega), hvalue,
    readTail, CodePoint.ofNat_val]

theorem readChar_three (hlow : 0x800 ≤ c.val) (hhigh : c.val < 0x10000)
    (hscalar : c.isSurrogate = false) :
    readChar (0xE0 + c.val / 0x1000).toUInt8
      ((0x80 + c.val / 0x40 % 0x40).toUInt8 :: (0x80 + c.val % 0x40).toUInt8 :: rest) =
        .char c rest := by
  have hfirst := toNat_toUInt8 (show 0xE0 + c.val / 0x1000 < 256 by omega)
  have hgap : c.val < 0xD800 ∨ 0xDFFF < c.val := by
    simp [CodePoint.isSurrogate] at hscalar
    omega
  -- The shortest form has no second byte below A0 after E0, and the surrogates are those above 9F
  -- after ED.
  have hbounds : (secondBounds (0xE0 + c.val / 0x1000).toUInt8).1 ≤ 0x80 + c.val / 0x40 % 0x40 ∧
      0x80 + c.val / 0x40 % 0x40 ≤ (secondBounds (0xE0 + c.val / 0x1000).toUInt8).2 := by
    rw [secondBounds_eq, hfirst]
    split_ifs <;> constructor <;> simp only <;> omega
  have hvalue :
    ((0xE0 + c.val / 0x1000) % 0x10 * 0x40 + (0x80 + c.val / 0x40 % 0x40) % 0x40) * 0x40 +
      c.val % 0x40 = c.val := by omega
  unfold readChar
  simp only [hfirst]
  rw [if_neg (by omega), if_neg (by omega), if_neg (by omega), if_pos (by omega),
    readTail_byte _ hbounds (by omega), readTail_six rest (by omega), hvalue, readTail,
      CodePoint.ofNat_val]

theorem readChar_four (hlow : 0x10000 ≤ c.val) :
    readChar (0xF0 + c.val / 0x40000).toUInt8
      ((0x80 + c.val / 0x1000 % 0x40).toUInt8 :: (0x80 + c.val / 0x40 % 0x40).toUInt8 ::
        (0x80 + c.val % 0x40).toUInt8 :: rest) = .char c rest := by
  have hlimit := c.isLt
  have hfirst := toNat_toUInt8 (show 0xF0 + c.val / 0x40000 < 256 by omega)
  have hbounds : (secondBounds (0xF0 + c.val / 0x40000).toUInt8).1 ≤ 0x80 + c.val / 0x1000 % 0x40 ∧
      0x80 + c.val / 0x1000 % 0x40 ≤ (secondBounds (0xF0 + c.val / 0x40000).toUInt8).2 := by
    rw [secondBounds_eq, hfirst]
    split_ifs <;> constructor <;> simp only <;> omega
  have hvalue :
    (((0xF0 + c.val / 0x40000) % 0x08 * 0x40 + (0x80 + c.val / 0x1000 % 0x40) % 0x40) * 0x40 +
      c.val / 0x40 % 0x40) * 0x40 + c.val % 0x40 = c.val := by omega
  unfold readChar
  simp only [hfirst]
  rw [if_neg (by omega), if_neg (by omega), if_neg (by omega), if_neg (by omega), if_pos (by omega),
    readTail_byte _ hbounds (by omega), readTail_six _ (by omega), readTail_six rest (by omega),
      hvalue, readTail,
    CodePoint.ofNat_val]

/-- The bytes of a character are read as the character, whatever follows them. -/
theorem readChar_encodeChar (hscalar : c.isSurrogate = false) :
    ∃ b tail, encodeChar c = b :: tail ∧ readChar b (tail ++ rest) = .char c rest := by
  by_cases hone : c.val < 0x80
  · exact ⟨_, [], by simp only [encodeChar, if_pos hone], readChar_one rest hone⟩
  · by_cases htwo : c.val < 0x800
    · exact ⟨_, [_], by simp only [encodeChar, if_neg hone, if_pos htwo],
        readChar_two rest (by omega) htwo⟩
    · by_cases hthree : c.val < 0x10000
      · exact ⟨_, [_, _], by simp only [encodeChar, if_neg hone, if_neg htwo, if_pos hthree],
          readChar_three rest (by omega) hthree hscalar⟩
      · exact ⟨_, [_, _, _], by simp only [encodeChar, if_neg hone, if_neg htwo, if_neg hthree],
          readChar_four rest (by omega)⟩

end

/-! ## Texts -/

/-- Every character takes a byte at least, so as much fuel as there are bytes is enough. -/
theorem decodeFrom_encodeAll {t : Text} (h : t.IsScalar) {fuel : Nat}
    (hfuel : (encodeAll t).length ≤ fuel) (surrogates : Bool) (position : Nat) :
    decodeFrom fuel surrogates position (encodeAll t) = .ok t := by
  induction t generalizing fuel position with
  | nil =>
    unfold decodeFrom
    rfl
  | cons c t ih =>
    obtain ⟨hc, ht⟩ := List.forall_mem_cons.mp h
    obtain ⟨b, tail, hencode, hread⟩ := readChar_encodeChar (encodeAll t) hc
    have hbytes : encodeAll (c :: t) = b :: (tail ++ encodeAll t) := by
      rw [encodeAll, List.flatMap_cons, hencode]
      rfl
    rw [hbytes] at hfuel ⊢
    cases fuel with
    | zero => simp at hfuel
    | succ fuel =>
      have hfewer : (encodeAll t).length ≤ fuel := by
        simp only [List.length_cons, List.length_append] at hfuel
        omega
      rw [decodeFrom, hread]
      simp only [ih ht hfewer]
      rfl

@[simp] theorem decode_encodeAll {t : Text} (h : t.IsScalar) : decode (encodeAll t) = .ok t :=
  decodeFrom_encodeAll h le_rfl false 0

end LocaleGen.Utf8
