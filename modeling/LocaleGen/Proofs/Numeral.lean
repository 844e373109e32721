import LocaleGen.Text.Unescape
import Mathlib

/-!
# Numerals read back

Digits stand for the number that they are the digits of, in any base, with or without zeros in
front. From this the two readings of numerals that literals need: `toNat?_ofNat` for decimal ones,
and `hexPoint?_hex` for the number of a character.
-/

namespace LocaleGen.Text

/-! ## Digits -/

theorem digits_lt {base : Nat} (hb : 2 ≤ base) (n : Nat) : ∀ d ∈ digits base n, d < base := by
  induction n using Nat.strongRecOn with
  | ind n ih =>
    rw [digits]
    split
    · next h =>
      intro d hd
      rcases List.mem_append.mp hd with hd | hd
      · exact ih _ (Nat.div_lt_self (by omega) (by omega)) d hd
      · rw [List.mem_singleton.mp hd]
        exact Nat.mod_lt _ (by omega)
    · next h =>
      intro d hd
      rw [List.mem_singleton.mp hd]
      omega

@[simp] theorem ofDigits_append (base : Nat) (ds : List Nat) (d : Nat) :
    ofDigits base (ds ++ [d]) = ofDigits base ds * base + d := by
  simp [ofDigits]

@[simp] theorem ofDigits_digits (base n : Nat) : ofDigits base (digits base n) = n := by
  induction n using Nat.strongRecOn with
  | ind n ih =>
    rw [digits]
    split
    · next h =>
      rw [ofDigits_append, ih _ (Nat.div_lt_self (by omega) (by omega))]
      exact Nat.div_add_mod' n base
    · simp [ofDigits]

theorem digits_ne_nil (base n : Nat) : digits base n ≠ [] := by
  rw [digits]
  split <;> simp

/-- A number below the power `k` of the base has at most `k` digits. -/
theorem length_digits_le {base : Nat} {k n : Nat} (hk : 1 ≤ k) (h : n < base ^ k) :
    (digits base n).length ≤ k := by
  induction n using Nat.strongRecOn generalizing k with
  | ind n ih =>
    rw [digits]
    split
    · next hb =>
      have hk' : 2 ≤ k := by
        rcases Nat.lt_or_ge k 2 with hlt | hge
        · obtain rfl : k = 1 := by omega
          simp at h
          omega
        · exact hge
      obtain ⟨j, rfl⟩ : ∃ j, k = j + 1 := ⟨k - 1, by omega⟩
      have hdiv : n / base < base ^ j :=
        Nat.div_lt_of_lt_mul (by rwa [Nat.pow_succ, Nat.mul_comm] at h)
      have := ih _ (Nat.div_lt_self (by omega) (by omega)) (k := j) (by omega) hdiv
      simpa using this
    · simpa using hk

@[simp] theorem ofDigits_padded (base width : Nat) (ds : List Nat) :
    ofDigits base (padded width ds) = ofDigits base ds := by
  have zeros : ∀ k : Nat, ofDigits base (List.replicate k 0 ++ ds) = ofDigits base ds := by
    intro k
    induction k with
    | zero => rfl
    | succ k ih => rw [← ih]; simp [ofDigits, List.replicate_succ]
  exact zeros _

/-! ## Decimal numerals -/

theorem digit_val {d : Nat} (h : d < 16) :
    (digit d).val = if d < 10 then 0x30 + d else 0x57 + d := by
  have : (if d < 10 then 0x30 + d else 0x57 + d) < 0x110000 := by split <;> omega
  simp [digit, CodePoint.ofNat, this]

theorem digit_isDigit {d : Nat} (h : d < 10) : (digit d).isDigit = true := by
  have := digit_val (d := d) (by omega)
  simp [CodePoint.isDigit, this, h]
  omega

theorem ofNat_isDigit (n : Nat) : ∀ c ∈ ofNat n, c.isDigit = true := by
  intro c hc
  obtain ⟨d, hd, rfl⟩ := List.mem_map.mp hc
  exact digit_isDigit (digits_lt (by decide) n d hd)

theorem ofNat_ne_nil (n : Nat) : ofNat n ≠ [] := by
  simpa [ofNat] using digits_ne_nil 10 n

/-- A decimal numeral is read as its number. -/
@[simp] theorem toNat?_ofNat (n : Nat) : toNat? (ofNat n) = some n := by
  have hdigits : (ofNat n).all CodePoint.isDigit = true := List.all_eq_true.mpr (ofNat_isDigit n)
  have hvalues : (ofNat n).map (·.val - 0x30) = digits 10 n := by
    rw [ofNat, List.map_map]
    refine (List.map_congr_left fun d hd => ?_).trans (List.map_id _)
    have h10 : d < 10 := digits_lt (by decide) n d hd
    simp [digit_val (d := d) (by omega), h10]
  have hne : (ofNat n).isEmpty = false := by simp [ofNat_ne_nil]
  rw [toNat?, hdigits, hne, hvalues, ofDigits_digits]
  rfl

/-! ## Hexadecimal numerals -/

theorem hexValue?_digit {d : Nat} (h : d < 16) : (digit d).hexValue? = some d := by
  have hv := digit_val h
  by_cases hd : d < 10
  · rw [if_pos hd] at hv
    simp [CodePoint.hexValue?, digit_isDigit hd, hv]
  · rw [if_neg hd] at hv
    have hnot : (digit d).isDigit = false := by simp [CodePoint.isDigit, hv]; omega
    have hcapital : ¬ (0x57 + d ≤ 0x46) := by omega
    have hsmall : 0x61 ≤ 0x57 + d ∧ 0x57 + d ≤ 0x66 := by omega
    simp [CodePoint.hexValue?, hnot, hv, hcapital, hsmall]

theorem mapM_hexValue?_digit {ds : List Nat} (h : ∀ d ∈ ds, d < 16) :
    (ds.map digit).mapM CodePoint.hexValue? = some ds := by
  induction ds with
  | nil => rfl
  | cons d ds ih =>
    simp [List.mapM_cons, hexValue?_digit (h d (by simp)), ih fun e he => h e (by simp [he])]

theorem length_hex {width n : Nat} (hw : 1 ≤ width) (h : n < 16 ^ width) :
    (hex width n).length = width := by
  have hlen : (digits 16 n).length ≤ width := length_digits_le hw h
  simp [hex, padded]
  omega

theorem hexNat?_hex {width : Nat} (hw : 1 ≤ width) {n : Nat} (h : n < 16 ^ width) :
    hexNat? (hex width n) = some n := by
  have hne : (hex width n).isEmpty = false := by
    rw [List.isEmpty_eq_false_iff, ← List.length_pos_iff, length_hex hw h]
    exact hw
  have hlt : ∀ d ∈ padded width (digits 16 n), d < 16 := by
    intro d hd
    rcases List.mem_append.mp hd with hd | hd
    · rw [List.eq_of_mem_replicate hd]
      decide
    · exact digits_lt (by decide) n d hd
  rw [hexNat?, hne, hex, mapM_hexValue?_digit hlt, Option.map_some, ofDigits_padded,
    ofDigits_digits]
  rfl

/-- The number of a character is read as the character. -/
theorem hexPoint?_hex {width : Nat} (hw : 1 ≤ width) (c : CodePoint)
    (h : c.val < 16 ^ width) (t : Text) : hexPoint? width (hex width c.val ++ t) = some (c, t) := by
  have hlen := length_hex hw h
  have htake : (hex width c.val ++ t).take width = hex width c.val := List.take_left' hlen
  have hdrop : (hex width c.val ++ t).drop width = t := List.drop_left' hlen
  simp [hexPoint?, htake, hdrop, hlen, hexNat?_hex hw h, c.isLt, CodePoint.ofNat]

end LocaleGen.Text
