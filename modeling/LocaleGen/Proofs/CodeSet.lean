import LocaleGen.Unicode.Basic
import Mathlib

/-!
# Sets of code points as numbers

The tables of characters are too long for a comparison of every entry with every other one. A set of
numbers is taken for the number that has them as its bits instead: `listed` for the numbers of a
list, `spanned` for those of inclusive ranges, `progression` for every so many, `moved` for all
numbers of a set at a distance. Whole sets are compared at once then, by `Nat.land`.

`isAscending` says of ranges that they are in the order that `inRanges` relies on.
-/

namespace LocaleGen.Unicode

/-! ## Unions -/

def union (sets : List Nat) : Nat := sets.foldr (· ||| ·) 0

@[simp] theorem testBit_union {sets : List Nat} {n : Nat} :
    (union sets).testBit n = true ↔ ∃ set ∈ sets, set.testBit n = true := by
  induction sets with
  | nil => simp [union]
  | cons set sets ih =>
    have hcons : union (set :: sets) = set ||| union sets := rfl
    rw [hcons, Nat.testBit_or, Bool.or_eq_true, ih, List.exists_mem_cons_iff]

def listed (ns : List Nat) : Nat := union (ns.map (2 ^ ·))

@[simp] theorem testBit_listed {ns : List Nat} {n : Nat} :
    (listed ns).testBit n = true ↔ n ∈ ns := by
  simp [listed, Nat.testBit_two_pow]

def spanned (ranges : List (Nat × Nat)) : Nat :=
  union (ranges.map fun r => (2 ^ (r.2 + 1 - r.1) - 1) <<< r.1)

theorem testBit_spanned {ranges : List (Nat × Nat)} {n : Nat} :
    (spanned ranges).testBit n = true ↔ ∃ r ∈ ranges, r.1 ≤ n ∧ n ≤ r.2 := by
  have hrange : ∀ r : Nat × Nat, ((2 ^ (r.2 + 1 - r.1) - 1) <<< r.1).testBit n = true ↔
      r.1 ≤ n ∧ n ≤ r.2 := by
    intro r
    simp only [Nat.testBit_shiftLeft, Nat.testBit_two_pow_sub_one, Bool.and_eq_true,
      decide_eq_true_eq]
    omega
  simp only [spanned, testBit_union, List.mem_map, exists_exists_and_eq_and, hrange]

/-! ## Other sets -/

def progression (step count : Nat) : Nat :=
  match count with
  | 0 => 0
  | count + 1 => progression step count <<< step ||| 1

theorem testBit_progression {step count n : Nat} (hstep : 0 < step) :
    (progression step count).testBit n = true ↔ n % step = 0 ∧ n / step < count := by
  induction count generalizing n with
  | zero => simp [progression]
  | succ count ih =>
    rw [progression, Nat.testBit_or, Bool.or_eq_true, Nat.testBit_shiftLeft, Bool.and_eq_true, ih,
      decide_eq_true_eq,
      Nat.testBit_one_eq_true_iff_self_eq_zero]
    rcases Nat.lt_or_ge n step with hlt | hle
    · rw [Nat.mod_eq_of_lt hlt, Nat.div_eq_of_lt hlt]
      omega
    · obtain ⟨k, rfl⟩ := Nat.exists_eq_add_of_le' hle
      rw [Nat.add_sub_cancel, Nat.add_mod_right, Nat.add_div_right _ hstep]
      omega

def moved (distance : Int) (set : Nat) : Nat :=
  match distance with
  | .ofNat k => set <<< k
  | .negSucc k => set >>> (k + 1)

theorem testBit_moved {distance : Int} {set m : Nat} :
    (moved distance set).testBit m = true ↔
    ∃ n, set.testBit n = true ∧ (n : Int) + distance = m := by
  cases distance with
  | ofNat k =>
    simp only [moved, Nat.testBit_shiftLeft, Bool.and_eq_true, decide_eq_true_eq,
      Int.ofNat_eq_natCast]
    constructor
    · rintro ⟨hk, hset⟩
      exact ⟨m - k, hset, by omega⟩
    · rintro ⟨n, hset, heq⟩
      obtain rfl : m = n + k := by omega
      exact ⟨by omega, by rwa [Nat.add_sub_cancel]⟩
  | negSucc k =>
    simp only [moved, Nat.testBit_shiftRight, Int.negSucc_eq]
    constructor
    · intro hset
      exact ⟨k + 1 + m, hset, by omega⟩
    · rintro ⟨n, hset, heq⟩
      obtain rfl : n = k + 1 + m := by omega
      exact hset

/-! ## Comparison -/

theorem not_testBit_of_land_eq_zero {set other n : Nat} (h : set &&& other = 0)
    (hn : set.testBit n = true) : other.testBit n = false := by
  have hboth : (set &&& other).testBit n = false := by rw [h, Nat.zero_testBit]
  rwa [Nat.testBit_and, hn, Bool.true_and] at hboth

theorem testBit_of_land_eq_self {set other n : Nat} (h : set &&& other = set)
    (hn : set.testBit n = true) : other.testBit n = true := by
  rw [← h, Nat.testBit_and, Bool.and_eq_true] at hn
  exact hn.2

/-- Whether no two of the sets have a number in common, and none of them has one with `before`. -/
def areApart (before : Nat) (sets : List Nat) : Bool :=
  match sets with
  | [] => true
  | set :: sets => set &&& before == 0 && areApart (set ||| before) sets

theorem pairwise_of_areApart {before : Nat} {sets : List Nat} (h : areApart before sets = true) :
    sets.Pairwise (fun set other => set &&& other = 0) ∧ ∀ set ∈ sets, set &&& before = 0 := by
  induction sets generalizing before with
  | nil => simp
  | cons set sets ih =>
    simp only [areApart, Bool.and_eq_true, beq_iff_eq] at h
    obtain ⟨hpairwise, hrest⟩ := ih h.2
    simp only [Nat.and_or_distrib_left, Nat.or_eq_zero_iff] at hrest
    refine ⟨List.pairwise_cons.mpr ⟨fun other hother => ?_, hpairwise⟩, ?_⟩
    · rw [Nat.land_comm]
      exact (hrest other hother).1
    · exact List.forall_mem_cons.mpr ⟨h.1, fun other hother => (hrest other hother).2⟩

/-- Sets that belong to different members of a list have no number in common. -/
theorem land_eq_zero_of_areApart {α : Type} {f : α → Nat} {as : List α}
    (h : areApart 0 (as.map f) = true) {a b : α} (ha : a ∈ as) (hb : b ∈ as) (hne : a ≠ b) :
    f a &&& f b = 0 := by
  have hpairwise : as.Pairwise fun a b => f a &&& f b = 0 :=
    List.pairwise_map.mp (pairwise_of_areApart h).1
  have : Std.Symm fun a b => f a &&& f b = 0 := ⟨fun a b h => (Nat.land_comm _ _).trans h⟩
  exact hpairwise.forall ha hb hne

/-! ## Ascending ranges -/

def isAscending (lo : Nat) (ranges : List (Nat × Nat)) : Bool :=
  match ranges with
  | [] => true
  | r :: rest => lo ≤ r.1 && r.1 ≤ r.2 && isAscending (r.2 + 1) rest

theorem bounds_of_isAscending {lo : Nat} {ranges : List (Nat × Nat)}
    (h : isAscending lo ranges = true) : ∀ r ∈ ranges, lo ≤ r.1 ∧ r.1 ≤ r.2 := by
  induction ranges generalizing lo with
  | nil => simp
  | cons r rest ih =>
    simp only [isAscending, Bool.and_eq_true, decide_eq_true_eq] at h
    obtain ⟨⟨hlo, hr⟩, hrest⟩ := h
    refine List.forall_mem_cons.mpr ⟨⟨hlo, hr⟩, fun s hs => ?_⟩
    have := ih hrest s hs
    omega

theorem inRanges_of_testBit {lo : Nat} {ranges : List (Nat × Nat)}
    (h : isAscending lo ranges = true) {n : Nat} (hn : (spanned ranges).testBit n = true) :
    inRanges ranges n = true := by
  obtain ⟨r, hr, hfirst, hlast⟩ := testBit_spanned.mp hn
  clear hn
  induction ranges generalizing lo with
  | nil => cases hr
  | cons s rest ih =>
    simp only [isAscending, Bool.and_eq_true, decide_eq_true_eq] at h
    simp only [inRanges, Bool.and_eq_true, Bool.or_eq_true, decide_eq_true_eq]
    rcases List.mem_cons.mp hr with rfl | hmem
    · exact ⟨hfirst, .inl hlast⟩
    · have := bounds_of_isAscending h.2 r hmem
      exact ⟨by omega, .inr (ih h.2 hmem)⟩

end LocaleGen.Unicode
