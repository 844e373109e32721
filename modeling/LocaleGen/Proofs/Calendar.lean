import LocaleGen.Calendar
import LocaleGen.Proofs.Numeral
import Mathlib

/-!
# Days by their numbers

Year, month and day of the month determine a day (`Date.parts_spec`), and a day is written in ten
characters that no other day is written in (`Date.length_render`, `Date.render_injective`).

`Date.backTo` lists the days from one back to another, the latest one first.
-/

namespace LocaleGen

namespace Date

/-! ## Year, month and day of the month -/

theorem ext_number {d e : Date} (h : d.number = e.number) : d = e := by
  cases d
  cases e
  cases h
  rfl

theorem daysBeforeYear_eq (year : Nat) :
    daysBeforeYear (year + 1) = year * 365 + year / 4 - year / 100 + year / 400 := rfl

theorem isLeap_iff {year : Nat} : isLeap year = true ↔ 4 ∣ year ∧ (¬ 100 ∣ year ∨ 400 ∣ year) := by
  unfold isLeap
  rw [Bool.and_eq_true, Bool.or_eq_true, decide_eq_true_eq, decide_eq_true_eq, decide_eq_true_eq,
    Nat.dvd_iff_mod_eq_zero,
    Nat.dvd_iff_mod_eq_zero, Nat.dvd_iff_mod_eq_zero]

theorem daysBeforeYear_succ (year : Nat) :
    daysBeforeYear (year + 1 + 1) =
      daysBeforeYear (year + 1) + if isLeap (year + 1) then 366 else 365 := by
  have hcentury : 400 ∣ year + 1 → 100 ∣ year + 1 := (by decide : 100 ∣ 400).trans
  have hfourth : 100 ∣ year + 1 → 4 ∣ year + 1 := (by decide : 4 ∣ 100).trans
  have hfew : year / 100 ≤ year := Nat.div_le_self year 100
  rw [daysBeforeYear_eq, daysBeforeYear_eq, Nat.succ_div, Nat.succ_div, Nat.succ_div]
  generalize year / 4 = fourths, year / 100 = centuries, year / 400 = quarters at hfew ⊢
  by_cases leap : isLeap (year + 1) = true
  · rw [if_pos leap]
    obtain ⟨h4, h100 | h400⟩ := isLeap_iff.mp leap
    · rw [if_pos h4, if_neg h100, if_neg fun h400 => h100 (hcentury h400)]
      omega
    · rw [if_pos h4, if_pos (hcentury h400), if_pos h400]
      omega
  · rw [if_neg leap]
    rw [isLeap_iff, not_and_or, not_or, not_not] at leap
    obtain h4 | ⟨h100, h400⟩ := leap
    · rw [if_neg h4, if_neg fun h100 => h4 (hfourth h100),
        if_neg fun h400 => h4 (hfourth (hcentury h400))]
      omega
    · rw [if_pos (hfourth h100), if_pos h100, if_neg h400]
      omega

theorem daysBeforeMonth_succ {month : Nat} (year : Nat) (h : 1 ≤ month) :
    daysBeforeMonth year (month + 1) = daysBeforeMonth year month + monthLength year month := by
  obtain ⟨m, rfl⟩ : ∃ m, month = m + 1 := ⟨month - 1, by omega⟩
  simp only [daysBeforeMonth, Nat.add_sub_cancel, List.range_succ, List.map_append,
    List.foldl_append, List.map_cons,
    List.map_nil, List.foldl_cons, List.foldl_nil]

theorem monthLength_le (year month : Nat) : monthLength year month ≤ 31 := by
  unfold monthLength
  split_ifs <;> omega

theorem daysBeforeMonth_end (year : Nat) :
    daysBeforeMonth year 13 = if isLeap year then 366 else 365 := by
  unfold daysBeforeMonth monthLength
  cases isLeap year <;> rfl

/-- The year found for a day starts before it. -/
theorem daysBeforeYear_yearFrom (fuel : Nat) {guess n : Nat} (h : daysBeforeYear guess < n) :
    daysBeforeYear (yearFrom fuel guess n) < n := by
  induction fuel generalizing guess with
  | zero => exact h
  | succ fuel ih =>
    rw [yearFrom]
    split
    · exact h
    · exact ih (by omega)

/-- The year after the one found for a day starts behind it, if it can be reached. -/
theorem le_daysBeforeYear_yearFrom (fuel guess : Nat) {n : Nat}
    (h : n ≤ daysBeforeYear (guess + fuel + 1)) :
    n ≤ daysBeforeYear (yearFrom fuel guess n + 1) ∧ guess ≤ yearFrom fuel guess n := by
  induction fuel generalizing guess with
  | zero => exact ⟨h, le_rfl⟩
  | succ fuel ih =>
    rw [yearFrom]
    split
    · next found => exact ⟨found, le_rfl⟩
    · have hnext : n ≤ daysBeforeYear (guess + 1 + fuel + 1) := by
        rwa [show guess + 1 + fuel + 1 = guess + (fuel + 1) + 1 by omega]
      have later := ih _ hnext
      exact ⟨later.1, by omega⟩

/-- The days before the month that is found and the day within it make up the days given. -/
theorem monthFrom_spec (fuel year : Nat) {month n : Nat} (hmonth : 1 ≤ month)
    (h : daysBeforeMonth year month + n ≤ daysBeforeMonth year (month + fuel)) :
    daysBeforeMonth year (monthFrom fuel year month n).1 + (monthFrom fuel year month n).2 =
        daysBeforeMonth year month + n ∧
      (monthFrom fuel year month n).1 ≤ month + fuel ∧ (monthFrom fuel year month n).2 ≤ 31 := by
  induction fuel generalizing month n with
  | zero =>
    rw [Nat.add_zero] at h
    exact ⟨rfl, le_rfl, show n ≤ 31 by omega⟩
  | succ fuel ih =>
    have hsucc := daysBeforeMonth_succ year hmonth
    have hlength := monthLength_le year month
    rw [monthFrom]
    split
    · exact ⟨rfl, by simp only; omega, by simp only; omega⟩
    · have hnext : daysBeforeMonth year (month + 1) + (n - monthLength year month) ≤
          daysBeforeMonth year (month + 1 + fuel) := by
        rw [show month + 1 + fuel = month + (fuel + 1) by omega]
        omega
      obtain ⟨hdays, hlast, hday⟩ := ih (Nat.le_add_left 1 month) hnext
      exact ⟨by omega, by omega, hday⟩

theorem parts_spec (d : Date) :
    d.number = daysBeforeYear d.parts.1 + (daysBeforeMonth d.parts.1 d.parts.2.1 + d.parts.2.2) ∧
      d.parts.1 ≤ 9999 ∧ d.parts.2.1 ≤ 13 ∧ d.parts.2.2 ≤ 31 := by
  have hpositive := d.positive
  have hbounded := d.bounded
  have hguess : daysBeforeYear (d.number / 366 + 1) < d.number := by
    rw [daysBeforeYear_eq]
    omega
  have hreach : d.number ≤ daysBeforeYear (d.number / 366 + 1 + 30 + 1) := by
    rw [daysBeforeYear_eq]
    omega
  have hstarts := daysBeforeYear_yearFrom 30 hguess
  obtain ⟨hends, hfirst⟩ := le_daysBeforeYear_yearFrom 30 (d.number / 366 + 1) hreach
  generalize hyear : yearFrom 30 (d.number / 366 + 1) d.number = year at hstarts hends hfirst
  obtain ⟨y, rfl⟩ : ∃ y, year = y + 1 := ⟨year - 1, by omega⟩
  have hlength := daysBeforeYear_succ y
  have hmonths := daysBeforeMonth_end (y + 1)
  have hnone : daysBeforeMonth (y + 1) 1 = 0 := rfl
  have hwithin : daysBeforeMonth (y + 1) 1 + (d.number - daysBeforeYear (y + 1)) ≤
      daysBeforeMonth (y + 1) (1 + 12) := by
    rw [hnone, show 1 + 12 = 13 from rfl, hmonths]
    omega
  obtain ⟨hdays, hmonth, hday⟩ := monthFrom_spec 12 (y + 1) le_rfl hwithin
  have hparts : d.parts = (y + 1, monthFrom 12 (y + 1) 1 (d.number - daysBeforeYear (y + 1))) := by
    unfold parts
    simp only [hyear]
  rw [hparts]
  refine ⟨by simp only; omega, ?_, hmonth, hday⟩
  rw [daysBeforeYear_eq] at hstarts
  simp only
  omega

/-! ## Days as texts -/

end Date

namespace Text

theorem map_digit_val {ds : List Nat} (h : ∀ d ∈ ds, d < 10) :
    (ds.map digit).map (·.val - 0x30) = ds := by
  rw [List.map_map]
  refine (List.map_congr_left fun d hd => ?_).trans (List.map_id _)
  have hd := h d hd
  simp [digit_val (d := d) (by omega), hd]

theorem length_decimal (width n : Nat) (hw : 1 ≤ width) (h : n < 10 ^ width) :
    (decimal width n).length = width := by
  have hlen : (digits 10 n).length ≤ width := length_digits_le hw h
  simp [decimal, padded]
  omega

theorem decimal_injective {width n m : Nat} (h : decimal width n = decimal width m) : n = m := by
  have read (n : Nat) : ofDigits 10 ((decimal width n).map (·.val - 0x30)) = n := by
    rw [decimal, map_digit_val, ofDigits_padded, ofDigits_digits]
    intro d hd
    rcases List.mem_append.mp hd with hd | hd
    · rw [List.eq_of_mem_replicate hd]
      decide
    · exact digits_lt (by decide) n d hd
  rw [← read n, h, read m]

end Text

namespace Date

/-- Four characters for the year, two for the month and two for the day, with a hyphen between
them. -/
@[simp] theorem length_render (d : Date) : d.render.length = 10 := by
  obtain ⟨-, hyear, hmonth, hday⟩ := d.parts_spec
  have fst := Text.length_decimal 4 d.parts.1 (by decide) (by omega)
  have snd := Text.length_decimal 2 d.parts.2.1 (by decide) (by omega)
  have thd := Text.length_decimal 2 d.parts.2.2 (by decide) (by omega)
  unfold render
  simp only [List.length_append, fst, snd, thd]
  rfl

/-- A day is written as no other day is. -/
theorem render_injective : Function.Injective render := by
  intro d e h
  obtain ⟨hd, hdyear, hdmonth, -⟩ := d.parts_spec
  obtain ⟨he, heyear, hemonth, -⟩ := e.parts_spec
  unfold render at h
  simp only [List.append_assoc] at h
  have width4 {n : Nat} (h : n ≤ 9999) := Text.length_decimal 4 n (by decide) (by omega)
  have width2 {n : Nat} (h : n ≤ 13) := Text.length_decimal 2 n (by decide) (by omega)
  obtain ⟨hyear, h⟩ := List.append_inj h ((width4 hdyear).trans (width4 heyear).symm)
  obtain ⟨-, h⟩ := List.append_inj h rfl
  obtain ⟨hmonth, h⟩ := List.append_inj h ((width2 hdmonth).trans (width2 hemonth).symm)
  obtain ⟨-, hday⟩ := List.append_inj h rfl
  have hyear := Text.decimal_injective hyear
  have hmonth := Text.decimal_injective hmonth
  have hday := Text.decimal_injective hday
  exact ext_number (by rw [hd, he, hyear, hmonth, hday])

/-! ## From day to day -/

@[simp] theorem ofNumber?_eq_some {n : Nat} {d : Date} : ofNumber? n = some d ↔ d.number = n := by
  unfold ofNumber?
  split
  · next h =>
    constructor
    · intro heq
      cases heq
      rfl
    · rintro rfl
      rfl
  · next h =>
    constructor
    · intro heq
      cases heq
    · rintro rfl
      exact absurd ⟨d.positive, d.bounded⟩ h

@[simp] theorem previous?_eq_none {d : Date} : d.previous? = none ↔ d.number = 1 := by
  have hpositive := d.positive
  have hbounded := d.bounded
  unfold previous? ofNumber?
  split
  · simp only [reduceCtorEq, false_iff]
    omega
  · simp only [true_iff]
    omega

def backTo (last : Date) (first : Nat) : List Date :=
  (List.range (last.number + 1 - first)).filterMap fun k => ofNumber? (last.number - k)

@[simp] theorem mem_backTo {last d : Date} {first : Nat} :
    d ∈ last.backTo first ↔ first ≤ d.number ∧ d.number ≤ last.number := by
  have hpositive := d.positive
  simp only [backTo, List.mem_filterMap, List.mem_range, ofNumber?_eq_some]
  constructor
  · rintro ⟨k, hk, hd⟩
    omega
  · rintro ⟨hfirst, hlast⟩
    exact ⟨last.number - d.number, by omega, by omega⟩

theorem backTo_eq_nil {last : Date} {first : Nat} (h : last.number < first) :
    last.backTo first = [] := by
  rw [backTo, show last.number + 1 - first = 0 by omega]
  rfl

theorem backTo_cons {last earlier : Date} {first : Nat} (h : first ≤ last.number)
    (hprevious : last.previous? = some earlier) :
    last.backTo first = last :: earlier.backTo first := by
  have hnumber := number_previous? hprevious
  have hpositive := earlier.positive
  have hself : ofNumber? (last.number - 0) = some last := ofNumber?_eq_some.mpr rfl
  rw [backTo, show last.number + 1 - first = earlier.number + 1 - first + 1 by omega,
    List.range_succ_eq_map,
    List.filterMap_cons, hself, List.filterMap_map, backTo]
  refine congrArg (last :: ·) (List.filterMap_congr fun k _ => ?_)
  rw [Function.comp_apply, show last.number - k.succ = earlier.number - k by omega]

end Date

end LocaleGen
