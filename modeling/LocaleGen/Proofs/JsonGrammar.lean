import LocaleGen.Proofs.JsonSteps
import Mathlib

/-!
# The grammar of JSON

What the reader takes for JSON, said without the reader: which text stands for what between quotes
(`Json.Quotes`), as a number (`Json.IsNumber`) and as a value or a part of one (`Json.Spells`). An
object keeps all members of its text here, those whose names are repeated as well.

Texts in quotes and numbers are read just so: `Json.readString_of_quotes` and
`Json.quotes_of_readString`, `Json.readScalar_of_isNumber` and `Json.isNumber_of_readMagnitude`.

What is written for a value is in the grammar: `Json.spells_write`. Units that form a pair are one
character, so a text may not hold the halves of a pair side by side (`Text.IsUnpaired`), and there
are no fractions in such values (`Json.IsData`).
-/

namespace LocaleGen

namespace Json

variable {fuel : Nat} {c : CodePoint} {t src opened tail rest : Text}

/-! ## Texts in quotes -/

def IsUnitEscape (src : Text) (n : Nat) : Prop :=
  ∃ digits, src = CodePoint.ofChar '\\' :: CodePoint.ofChar 'u' :: digits ∧ digits.length = 4 ∧
    Text.hexNat? digits = some n

/-- The escape of a character by its number, in front of `src`: one unit, or two units that form a
pair. Where two units may form a pair they do. -/
inductive IsEscape (src : Text) : Text → CodePoint → Prop
  | unit {n : Nat} {escape : Text} : IsUnitEscape escape n →
      ((CodePoint.ofNat n).isHighSurrogate = true → ∀ next m more, IsUnitEscape next m →
        (CodePoint.ofNat m).isLowSurrogate = true → src ≠ next ++ more) →
          IsEscape src escape (.ofNat n)
  | pair {high low : Nat} {first next : Text} : IsUnitEscape first high → IsUnitEscape next low →
      (CodePoint.ofNat high).isHighSurrogate = true → (CodePoint.ofNat low).isLowSurrogate = true →
      IsEscape src (first ++ next) (joinPair high low)

/-- What stands between quotes, and the text it stands for. -/
inductive Quotes : Text → Text → Prop
  | nil : Quotes [] []
  | plain {c : CodePoint} {src t : Text} : c ≠ '"' → c ≠ '\\' → 0x20 ≤ c.val → Quotes src t →
      Quotes (c :: src) (c :: t)
  | short {c d : CodePoint} {src t : Text} : shortEscape? d = some c → Quotes src t →
      Quotes (CodePoint.ofChar '\\' :: d :: src) (c :: t)
  | number {c : CodePoint} {escape src t : Text} :
      IsEscape src escape c → Quotes src t → Quotes (escape ++ src) (c :: t)

theorem IsUnitEscape.readUnit {escape : Text} {n : Nat} (h : IsUnitEscape escape n)
    (htail : tail ≠ []) :
    ∃ digits, escape ++ tail = CodePoint.ofChar '\\' :: CodePoint.ofChar 'u' :: (digits ++ tail) ∧
      Json.readUnit (digits ++ tail) = .ok (n, tail) := by
  obtain ⟨digits, rfl, hlength, hnumber⟩ := h
  exact ⟨digits, rfl, readUnit_eq_ok.mpr ⟨digits, rfl, hlength, hnumber, htail⟩⟩

theorem IsUnitEscape.length {escape : Text} {n : Nat} (h : IsUnitEscape escape n) :
    escape.length = 6 := by
  obtain ⟨digits, rfl, hlength, -⟩ := h
  rw [List.length_cons, List.length_cons, hlength]

theorem IsEscape.length_pos {escape : Text} (h : IsEscape src escape c) : 0 < escape.length := by
  cases h with
  | unit hunit => simp [hunit.length]
  | pair hfirst => simp [hfirst.length]

theorem ne_of_shortEscape? {d : CodePoint} (h : shortEscape? d = some c) : d ≠ 'u' := by
  rintro rfl
  have hnone : shortEscape? (CodePoint.ofChar 'u') = none := by decide
  rw [hnone] at h
  cases h

/-- The escape of a unit that stands between quotes is whole. -/
theorem Quotes.exists_unit (h : Quotes src t)
    (hescape : src ++ CodePoint.ofChar '"' :: rest =
      CodePoint.ofChar '\\' :: CodePoint.ofChar 'u' :: tail) :
    ∃ next m more, IsUnitEscape next m ∧ src = next ++ more := by
  cases h with
  | nil => exact absurd (List.cons.inj hescape).1 (by decide)
  | plain hquote hslash hcontrol h => exact absurd (List.cons.inj hescape).1 hslash
  | short hshort h =>
    exact absurd (List.cons.inj (List.cons.inj hescape).2).1 (ne_of_shortEscape? hshort)
  | number hnumber h =>
    cases hnumber with
    | unit hunit hhalf => exact ⟨_, _, _, hunit, rfl⟩
    | pair hfirst hnext high low => exact ⟨_, _, _, hfirst, List.append_assoc _ _ _⟩

/-- The escape of a character is read in front of what stands between the quotes. -/
theorem IsEscape.read {escape : Text} (h : IsEscape src escape c) (hsrc : Quotes src t) :
    ∃ digits, escape ++ (src ++ CodePoint.ofChar '"' :: rest) =
      CodePoint.ofChar '\\' :: CodePoint.ofChar 'u' :: digits ∧
      readUnicodeEscape digits = .ok (c, src ++ CodePoint.ofChar '"' :: rest) := by
  have hnil (t : Text) : t ++ CodePoint.ofChar '"' :: rest ≠ [] := by simp
  cases h with
  | @unit n escape hunit hhalf =>
    obtain ⟨digits, hescape, hread⟩ := hunit.readUnit (hnil src)
    refine ⟨_, hescape, readUnicodeEscape_of_unit hread fun high tail htail => ?_⟩
    obtain ⟨next, m, more, hnext, rfl⟩ := hsrc.exists_unit htail
    obtain ⟨digits, hescape, hread⟩ := hnext.readUnit (hnil more)
    rw [List.append_assoc, hescape] at htail
    rw [← (List.cons.inj (List.cons.inj htail).2).2]
    exact ⟨m, _, hread, Bool.eq_false_of_not_eq_true
      fun low => hhalf high next m more hnext low rfl⟩
  | @pair high low first next hfirst hnext highPoint lowPoint =>
    obtain ⟨digits', hescape', hreadLow⟩ := hnext.readUnit (hnil src)
    have hnil' : next ++ (src ++ CodePoint.ofChar '"' :: rest) ≠ [] := by simp
    obtain ⟨digits, hescape, hreadHigh⟩ := hfirst.readUnit hnil'
    rw [hescape'] at hreadHigh
    exact ⟨_, by rw [List.append_assoc, hescape], by
      rw [hescape']
      exact readUnicodeEscape_of_units hreadHigh hreadLow highPoint lowPoint⟩

/-- What stands between quotes is read, whatever stands behind them. -/
theorem readString_of_quotes (h : Quotes src t) (hfuel : src.length < fuel) :
    readString fuel opened (src ++ CodePoint.ofChar '"' :: rest) = .ok (t, rest) := by
  induction h generalizing fuel with
  | nil =>
    obtain ⟨fuel, rfl⟩ : ∃ n, fuel = n + 1 := ⟨fuel - 1, by omega⟩
    exact readString_quote
  | plain hquote hslash hcontrol h ih =>
    rw [List.length_cons] at hfuel
    obtain ⟨fuel, rfl⟩ : ∃ n, fuel = n + 1 := ⟨fuel - 1, by omega⟩
    rw [List.cons_append, readString_plain hquote hslash hcontrol, ih (by omega)]
    rfl
  | short hshort h ih =>
    rw [List.length_cons, List.length_cons] at hfuel
    obtain ⟨fuel, rfl⟩ : ∃ n, fuel = n + 1 := ⟨fuel - 1, by omega⟩
    rw [List.cons_append, List.cons_append, readString_short (ne_of_shortEscape? hshort) hshort,
      ih (by omega)]
    rfl
  | @number c escape src t hnumber h ih =>
    obtain ⟨digits, hescape, hread⟩ := hnumber.read h
    have hlength := hnumber.length_pos
    rw [List.length_append] at hfuel
    obtain ⟨fuel, rfl⟩ : ∃ n, fuel = n + 1 := ⟨fuel - 1, by omega⟩
    rw [List.append_assoc, hescape, readString_unicode hread, ih (by omega)]
    rfl

/-- An escape that is read is one unit, with no low half to be read behind it if it is a high one,
or it is two units. -/
theorem readUnicodeEscape_cases (h : readUnicodeEscape t = .ok (c, rest)) :
    ∃ high left, readUnit t = .ok (high, left) ∧
      (c = .ofNat high ∧ rest = left ∧ ((CodePoint.ofNat high).isHighSurrogate = true → ∀ digits m more,
          left = CodePoint.ofChar '\\' :: CodePoint.ofChar 'u' :: digits →
          readUnit digits = .ok (m, more) →
            ¬ (CodePoint.ofNat m).isLowSurrogate = true) ∨
        ∃ low digits, left = CodePoint.ofChar '\\' :: CodePoint.ofChar 'u' :: digits ∧
        readUnit digits = .ok (low, rest) ∧
          (CodePoint.ofNat high).isHighSurrogate = true ∧
          (CodePoint.ofNat low).isLowSurrogate = true ∧ joinPair high low = c) := by
  obtain ⟨⟨high, left⟩, hhigh, hread⟩ := bind_eq_ok.mp h
  refine ⟨high, left, hhigh, ?_⟩
  dsimp only at hread
  split at hread
  · next hpair =>
    rw [Bool.and_eq_true] at hpair
    split at hread
    · next d e left =>
      split at hread
      · next hbegins =>
        simp only [Bool.and_eq_true, decide_eq_true_eq] at hbegins
        obtain ⟨rfl, rfl⟩ := hbegins
        obtain ⟨⟨low, left'⟩, hlow, hread⟩ := bind_eq_ok.mp hread
        dsimp only at hread
        split at hread
        · next hlowPoint =>
          obtain ⟨rfl, rfl⟩ := Prod.mk.inj (Except.ok.inj hread)
          exact .inr ⟨low, left, rfl, hlow, hpair.1, hlowPoint, rfl⟩
        · next hlowPoint =>
          cases hread
          refine .inl ⟨rfl, rfl, fun _ digits m more heq hunit => ?_⟩
          obtain rfl := (List.cons.inj (List.cons.inj heq).2).2
          cases hlow.symm.trans hunit
          exact hlowPoint
      · next hbegins =>
        cases hread
        refine .inl ⟨rfl, rfl, fun _ digits m more heq _ => absurd ?_ hbegins⟩
        cases heq
        rfl
    · next hshort =>
      cases hread
      exact .inl ⟨rfl, rfl, fun _ digits m more heq _ => absurd heq (hshort _ _ _)⟩
  · next hpair =>
    obtain ⟨rfl, rfl⟩ := Prod.mk.inj (Except.ok.inj hread)
    refine .inl ⟨rfl, rfl, fun hhalf digits m more heq hunit => absurd ?_ hpair⟩
    obtain ⟨four, rfl, hlength, -, hmore⟩ := readUnit_eq_ok.mp hunit
    have hdrop : left.drop 6 = more := by
      rw [heq, List.drop_succ_cons, List.drop_succ_cons, List.drop_left' hlength]
    rw [hhalf, hdrop]
    simpa using hmore

/-- What is read as an escape is one, whatever part of what follows is inside the quotes. -/
theorem exists_isEscape_of_read (h : readUnicodeEscape t = .ok (c, rest)) :
    ∃ escape, CodePoint.ofChar '\\' :: CodePoint.ofChar 'u' :: t = escape ++ rest ∧
      ∀ src after, after ≠ [] → rest = src ++ after → IsEscape src escape c := by
  obtain ⟨high, left, hhigh, hcases⟩ := readUnicodeEscape_cases h
  obtain ⟨digits, rfl, hlength, hnumber, -⟩ := readUnit_eq_ok.mp hhigh
  have hescape : IsUnitEscape (CodePoint.ofChar '\\' :: CodePoint.ofChar 'u' :: digits) high :=
    ⟨digits, rfl, hlength, hnumber⟩
  rcases hcases with ⟨rfl, rfl, alone⟩ | ⟨low, digits', rfl, hlow, highPoint, lowPoint, rfl⟩
  · refine ⟨_, rfl, fun src after hafter heq => .unit hescape
      fun highPoint next m more hnext hm hsrc => ?_⟩
    have hnil : more ++ after ≠ [] := List.append_ne_nil_of_right_ne_nil _ hafter
    obtain ⟨digits, hbegins, hunit⟩ := hnext.readUnit hnil
    rw [hsrc, List.append_assoc, hbegins] at heq
    exact alone highPoint _ m _ heq hunit hm
  · obtain ⟨digits', rfl, hlength', hnumber', -⟩ := readUnit_eq_ok.mp hlow
    exact ⟨_, by simp, fun _ _ _ _ => .pair hescape ⟨digits', rfl, hlength', hnumber'⟩ highPoint lowPoint⟩

/-- What is read up to a quote stands for the text that is read. -/
theorem quotes_of_readString (h : readString fuel opened t = .ok (tail, rest)) :
    ∃ src, t = src ++ CodePoint.ofChar '"' :: rest ∧ Quotes src tail := by
  induction fuel generalizing t tail with
  | zero => cases h
  | succ fuel ih =>
    unfold readString at h
    split at h
    · cases h
    · next c left =>
      split_ifs at h with hquote hslash hcontrol
      · cases h
        exact ⟨[], by rw [hquote]; rfl, .nil⟩
      · obtain rfl := hslash
        split at h
        · cases h
        · next d left' =>
          split_ifs at h with hu
          · obtain rfl := hu
            obtain ⟨⟨e, left''⟩, hescape, h⟩ := bind_eq_ok.mp h
            obtain ⟨⟨s, left⟩, hread, h⟩ := bind_eq_ok.mp h
            cases h
            obtain ⟨src, rfl, hsrc⟩ := ih hread
            obtain ⟨escape, heq, hnumber⟩ := exists_isEscape_of_read hescape
            exact ⟨escape ++ src, by rw [heq, List.append_assoc],
              .number (hnumber src _ (List.cons_ne_nil _ _) rfl) hsrc⟩
          · split at h
            · cases h
            · next e hshort =>
              obtain ⟨⟨s, left⟩, hread, h⟩ := bind_eq_ok.mp h
              cases h
              obtain ⟨src, rfl, hsrc⟩ := ih hread
              exact ⟨_, rfl, .short hshort hsrc⟩
      · cases h
      · obtain ⟨⟨s, left⟩, hread, h⟩ := bind_eq_ok.mp h
        cases h
        obtain ⟨src, rfl, hsrc⟩ := ih hread
        exact ⟨_, rfl, .plain hquote hslash (Nat.le_of_not_lt hcontrol) hsrc⟩

/-! ## Numbers -/

/-- A fraction and its digits, both of which may be missing. -/
inductive IsFraction : Text → Text → Prop
  | none : IsFraction [] []
  | digits {ds : Text} :
      ds ≠ [] → (∀ d ∈ ds, d.isDigit = true) → IsFraction (CodePoint.ofChar '.' :: ds) ds

def exponentSigns : List (Text × Bool) := [([], false), ("+", false), ("-", true)]

/-- An exponent, which may be missing. -/
inductive IsExponent : Text → Int → Prop
  | none : IsExponent [] 0
  | digits {letter : CodePoint} {sign ds : Text} {negative : Bool} {n : Nat} :
      letter = 'e' ∨ letter = 'E' →
      (sign, negative) ∈ exponentSigns → Text.toNat? ds = some n →
      IsExponent (letter :: (sign ++ ds)) (if negative then -(n : Int) else n)

/-- A number: an integer, or one that has a fraction or an exponent. -/
inductive IsNumber : Text → Json → Prop
  | int (negative : Bool) (n : Nat) :
      IsNumber (sign negative ++ Text.ofNat n) (.int (if negative then -(n : Int) else n))
  | float (negative : Bool) (n : Nat) {fraction digits exponent : Text} {e : Int} :
      IsFraction fraction digits → IsExponent exponent e → fraction ++ exponent ≠ [] →
      IsNumber (sign negative ++ (Text.ofNat n ++ (fraction ++ exponent)))
        (.float (.ofScientific negative ((Text.toNat? (Text.ofNat n ++ digits)).getD 0)
          (e - digits.length)))

def Continues (rest : Text) : Prop :=
  ∃ fraction digits exponent e more, IsFraction fraction digits ∧ IsExponent exponent e ∧
    fraction ++ exponent ≠ [] ∧
    rest = fraction ++ (exponent ++ more)

/-! ### What is written -/

theorem endsDigits_cons (h : c.isDigit = false) : EndsDigits (c :: rest) := by
  rintro d ⟨⟩
  exact h

theorem exists_toNat?_iff {ds : Text} : (∃ n, Text.toNat? ds = some n) ↔
    ds ≠ [] ∧ ∀ d ∈ ds, d.isDigit = true := by
  unfold Text.toNat?
  split
  · next h =>
    simpa using h
  · next h =>
    simpa using h

theorem letter_cases {letter : CodePoint} (h : letter = 'e' ∨ letter = 'E') :
    letter.isDigit = false ∧ letter ≠ '.' ∧ (letter = 'e' || letter = 'E') = true := by
  rcases h with rfl | rfl <;> decide

theorem readFraction_digits {ds : Text} (hne : ds ≠ []) (hdigits : ∀ d ∈ ds, d.isDigit = true)
    (hrest : EndsDigits rest) :
    readFraction (CodePoint.ofChar '.' :: (ds ++ rest)) = some (ds, rest) := by
  have hempty : ds.isEmpty = false := by simpa using hne
  rw [readFraction, if_pos rfl, spanDigits_append hdigits hrest]
  simp only [hempty, Bool.false_eq_true, if_false]

/-- A fraction is read as far as it goes. -/
theorem IsFraction.read {fraction digits : Text} (h : IsFraction fraction digits)
    (hrest : EndsDigits rest) (hpoint : ∀ c ∈ rest.head?, c ≠ '.') :
    (readFraction (fraction ++ rest)).getD ([], fraction ++ rest) = (digits, rest) := by
  cases h with
  | none =>
    cases rest with
    | nil => rfl
    | cons c rest =>
      rw [List.nil_append, readFraction, if_neg (hpoint c rfl)]
      rfl
  | digits hne hdigits =>
    rw [List.cons_append, readFraction_digits hne hdigits hrest, Option.getD_some]

/-- An exponent is read as far as it goes. -/
theorem IsExponent.read {exponent : Text} {e : Int} (h : IsExponent exponent e)
    (hne : exponent ≠ []) (hrest : EndsDigits rest) :
    readExponent (exponent ++ rest) = some (e, rest) := by
  cases h with
  | none => exact absurd rfl hne
  | @digits letter sign ds negative n hletter hsign hnumber =>
    obtain ⟨hds, hdigits⟩ := exists_toNat?_iff.mp ⟨n, hnumber⟩
    obtain ⟨d, more, rfl⟩ := List.exists_cons_of_ne_nil hds
    have hd := hdigits d List.mem_cons_self
    have hspan := spanDigits_append hdigits hrest
    rw [List.cons_append] at hspan
    rw [List.cons_append, List.append_assoc, List.cons_append]
    simp only [exponentSigns, List.mem_cons, List.not_mem_nil, or_false, Prod.mk.injEq] at hsign
    rcases hsign with ⟨rfl, rfl⟩ | ⟨rfl, rfl⟩ | ⟨rfl, rfl⟩
    · have hminus : d ≠ '-' := ne_of_isDigit hd (by decide)
      have hplus : d ≠ '+' := ne_of_isDigit hd (by decide)
      rw [List.nil_append, readExponent, if_pos (letter_cases hletter).2.2]
      simp only [if_neg hminus, if_neg hplus, hspan, hnumber]
    · have hminus : ¬ CodePoint.ofChar '+' = CodePoint.ofChar '-' := by decide
      show readExponent (letter :: CodePoint.ofChar '+' :: (d :: (more ++ rest))) = _
      rw [readExponent, if_pos (letter_cases hletter).2.2]
      simp only [if_neg hminus, if_true, hspan, hnumber]
    · show readExponent (letter :: CodePoint.ofChar '-' :: (d :: (more ++ rest))) = _
      rw [readExponent, if_pos (letter_cases hletter).2.2]
      simp only [if_true, hspan, hnumber]

/-- What starts an exponent goes on neither with the digits nor with the fraction in front of it. -/
theorem IsExponent.head {exponent : Text} {e : Int} (h : IsExponent exponent e)
    (hrest : EndsNumber rest) :
    EndsDigits (exponent ++ rest) ∧ ∀ c ∈ (exponent ++ rest).head?, c ≠ '.' := by
  cases h with
  | none => exact ⟨hrest.endsDigits, fun c hc => (hrest c hc).2.1⟩
  | digits hletter =>
    obtain ⟨hdigit, hpoint, -⟩ := letter_cases hletter
    refine ⟨endsDigits_cons hdigit, ?_⟩
    rintro c ⟨⟩
    exact hpoint

theorem IsFraction.endsDigits {fraction digits : Text} (h : IsFraction fraction digits)
    (hrest : EndsDigits rest) : EndsDigits (fraction ++ rest) := by
  cases h with
  | none => exact hrest
  | digits => exact endsDigits_cons (by decide)

theorem readMagnitude_float (negative : Bool) (n : Nat) (start : Text)
    {fraction digits exponent : Text} {e : Int} (hfraction : IsFraction fraction digits)
    (hexponent : IsExponent exponent e) (hne : fraction ++ exponent ≠ [])
    (hrest : EndsNumber rest) :
    readMagnitude negative start (Text.ofNat n ++ (fraction ++ (exponent ++ rest))) =
      .ok (.float (.ofScientific negative ((Text.toNat? (Text.ofNat n ++ digits)).getD 0)
        (e - digits.length)), rest) := by
  obtain ⟨hends, hpoint⟩ := hexponent.head hrest
  unfold readMagnitude
  simp only [readWhole_ofNat n (hfraction.endsDigits hends), hfraction.read hends hpoint]
  by_cases hnone : exponent = []
  · subst hnone
    cases hexponent
    cases hfraction with
    | none => exact absurd rfl hne
    | digits hds =>
      have hempty : digits.isEmpty = false := by simpa using hds
      simp [readExponent_of_endsNumber hrest, hempty]
  · simp [hexponent.read hnone hrest.endsDigits]

/-- A number is read, unless it is an integer with too many digits, or something goes on with it. -/
theorem readScalar_of_isNumber {v : Json} (h : IsNumber src v)
    (hlimit : ∀ i, v = .int i → (Text.ofNat i.natAbs).length ≤ digitLimit)
    (hrest : EndsNumber rest) : readScalar fuel (src ++ rest) = .ok (v, rest) := by
  cases h with
  | int negative n =>
    have hdigits := hlimit _ rfl
    have habs : (if negative then -(n : Int) else n).natAbs = n := by cases negative <;> simp
    rw [habs] at hdigits
    rw [List.append_assoc, readScalar_number, readMagnitude_ofNat negative _ hdigits hrest]
  | float negative n hfraction hexponent hne =>
    rw [List.append_assoc, List.append_assoc, List.append_assoc, readScalar_number,
      readMagnitude_float negative n _ hfraction hexponent hne hrest]

/-! ### What is read -/

theorem spanDigits_eq {ds : Text} (h : spanDigits t = (ds, rest)) :
    t = ds ++ rest ∧ (∀ d ∈ ds, d.isDigit = true) ∧ EndsDigits rest := by
  rw [spanDigits, List.span_eq_takeWhile_dropWhile] at h
  obtain ⟨rfl, rfl⟩ := Prod.mk.inj h
  refine ⟨List.takeWhile_append_dropWhile.symm, fun d hd => List.mem_takeWhile_imp hd,
    fun c hc => ?_⟩
  have hnot := List.head?_dropWhile_not CodePoint.isDigit t
  rw [hc] at hnot
  exact Bool.eq_false_of_not_eq_true (by simpa using hnot)

/-- Digits that do not start with a zero are the numeral of a number. -/
theorem exists_ofNat_of_digits {ds : Text} (hne : ds ≠ []) (hdigits : ∀ d ∈ ds, d.isDigit = true)
    (hzero : ∀ c ∈ ds.head?, c ≠ '0') : ∃ n, n ≠ 0 ∧ ds = Text.ofNat n := by
  induction ds using List.reverseRecOn with
  | nil => exact absurd rfl hne
  | append_singleton ds c ih =>
    obtain ⟨hds, hc⟩ := List.forall_mem_append.mp hdigits
    obtain ⟨d, hd, rfl⟩ : ∃ d, d < 10 ∧ c = Text.digit d := by
      have hdigit := hc c (List.mem_singleton_self c)
      simp only [CodePoint.isDigit, Bool.and_eq_true, decide_eq_true_eq] at hdigit
      refine ⟨c.val - 0x30, by omega, CodePoint.eq_iff_val.mpr ?_⟩
      rw [Text.digit_val (by omega), if_pos (by omega)]
      omega
    by_cases hnil : ds = []
    · subst hnil
      have hd0 : d ≠ 0 := by
        rintro rfl
        exact hzero _ rfl rfl
      refine ⟨d, hd0, ?_⟩
      rw [Text.ofNat, Text.digits, dif_neg (by omega)]
      rfl
    · obtain ⟨n, hn, rfl⟩ :=
        ih hnil hds fun c hc => hzero c (by rw [List.head?_append_of_ne_nil _ hnil]; exact hc)
      refine ⟨n * 10 + d, by omega, ?_⟩
      have hdiv : (n * 10 + d) / 10 = n := by omega
      have hmod : (n * 10 + d) % 10 = d := by omega
      have hstep : Text.digits 10 (n * 10 + d) = Text.digits 10 n ++ [d] := by
        rw [Text.digits, dif_pos (by omega), hdiv, hmod]
      rw [Text.ofNat, Text.ofNat, hstep, List.map_append]
      rfl

theorem readWhole_eq_some {whole : Text} (h : readWhole t = some (whole, rest)) :
    ∃ n, whole = Text.ofNat n ∧ t = Text.ofNat n ++ rest ∧ (n ≠ 0 → EndsDigits rest) := by
  unfold readWhole at h
  split at h
  · next c left =>
    split_ifs at h with hzero hdigit
    · obtain ⟨rfl, rfl⟩ := Prod.mk.inj (Option.some.inj h)
      have hnumeral : Text.ofNat 0 = [CodePoint.ofChar '0'] := by
        rw [Text.ofNat, Text.digits]
        rfl
      exact ⟨0, by rw [hnumeral, hzero], by rw [hnumeral, hzero]; rfl, fun h => absurd rfl h⟩
    · obtain ⟨happend, hdigits, hends⟩ := spanDigits_eq (Option.some.inj h)
      obtain ⟨d, more, rfl⟩ : ∃ d more, whole = d :: more := by
        refine List.exists_cons_of_ne_nil ?_
        rintro rfl
        rw [List.nil_append] at happend
        subst happend
        exact absurd (hends c rfl) (by simp [hdigit])
      obtain rfl : c = d := (List.cons.inj happend).1
      obtain ⟨n, -, hn⟩ :=
        exists_ofNat_of_digits (List.cons_ne_nil _ _) hdigits (by rintro e ⟨⟩; exact hzero)
      exact ⟨n, hn, hn ▸ happend, fun _ => hends⟩
  · cases h

theorem readFraction_eq_some {ds : Text} (h : readFraction t = some (ds, rest)) :
    t = CodePoint.ofChar '.' :: (ds ++ rest) ∧ ds ≠ [] ∧ ∀ d ∈ ds, d.isDigit = true := by
  unfold readFraction at h
  split at h
  · next c left =>
    split at h
    · next hpoint =>
      dsimp only at h
      split at h
      · cases h
      · next hempty =>
        obtain ⟨rfl, rfl⟩ := Prod.mk.inj (Option.some.inj h)
        obtain ⟨happend, hdigits, -⟩ :=
          spanDigits_eq (Prod.mk.eta : ((spanDigits left).1, (spanDigits left).2) = _).symm
        exact ⟨by rw [hpoint, ← happend], by simpa using hempty, hdigits⟩
    · cases h
  · cases h

/-- Behind its letter an exponent is a sign, which may be missing, and the digits that follow. -/
theorem readExponent_letter {letter : CodePoint} (hletter : (letter = 'e' || letter = 'E') = true)
    (left : Text) :
    ∃ sign negative body, left = sign ++ body ∧ (sign, negative) ∈ exponentSigns ∧
      readExponent (letter :: left) = (Text.toNat? (spanDigits body).1).map fun (n : Nat) =>
        (if negative then -(n : Int) else n, (spanDigits body).2) := by
  cases left with
  | nil => exact ⟨[], false, [], rfl, by decide, by rw [readExponent, if_pos hletter]; rfl⟩
  | cons s left =>
    by_cases hminus : s = '-'
    · subst hminus
      refine ⟨"-", true, left, rfl, by decide, ?_⟩
      rw [readExponent, if_pos hletter]
      cases hnumber : Text.toNat? (spanDigits left).1 <;> simp [hnumber]
    · by_cases hplus : s = '+'
      · subst hplus
        refine ⟨"+", false, left, rfl, by decide, ?_⟩
        rw [readExponent, if_pos hletter]
        cases hnumber : Text.toNat? (spanDigits left).1 <;> simp [hnumber, hminus]
      · refine ⟨[], false, s :: left, rfl, by decide, ?_⟩
        rw [readExponent, if_pos hletter]
        cases hnumber : Text.toNat? (spanDigits (s :: left)).1 <;> simp [hnumber, hminus, hplus]

theorem readExponent_eq_some {e : Int} (h : readExponent t = some (e, rest)) :
    ∃ exponent, t = exponent ++ rest ∧ exponent ≠ [] ∧ IsExponent exponent e := by
  cases t with
  | nil => cases h
  | cons letter left =>
    by_cases hletter : (letter = 'e' || letter = 'E') = true
    · obtain ⟨sign, negative, body, rfl, hsign, hread⟩ := readExponent_letter hletter left
      rw [hread] at h
      obtain ⟨n, hnumber, hfound⟩ := Option.map_eq_some_iff.mp h
      obtain ⟨rfl, rfl⟩ := Prod.mk.inj hfound
      obtain ⟨happend, -⟩ :=
        spanDigits_eq (Prod.mk.eta : ((spanDigits body).1, (spanDigits body).2) = _).symm
      have hcases : letter = 'e' ∨ letter = 'E' := by simpa using hletter
      exact ⟨_, by rw [List.cons_append, List.append_assoc, ← happend], List.cons_ne_nil _ _,
        .digits hcases hsign hnumber⟩
    · simp only [readExponent, if_neg hletter] at h
      cases h

/-- Digits go on up to something that does not go on with them. -/
theorem exists_longest_digits {ds : Text} (hne : ds ≠ []) (hdigits : ∀ d ∈ ds, d.isDigit = true)
    (more : Text) :
    ∃ longest left, ds ++ more = longest ++ left ∧
    (longest ≠ [] ∧ ∀ d ∈ longest, d.isDigit = true) ∧ EndsDigits left := by
  obtain ⟨happend, hlongest, hleft⟩ :=
    spanDigits_eq (Prod.mk.eta : ((spanDigits (ds ++ more)).1, (spanDigits (ds ++ more)).2) = _).symm
  refine ⟨_, _, happend, ⟨fun hnil => ?_, hlongest⟩, hleft⟩
  obtain ⟨d, ds, rfl⟩ := List.exists_cons_of_ne_nil hne
  rw [hnil, List.nil_append] at happend
  have hnot := hleft d (by rw [← happend]; rfl)
  rw [hdigits d List.mem_cons_self] at hnot
  cases hnot

/-- A number is at its end where neither a fraction nor an exponent is read. -/
theorem not_continues (hfraction : readFraction rest = none)
    (hexponent : readExponent rest = none) : ¬ Continues rest := by
  rintro ⟨fraction, digits, exponent, e, more, hf, he, hne, rfl⟩
  cases hf with
  | digits hds hdigits =>
    obtain ⟨longest, left, happend, ⟨hlongest, hall⟩, hleft⟩ :=
      exists_longest_digits hds hdigits (exponent ++ more)
    rw [List.cons_append, happend, readFraction_digits hlongest hall hleft] at hfraction
    cases hfraction
  | none =>
    cases he with
    | none => exact hne rfl
    | @digits letter sign ds negative n hletter hsign hnumber =>
      obtain ⟨hds, hdigits⟩ := exists_toNat?_iff.mp ⟨n, hnumber⟩
      obtain ⟨longest, left, happend, hlongest, hleft⟩ := exists_longest_digits hds hdigits more
      obtain ⟨m, hm⟩ := exists_toNat?_iff.mpr hlongest
      have hread := (IsExponent.digits hletter hsign hm).read (List.cons_ne_nil _ _) hleft
      rw [List.cons_append, List.append_assoc, ← happend, ← List.append_assoc,
        ← List.cons_append] at hread
      rw [List.nil_append, hread] at hexponent
      cases hexponent

/-- What stands behind a sign is no number at all, an integer, which may have too many digits, or a
number with a fraction or an exponent. -/
theorem readMagnitude_cases (negative : Bool) (start t : Text) :
    (∃ problem left, readMagnitude negative start t = .error (.malformed problem left)) ∨
    (∃ n rest, t = Text.ofNat n ++ rest ∧ (n ≠ 0 → EndsDigits rest) ∧ ¬ Continues rest ∧
      readMagnitude negative start t =
        if digitLimit < (Text.ofNat n).length then .error (.tooManyDigits (Text.ofNat n).length)
        else .ok (.int (if negative then -(n : Int) else n), rest)) ∨
    ∃ digits v rest, t = digits ++ rest ∧ IsNumber (sign negative ++ digits) v ∧ (∀ i, v ≠ .int i) ∧
      readMagnitude negative start t = .ok (v, rest) := by
  cases hwhole : readWhole t with
  | none => exact .inl ⟨.expectingValue, start.length, by rw [readMagnitude, hwhole]; rfl⟩
  | some found =>
    obtain ⟨whole, left⟩ := found
    obtain ⟨n, rfl, rfl, hends⟩ := readWhole_eq_some hwhole
    cases hfraction : readFraction left with
    | none =>
      cases hexponent : readExponent left with
      | none =>
        refine .inr (.inl ⟨n, left, rfl, hends, not_continues hfraction hexponent, ?_⟩)
        simp [readMagnitude, hwhole, hfraction, hexponent, Text.toNat?_ofNat]
      | some found =>
        obtain ⟨e, left'⟩ := found
        obtain ⟨exponent, rfl, hne, he⟩ := readExponent_eq_some hexponent
        refine .inr (.inr ⟨_, _, left', (List.append_assoc _ _ _).symm,
          .float negative n .none he hne, fun i => nofun, ?_⟩)
        simp [readMagnitude, hwhole, hfraction, hexponent]
    | some found =>
      obtain ⟨ds, left'⟩ := found
      obtain ⟨rfl, hne, hdigits⟩ := readFraction_eq_some hfraction
      have hempty : ds.isEmpty = false := by simpa using hne
      have fraction := IsFraction.digits hne hdigits
      cases hexponent : readExponent left' with
      | none =>
        refine .inr (.inr ⟨_, _, left', ?_, .float negative n fraction .none (by simp),
          fun i => nofun, ?_⟩)
        · simp
        · simp [readMagnitude, hwhole, hfraction, hexponent, hempty]
      | some found =>
        obtain ⟨e, left''⟩ := found
        obtain ⟨exponent, rfl, -, he⟩ := readExponent_eq_some hexponent
        refine .inr (.inr ⟨_, _, left'', ?_, .float negative n fraction he (by simp), fun i => nofun, ?_⟩)
        · simp
        · simp [readMagnitude, hwhole, hfraction, hexponent, hempty]

/-- What is read behind a sign is a number together with it. -/
theorem isNumber_of_readMagnitude {negative : Bool} {start : Text} {v : Json}
    (h : readMagnitude negative start t = .ok (v, rest)) :
    ∃ digits, t = digits ++ rest ∧ IsNumber (sign negative ++ digits) v ∧
      ∀ i, v = .int i → (Text.ofNat i.natAbs).length ≤ digitLimit := by
  rcases readMagnitude_cases negative start t with
    ⟨_, _, hread⟩ | ⟨n, left, happend, -, -, hread⟩ | ⟨digits, w, left, happend, hnumber,
      hfloat, hread⟩
  · cases hread.symm.trans h
  · rw [hread] at h
    split at h
    · cases h
    · next hlimit =>
      obtain ⟨rfl, rfl⟩ := Prod.mk.inj (Except.ok.inj h)
      refine ⟨_, happend, .int negative n, fun i hi => ?_⟩
      have habs : i.natAbs = n := by
        rw [← Json.int.inj hi]
        cases negative <;> simp
      rw [habs]
      exact Nat.le_of_not_lt hlimit
  · obtain ⟨rfl, rfl⟩ := Prod.mk.inj (Except.ok.inj (hread.symm.trans h))
    exact ⟨digits, happend, hnumber, fun i hi => absurd hi (hfloat i)⟩

/-- The digits of an integer are too many, where it is refused for something else than its form. -/
theorem tooManyDigits_of_readMagnitude {negative : Bool} {start : Text} {e : Stop}
    (h : readMagnitude negative start t = .error e)
    (hform : ∀ problem left, e ≠ .malformed problem left) :
    ∃ n rest, t = Text.ofNat n ++ rest ∧ digitLimit < (Text.ofNat n).length ∧ EndsDigits rest ∧
    ¬ Continues rest := by
  rcases readMagnitude_cases negative start t with
    ⟨_, _, hread⟩ | ⟨n, left, happend, hends, hnot, hread⟩ | ⟨_, _, _, -, -, -, hread⟩
  · exact absurd (Except.error.inj (h.symm.trans hread)) (hform _ _)
  · rw [hread] at h
    split at h
    · next hlimit =>
      have hn : n ≠ 0 := by
        rintro rfl
        exact absurd hlimit (by rw [Text.ofNat, Text.digits]; decide)
      exact ⟨n, left, happend, hlimit, hends hn, hnot⟩
    · cases h
  · cases hread.symm.trans h

/-! ## Values -/

def Blank (t : Text) : Prop := ∀ c ∈ t, isSpace c = true

/-- A part of a JSON text: a value, a value with white space around it, or what stands between
brackets or between braces. -/
inductive Part where
  | value (v : Json)
  | element (v : Json)
  | items (vs : List Json)
  | members (ms : List (Text × Json))

theorem Part.element_ne_value (v w : Json) : Part.element v ≠ .value w := nofun

theorem Part.items_ne_value (vs : List Json) (w : Json) : Part.items vs ≠ .value w := nofun

theorem Part.members_ne_value (ms : List (Text × Json)) (w : Json) :
    Part.members ms ≠ .value w := nofun

/-- A name in quotes and the colon behind it, with white space around the quotes. -/
def IsName (src name : Text) : Prop :=
  ∃ before quoted after, src = before ++ "\"" ++ quoted ++ "\"" ++ after ++ ":" ∧ Blank before ∧
    Quotes quoted name ∧ Blank after

/-- What part of a JSON text a text is. -/
inductive Spells : Text → Part → Prop
  | word {src : Text} {v : Json} : (src, v) ∈ constants → Spells src (.value v)
  | number {src : Text} {v : Json} : IsNumber src v → Spells src (.value v)
  | text {src t : Text} : Quotes src t → Spells ("\"" ++ src ++ "\"") (.value (.text t))
  | emptyList {src : Text} : Blank src → Spells ("[" ++ src ++ "]") (.value (.list []))
  | list {src : Text} {vs : List Json} :
      Spells src (.items vs) → Spells ("[" ++ src ++ "]") (.value (.list vs))
  | emptyObject {src : Text} : Blank src → Spells (r"{" ++ src ++ r"}") (.value (.object []))
  | object {src : Text} {ms : List (Text × Json)} : Spells src (.members ms) →
      Spells (r"{" ++ src ++ r"}") (.value (.object ms))
  | element {before src after : Text} {v : Json} :
      Blank before → Spells src (.value v) → Blank after →
      Spells (before ++ src ++ after) (.element v)
  | lastItem {src : Text} {v : Json} : Spells src (.element v) → Spells src (.items [v])
  | moreItems {src more : Text} {v : Json} {vs : List Json} :
      Spells src (.element v) → Spells more (.items vs) →
      Spells (src ++ "," ++ more) (.items (v :: vs))
  | lastMember {start src name : Text} {v : Json} : IsName start name → Spells src (.element v) →
      Spells (start ++ src) (.members [(name, v)])
  | moreMembers {start src more name : Text} {v : Json} {ms : List (Text × Json)} :
      IsName start name →
      Spells src (.element v) → Spells more (.members ms) →
        Spells (start ++ src ++ "," ++ more) (.members ((name, v) :: ms))

variable {v : Json} {part : Part}

theorem exists_number_cons (negative : Bool) (n : Nat) (rest : Text) :
    ∃ c more, sign negative ++ (Text.ofNat n ++ rest) = c :: more ∧
    (c = '-' ∨ c.isDigit = true) := by
  obtain ⟨c, more, hcons, hdigit⟩ := exists_ofNat_eq_cons n
  cases negative with
  | true => exact ⟨_, _, rfl, .inl rfl⟩
  | false => exact ⟨c, more ++ rest, by rw [hcons]; rfl, .inr hdigit⟩

theorem IsNumber.exists_cons (h : IsNumber src v) :
    ∃ c more, src = c :: more ∧ (c = '-' ∨ c.isDigit = true) := by
  cases h with
  | int negative n =>
    rw [← List.append_nil (Text.ofNat n)]
    exact exists_number_cons negative n []
  | float negative n => exact exists_number_cons negative n _

theorem Spells.startsValue (h : Spells src (.value v)) : StartsValue src := by
  cases h with
  | word h =>
    simp only [constants, List.mem_cons, List.not_mem_nil, or_false, Prod.mk.injEq] at h
    rcases h with ⟨rfl, -⟩ | ⟨rfl, -⟩ | ⟨rfl, -⟩ | ⟨rfl, -⟩ | ⟨rfl, -⟩ | ⟨rfl, -⟩ <;>
      exact ⟨_, _, rfl, by decide⟩
  | number h =>
    obtain ⟨c, more, rfl, hc⟩ := h.exists_cons
    rcases hc with rfl | hdigit
    · exact ⟨_, _, rfl, by decide⟩
    · exact startsValue_digit hdigit more
  | text | emptyList | list | emptyObject | object => exact ⟨_, _, rfl, by decide⟩

theorem IsName.blank_append {before name : Text} (hbefore : Blank before) (h : IsName src name) :
    IsName (before ++ src) name := by
  obtain ⟨before', quoted, after, rfl, hblank, hquoted, hafter⟩ := h
  exact ⟨before ++ before', quoted, after, by simp only [List.append_assoc],
    List.forall_mem_append.mpr ⟨hbefore, hblank⟩, hquoted, hafter⟩

/-- White space in front of what stands between brackets or braces changes nothing. -/
theorem Spells.blank_append {before : Text} (hbefore : Blank before) (h : Spells src part)
    (hpart : ∀ v, part ≠ .value v) : Spells (before ++ src) part := by
  induction h with
  | word | number | text | emptyList | list | emptyObject | object => exact absurd rfl (hpart _)
  | element hblank h hafter =>
    rw [List.append_assoc, ← List.append_assoc, ← List.append_assoc]
    exact .element (List.forall_mem_append.mpr ⟨hbefore, hblank⟩) h hafter
  | lastItem h ih => exact .lastItem (ih (Part.element_ne_value _))
  | moreItems h hmore ih =>
    rw [← List.append_assoc, ← List.append_assoc]
    exact .moreItems (ih (Part.element_ne_value _)) hmore
  | lastMember hname h =>
    rw [← List.append_assoc]
    exact .lastMember (hname.blank_append hbefore) h
  | moreMembers hname h hmore =>
    rw [← List.append_assoc, ← List.append_assoc, ← List.append_assoc]
    exact .moreMembers (hname.blank_append hbefore) h hmore

end Json

/-! ## What is written -/

def Text.IsUnpaired (t : Text) : Prop := t.IsChain fun c d => c.isHighSurrogate = true →
    d.isLowSurrogate = false

instance (t : Text) : Decidable t.IsUnpaired := inferInstanceAs (Decidable (t.IsChain _))

namespace Json

/-- Nothing but white space stands after commas and colons. -/
structure Style.IsBlank (s : Style) : Prop where
  afterComma : ∀ c ∈ s.afterComma, isSpace c = true
  afterColon : ∀ c ∈ s.afterColon, isSpace c = true

/-- Values without fractions, whose integers have no more digits than are read. -/
inductive IsData : Json → Prop
  | null : IsData .null
  | bool (b : Bool) : IsData (.bool b)
  | int {i : Int} : (Text.ofNat i.natAbs).length ≤ digitLimit → IsData (.int i)
  | text {t : Text} : t.IsUnpaired → IsData (.text t)
  | list {items : List Json} : (∀ v ∈ items, IsData v) → IsData (.list items)
  | object {members : List (Text × Json)} :
      (members.map Prod.fst).Nodup → (∀ m ∈ members, m.1.IsUnpaired) →
      (∀ m ∈ members, IsData m.2) → IsData (.object members)

variable {ascii : Bool} {s : Style}

/-! ### Texts -/

theorem isUnitEscape_unitEscape {n : Nat} (hn : n < 0x10000) : IsUnitEscape (unitEscape n) n :=
  ⟨_, rfl, Text.length_hex (by decide) hn, Text.hexNat?_hex (by decide) hn⟩

theorem IsUnitEscape.eq {first next more : Text} {n m : Nat} (h : IsUnitEscape first n)
    (h' : IsUnitEscape next m) (heq : first ++ rest = next ++ more) : n = m := by
  obtain ⟨rfl, -⟩ := List.append_inj heq (h.length.trans h'.length.symm)
  obtain ⟨digits, rfl, -, hn⟩ := h
  obtain ⟨digits', hdigits, -, hm⟩ := h'
  cases hdigits
  exact Option.some.inj (hn.symm.trans hm)

/-- A character beyond the first plane is a pair of units. -/
theorem exists_pair (hlarge : 0x10000 ≤ c.val) :
    ∃ high low, numberEscape c = unitEscape high ++ unitEscape low ∧ joinPair high low = c ∧
      (0xD800 ≤ high ∧ high < 0xDC00) ∧ (0xDC00 ≤ low ∧ low < 0xE000) := by
  have hlt := c.isLt
  refine ⟨_, _, by rw [numberEscape, if_neg (by omega)], ?_, by omega, by omega⟩
  rw [joinPair, CodePoint.ofNat, dif_pos (by omega), CodePoint.eq_iff_val]
  simp only
  omega

/-- What stands for a character in quotes: itself, a short escape or its number. -/
theorem writeChar_cases (ascii : Bool) (c : CodePoint) :
    (writeChar ascii c = [c] ∧ c ≠ '"' ∧ c ≠ '\\' ∧ 0x20 ≤ c.val) ∨
    (∃ d : CodePoint, writeChar ascii c = [CodePoint.ofChar '\\', d] ∧ shortEscape? d = some c) ∨
    writeChar ascii c = numberEscape c := by
  unfold writeChar
  split_ifs with hquote hfeed hreturn htab hback hform hnumber
  · refine .inr (.inl ⟨c, rfl, ?_⟩)
    rcases (Bool.or_eq_true _ _).mp hquote with h | h <;> rw [of_decide_eq_true h] <;> decide
  · exact .inr (.inl ⟨CodePoint.ofChar 'n', rfl, by rw [hfeed]; rfl⟩)
  · exact .inr (.inl ⟨CodePoint.ofChar 'r', rfl, by rw [hreturn]; rfl⟩)
  · exact .inr (.inl ⟨CodePoint.ofChar 't', rfl, by rw [htab]; rfl⟩)
  · exact .inr (.inl ⟨CodePoint.ofChar 'b', rfl, by rw [hback]; rfl⟩)
  · exact .inr (.inl ⟨CodePoint.ofChar 'f', rfl, by rw [hform]; rfl⟩)
  · exact .inr (.inr rfl)
  · simp only [Bool.or_eq_true, decide_eq_true_eq, not_or] at hquote hnumber
    exact .inl ⟨rfl, hquote.1, hquote.2, by omega⟩

/-- A character is written by its number, unless it would form a pair with what follows. -/
theorem isEscape_numberEscape (halone : c.isHighSurrogate = true →
    ∀ next m more, IsUnitEscape next m →
    (CodePoint.ofNat m).isLowSurrogate = true →
    src ≠ next ++ more) : IsEscape src (numberEscape c) c := by
  by_cases hsmall : c.val < 0x10000
  · have hpoint : CodePoint.ofNat c.val = c := CodePoint.ofNat_val c
    have hunit : IsEscape src (unitEscape c.val) (.ofNat c.val) :=
      .unit (isUnitEscape_unitEscape hsmall) (by rwa [hpoint])
    rw [numberEscape, if_pos hsmall]
    rwa [hpoint] at hunit
  · obtain ⟨high, low, hnumber, rfl, hhigh, hlow⟩ := exists_pair (Nat.le_of_not_lt hsmall)
    rw [hnumber]
    refine .pair (isUnitEscape_unitEscape (by omega)) (isUnitEscape_unitEscape (by omega)) ?_ ?_
    · have hval : (CodePoint.ofNat high).val = high := CodePoint.val_ofNat (by omega)
      simp [CodePoint.isHighSurrogate, hval]
      omega
    · have hval : (CodePoint.ofNat low).val = low := CodePoint.val_ofNat (by omega)
      simp [CodePoint.isLowSurrogate, hval]
      omega

/-- Where the escape of a low surrogate starts, a low surrogate has been written. -/
theorem isLowSurrogate_of_writeChar {next more : Text} {m : Nat} (hnext : IsUnitEscape next m)
    (hm : (CodePoint.ofNat m).isLowSurrogate = true)
    (h : writeChar ascii c ++ rest = next ++ more) : c.isLowSurrogate = true := by
  rcases writeChar_cases ascii c with ⟨hwrite, -, hslash, -⟩ | ⟨d, hwrite, hshort⟩ | hwrite
  · obtain ⟨digits, rfl, -⟩ := hnext
    rw [hwrite] at h
    exact absurd (List.cons.inj h).1 hslash
  · obtain ⟨digits, rfl, -⟩ := hnext
    rw [hwrite] at h
    exact absurd (List.cons.inj (List.cons.inj h).2).1 (ne_of_shortEscape? hshort)
  · by_cases hsmall : c.val < 0x10000
    · rw [hwrite, numberEscape, if_pos hsmall] at h
      obtain rfl := (isUnitEscape_unitEscape hsmall).eq hnext h
      rwa [CodePoint.ofNat_val] at hm
    · -- The first of two units is a high surrogate.
      obtain ⟨high, low, hnumber, -, hhigh, -⟩ := exists_pair (Nat.le_of_not_lt hsmall)
      rw [hwrite, hnumber, List.append_assoc] at h
      obtain rfl := (isUnitEscape_unitEscape (by omega)).eq hnext h
      have hval : (CodePoint.ofNat high).val = high := CodePoint.val_ofNat (by omega)
      simp [CodePoint.isLowSurrogate, hval] at hm
      omega

/-- A text without pairs of surrogates is what is written for it between quotes. -/
theorem quotes_write (h : t.IsUnpaired) : Quotes (t.flatMap (writeChar ascii)) t := by
  induction t with
  | nil => exact .nil
  | cons c t ih =>
    have hrest := ih h.tail
    rw [List.flatMap_cons]
    rcases writeChar_cases ascii c with
      ⟨hwrite, hquote, hslash, hcontrol⟩ | ⟨d, hwrite, hshort⟩ | hwrite
    · rw [hwrite]
      exact .plain hquote hslash hcontrol hrest
    · rw [hwrite]
      exact .short hshort hrest
    · rw [hwrite]
      refine .number (isEscape_numberEscape fun high next m more hnext hm heq => ?_) hrest
      cases t with
      | nil =>
        have hlength := congrArg List.length heq
        rw [List.length_append, hnext.length, List.flatMap_nil, List.length_nil] at hlength
        omega
      | cons d t =>
        have hlow := isLowSurrogate_of_writeChar hnext hm heq
        rw [(List.isChain_cons_cons.mp h).1 high] at hlow
        cases hlow

/-! ### Values -/

theorem Spells.blank_element {before : Text} (hbefore : Blank before) (h : Spells src (.value v)) :
    Spells (before ++ src) (.element v) := by
  have helement := Spells.element hbefore h (List.forall_mem_nil _)
  rwa [List.append_nil] at helement

theorem isName_write {name : Text} (h : name.IsUnpaired) :
    IsName (writeText ascii name ++ ":") name :=
  ⟨[], name.flatMap (writeChar ascii), [], by simp [writeText], List.forall_mem_nil _,
    quotes_write h, List.forall_mem_nil _⟩

theorem isNumber_ofInt (i : Int) : IsNumber (Text.ofInt i) (.int i) := by
  cases i with
  | ofNat n => exact .int false n
  | negSucc n => exact .int true (n + 1)

theorem spells_writeItems (hs : s.IsBlank) {items : List Json} (hne : items ≠ [])
    (h : ∀ v ∈ items, Spells (v.write s) (.value v)) :
    Spells (writeItems s items) (.items items) := by
  induction items with
  | nil => exact absurd rfl hne
  | cons v items ih =>
    obtain ⟨hv, hitems⟩ := List.forall_mem_cons.mp h
    have hfirst : Spells (v.write s) (.element v) := hv.blank_element (List.forall_mem_nil _)
    cases items with
    | nil => exact .lastItem hfirst
    | cons w items =>
      have hrest :=
        (ih (List.cons_ne_nil _ _) hitems).blank_append hs.afterComma (Part.items_ne_value _)
      rw [writeItems, List.append_assoc]
      exact .moreItems hfirst hrest

theorem spells_writeMembers (hs : s.IsBlank) {members : List (Text × Json)} (hne : members ≠ [])
    (hnames : ∀ m ∈ members, m.1.IsUnpaired)
    (h : ∀ m ∈ members, Spells (m.2.write s) (.value m.2)) :
    Spells (writeMembers s members) (.members members) := by
  induction members with
  | nil => exact absurd rfl hne
  | cons m members ih =>
    obtain ⟨name, v⟩ := m
    obtain ⟨hname, hnames⟩ := List.forall_mem_cons.mp hnames
    obtain ⟨hv, hmembers⟩ := List.forall_mem_cons.mp h
    have hstart : IsName (writeText s.asciiOnly name ++ ":") name := isName_write hname
    have hfirst : Spells (s.afterColon ++ v.write s) (.element v) := hv.blank_element hs.afterColon
    cases members with
    | nil =>
      rw [writeMembers, List.append_assoc]
      exact .lastMember hstart hfirst
    | cons m members =>
      have hrest :=
        (ih (List.cons_ne_nil _ _) hnames hmembers).blank_append hs.afterComma
          (Part.members_ne_value _)
      rw [writeMembers]
      have hmore := Spells.moreMembers hstart hfirst hrest
      simpa only [List.append_assoc] using hmore

theorem spells_write (hs : s.IsBlank) (hv : v.IsData) : Spells (v.write s) (.value v) := by
  induction hv with
  | null =>
    rw [write]
    exact .word List.mem_cons_self
  | bool b =>
    rw [write]
    cases b with
    | true => exact .word (.tail _ (.head _))
    | false => exact .word (.tail _ (.tail _ (.head _)))
  | int =>
    rw [write]
    exact .number (isNumber_ofInt _)
  | text ht =>
    rw [write]
    exact .text (quotes_write ht)
  | @list items hitems ih =>
    rw [write]
    cases items with
    | nil => exact .emptyList (List.forall_mem_nil _)
    | cons v items => exact .list (spells_writeItems hs (List.cons_ne_nil _ _) ih)
  | @object members hnodup hnames hmembers ih =>
    rw [write]
    cases members with
    | nil => exact .emptyObject (List.forall_mem_nil _)
    | cons m members => exact .object (spells_writeMembers hs (List.cons_ne_nil _ _) hnames ih)

end Json

end LocaleGen
