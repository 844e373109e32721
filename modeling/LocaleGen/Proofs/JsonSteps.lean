import LocaleGen.Json.Printer
import LocaleGen.Json.Reader
import LocaleGen.Proofs.Numeral
import LocaleGen.Proofs.Result
import Mathlib

/-!
# Steps of the JSON reader

One equation for each step that the reader makes where it goes on: for a character between quotes, a
word, the digits of a number, and for what stands between brackets or braces. Each is about a text
in front of which the reader stands, with whatever may follow behind it.

What is read up to a place depends on what stands there. An escape of a high surrogate may go on
with one of a low surrogate (`Json.IsNoLowHalf`), and a number with digits, a fraction or an
exponent (`Json.EndsNumber`).
-/

namespace LocaleGen

namespace Json

variable {c : CodePoint} {t opened tail rest : Text} {fuel : Nat}

/-! ## Characters -/

/-- A unit is written by four digits, and something follows them. -/
theorem readUnit_eq_ok {n : Nat} : readUnit t = .ok (n, rest) ↔
    ∃ digits, t = digits ++ rest ∧ digits.length = 4 ∧ Text.hexNat? digits = some n ∧
    rest ≠ [] := by
  constructor
  · intro h
    unfold readUnit at h
    split at h
    · next a b c d left =>
      split at h
      · next n first more hnumber =>
        cases h
        exact ⟨[a, b, c, d], rfl, rfl, hnumber, List.cons_ne_nil _ _⟩
      · cases h
    · cases h
  · rintro ⟨digits, rfl, hlength, hnumber, hrest⟩
    obtain ⟨first, more, rfl⟩ := List.exists_cons_of_ne_nil hrest
    obtain ⟨a, b, c, d, rfl⟩ := List.length_eq_four.mp hlength
    simp only [List.cons_append, List.nil_append, readUnit, hnumber]

def IsNoLowHalf (tail : Text) : Prop :=
  ∀ rest, tail = CodePoint.ofChar '\\' :: CodePoint.ofChar 'u' :: rest →
    ∃ n left, readUnit rest = .ok (n, left) ∧ (CodePoint.ofNat n).isLowSurrogate = false

/-- A unit that does not form a pair with the next one stands for itself. -/
theorem readUnicodeEscape_of_unit {n : Nat} (hunit : readUnit t = .ok (n, tail))
    (hhalf : (CodePoint.ofNat n).isHighSurrogate = true → IsNoLowHalf tail) :
    readUnicodeEscape t = .ok (.ofNat n, tail) := by
  unfold readUnicodeEscape
  rw [hunit]
  simp only [bind, Except.bind]
  split
  · next high =>
    rw [Bool.and_eq_true] at high
    split
    · split
      · next hescape =>
        simp only [Bool.and_eq_true, decide_eq_true_eq] at hescape
        obtain ⟨rfl, rfl⟩ := hescape
        obtain ⟨n, left, hunit, hlow⟩ := hhalf high.1 _ rfl
        simp only [hunit, hlow, Bool.false_eq_true, if_false]
      · rfl
    · rfl
  · rfl

/-- Two units that form a pair stand for one character. -/
theorem readUnicodeEscape_of_units {high low : Nat}
    (hhigh : readUnit t = .ok (high, CodePoint.ofChar '\\' :: CodePoint.ofChar 'u' :: rest))
    (hlow : readUnit rest = .ok (low, tail))
    (highPoint : (CodePoint.ofNat high).isHighSurrogate = true)
    (lowPoint : (CodePoint.ofNat low).isLowSurrogate = true) :
    readUnicodeEscape t = .ok (joinPair high low, tail) := by
  have hmore : (List.drop 6 (CodePoint.ofChar '\\' :: CodePoint.ofChar 'u' :: rest)).isEmpty =
      false := by
    obtain ⟨digits, rfl, hlength, -, htail⟩ := readUnit_eq_ok.mp hlow
    rw [List.drop_succ_cons, List.drop_succ_cons, List.drop_left' hlength]
    simpa using htail
  unfold readUnicodeEscape
  rw [hhigh]
  simp only [bind, Except.bind, highPoint, hmore, Bool.not_false, Bool.and_self, if_true,
    decide_true]
  rw [hlow]
  simp only [lowPoint, if_true]

theorem readString_quote :
    readString (fuel + 1) opened (CodePoint.ofChar '"' :: rest) = .ok ([], rest) := by
  simp only [readString, if_true]

theorem readString_plain (hquote : c ≠ '"') (hslash : c ≠ '\\') (hcontrol : 0x20 ≤ c.val) :
    readString (fuel + 1) opened (c :: tail) = (readString fuel opened tail).map fun found =>
      (c :: found.1, found.2) := by
  rw [readString.eq_def]
  simp only [if_neg hquote, if_neg hslash, if_neg (Nat.not_lt.mpr hcontrol)]
  cases readString fuel opened tail <;> rfl

theorem readString_short {d : CodePoint} (hu : d ≠ 'u') (hshort : shortEscape? d = some c) :
    readString (fuel + 1) opened (CodePoint.ofChar '\\' :: d :: tail) =
      (readString fuel opened tail).map fun found => (c :: found.1, found.2) := by
  have hquote : ¬ CodePoint.ofChar '\\' = CodePoint.ofChar '"' := by decide
  rw [readString.eq_def]
  simp only [if_neg hquote, if_true, if_neg hu, hshort]
  cases readString fuel opened tail <;> rfl

theorem readString_unicode (h : readUnicodeEscape rest = .ok (c, tail)) :
    readString (fuel + 1) opened (CodePoint.ofChar '\\' :: CodePoint.ofChar 'u' :: rest) =
      (readString fuel opened tail).map fun found => (c :: found.1, found.2) := by
  have hquote : ¬ CodePoint.ofChar '\\' = CodePoint.ofChar '"' := by decide
  rw [readString.eq_def]
  simp only [if_neg hquote, if_true, h, bind, Except.bind]
  cases readString fuel opened tail <;> rfl

/-! ## Words -/

theorem readConstant_append {words : List (Text × Json)} {word : Text} {v : Json}
    (hheads : words.Pairwise fun w w' => w.1.head? ≠ w'.1.head?) (hne : ∀ w ∈ words, w.1 ≠ [])
    (h : (word, v) ∈ words) : readConstant (word ++ rest) words = some (v, rest) := by
  induction words with
  | nil => cases h
  | cons w words ih =>
    obtain ⟨hw, hwords⟩ := List.pairwise_cons.mp hheads
    rcases List.mem_cons.mp h with rfl | hmem
    · rw [readConstant, Text.dropStart?_append]
    · have hother : Text.dropStart? (word ++ rest) w.1 = none := by
        obtain ⟨d, more, hd⟩ := List.exists_cons_of_ne_nil (hne w List.mem_cons_self)
        obtain ⟨c, more', rfl⟩ := List.exists_cons_of_ne_nil (hne _ h)
        have hhead := hw _ hmem
        rw [hd] at hhead ⊢
        exact if_neg fun heq => hhead (congrArg some heq)
      rw [readConstant, hother]
      exact ih hwords (fun w hw => hne w (List.mem_cons_of_mem _ hw)) hmem

theorem readConstant_word {word : Text} {v : Json} (h : (word, v) ∈ constants) :
    readConstant (word ++ rest) constants = some (v, rest) :=
  readConstant_append (by decide) (by decide) h

theorem readConstant_eq_none {words : List (Text × Json)}
    (h : ∀ w ∈ words, t.dropStart? w.1 = none) : readConstant t words = none := by
  induction words with
  | nil => rfl
  | cons w words ih =>
    obtain ⟨hw, hwords⟩ := List.forall_mem_cons.mp h
    rw [readConstant, hw]
    exact ih hwords

theorem ne_of_isDigit {c d : CodePoint} (hc : c.isDigit = true)
    (hd : d.isDigit = false) : c ≠ d := by
  rintro rfl
  rw [hc] at hd
  cases hd

/-- No word for a value starts with a digit, nor with a minus and a digit. -/
theorem readConstant_digit {d : CodePoint} (hdigit : d.isDigit = true) :
    readConstant (d :: t) constants = none ∧
    readConstant (CodePoint.ofChar '-' :: d :: t) constants = none := by
  have start {c : CodePoint} {word rest : Text} (hc : c.isDigit = false) :
      Text.dropStart? (d :: rest) (c :: word) = none :=
    if_neg (ne_of_isDigit hdigit hc).symm
  constructor <;> refine readConstant_eq_none fun w hw => ?_ <;>
    simp only [constants, List.mem_cons, List.not_mem_nil, or_false] at hw <;>
    rcases hw with rfl | rfl | rfl | rfl | rfl | rfl
  · exact start (by decide)
  · exact start (by decide)
  · exact start (by decide)
  · exact start (by decide)
  · exact start (by decide)
  · exact start (by decide)
  · rfl
  · rfl
  · rfl
  · rfl
  · rfl
  · exact (if_pos rfl).trans (start (by decide))

/-! ## Integers -/

def EndsNumber (rest : Text) : Prop :=
  ∀ c ∈ rest.head?, c.isDigit = false ∧ c ≠ '.' ∧ c ≠ 'e' ∧ c ≠ 'E'

theorem readFraction_of_endsNumber (h : EndsNumber rest) : readFraction rest = none := by
  cases rest with
  | nil => rfl
  | cons c rest =>
    obtain ⟨-, hpoint, -⟩ := h c rfl
    rw [readFraction, if_neg hpoint]

theorem readExponent_of_endsNumber (h : EndsNumber rest) : readExponent rest = none := by
  cases rest with
  | nil => rfl
  | cons c rest =>
    obtain ⟨-, -, hsmall, hcapital⟩ := h c rfl
    simp [readExponent, hsmall, hcapital]

def EndsDigits (rest : Text) : Prop := ∀ c ∈ rest.head?, c.isDigit = false

theorem EndsNumber.endsDigits (h : EndsNumber rest) : EndsDigits rest := fun c hc => (h c hc).1

theorem spanDigits_append (hdigits : ∀ c ∈ t, c.isDigit = true) (h : EndsDigits rest) :
    spanDigits (t ++ rest) = (t, rest) := by
  have hrest : rest.takeWhile CodePoint.isDigit = [] ∧ rest.dropWhile CodePoint.isDigit = rest := by
    cases rest with
    | nil => exact ⟨rfl, rfl⟩
    | cons c rest => simp [h c rfl]
  rw [spanDigits, List.span_eq_takeWhile_dropWhile, List.takeWhile_append_of_pos hdigits,
    List.dropWhile_append_of_pos hdigits,
    hrest.1, hrest.2, List.append_nil]

/-- No digits but those of zero start with a zero. -/
theorem head_digits_ne_zero (base : Nat) {n : Nat} (hn : n ≠ 0) :
    ∀ d ∈ (Text.digits base n).head?, d ≠ 0 := by
  induction n using Nat.strongRecOn with
  | ind n ih =>
    rw [Text.digits]
    split
    · next h =>
      have hdiv : n / base ≠ 0 := by
        have := Nat.div_pos h.2 (by omega)
        omega
      obtain ⟨first, more, hdigits⟩ :=
        List.exists_cons_of_ne_nil (Text.digits_ne_nil base (n / base))
      have hfirst := ih (n / base) (Nat.div_lt_self (by omega) h.1) hdiv
      rw [hdigits] at hfirst ⊢
      exact hfirst
    · simpa using hn

theorem exists_ofNat_eq_cons (n : Nat) : ∃ c more, Text.ofNat n = c :: more ∧ c.isDigit = true := by
  obtain ⟨c, more, hcons⟩ := List.exists_cons_of_ne_nil (Text.ofNat_ne_nil n)
  exact ⟨c, more, hcons, Text.ofNat_isDigit n c (by rw [hcons]; exact List.mem_cons_self)⟩

theorem readWhole_ofNat (n : Nat) (h : EndsDigits rest) :
    readWhole (Text.ofNat n ++ rest) = some (Text.ofNat n, rest) := by
  obtain ⟨c, more, hcons, hdigit⟩ := exists_ofNat_eq_cons n
  have hspan := spanDigits_append (Text.ofNat_isDigit n) h
  by_cases hn : n = 0
  · subst hn
    have hzero : Text.ofNat 0 = [CodePoint.ofChar '0'] := by
      rw [Text.ofNat, Text.digits]
      rfl
    rw [hzero, List.singleton_append, readWhole, if_pos rfl]
  · have hzero : c ≠ '0' := by
      obtain ⟨d, ds, hdigits⟩ := List.exists_cons_of_ne_nil (Text.digits_ne_nil 10 n)
      have hd : d ≠ 0 := head_digits_ne_zero 10 hn d (by rw [hdigits]; rfl)
      have hlt : d < 10 :=
        Text.digits_lt (by decide) n d (by rw [hdigits]; exact List.mem_cons_self)
      rw [Text.ofNat, hdigits, List.map_cons] at hcons
      rw [← (List.cons.inj hcons).1, Ne, CodePoint.eq_iff_val,
        Text.digit_val (by omega), if_pos hlt]
      show ¬ 0x30 + d = 0x30
      omega
    rw [hcons, List.cons_append] at hspan ⊢
    rw [readWhole, if_neg hzero, if_pos hdigit, hspan]

theorem readMagnitude_ofNat (negative : Bool) (start : Text) {n : Nat}
    (hlimit : (Text.ofNat n).length ≤ digitLimit) (h : EndsNumber rest) :
    readMagnitude negative start (Text.ofNat n ++ rest) =
      .ok (.int (if negative then -(n : Int) else n), rest) := by
  unfold readMagnitude
  simp only [readWhole_ofNat n h.endsDigits, readFraction_of_endsNumber h, Option.getD_none,
    readExponent_of_endsNumber h,
    List.isEmpty_nil, Bool.not_false, Bool.and_self, if_true, if_neg (Nat.not_lt.mpr hlimit),
      Text.toNat?_ofNat,
    Option.getD_some]

def sign (negative : Bool) : Text := if negative then "-" else ""

/-- A number starts with its sign and a digit, and nothing else does. -/
theorem readScalar_number (negative : Bool) (n : Nat) (tail : Text) :
    readScalar fuel (sign negative ++ (Text.ofNat n ++ tail)) =
      readMagnitude negative (sign negative ++ (Text.ofNat n ++ tail)) (Text.ofNat n ++ tail) := by
  obtain ⟨c, more, hcons, hdigit⟩ := exists_ofNat_eq_cons n
  rw [hcons, List.cons_append]
  cases negative with
  | false =>
    have hquote : c ≠ '"' := ne_of_isDigit hdigit (by decide)
    have hminus : c ≠ '-' := ne_of_isDigit hdigit (by decide)
    show readScalar fuel (c :: (more ++ tail)) = readMagnitude false (c :: (more ++ tail)) _
    rw [readScalar, if_neg hquote, (readConstant_digit hdigit).1]
    simp only [if_neg hminus]
  | true =>
    have hquote : ¬ CodePoint.ofChar '-' = CodePoint.ofChar '"' := by decide
    show readScalar fuel (CodePoint.ofChar '-' :: c :: (more ++ tail)) =
      readMagnitude true (CodePoint.ofChar '-' :: c :: (more ++ tail)) _
    rw [readScalar, if_neg hquote, (readConstant_digit hdigit).2]
    simp only [if_true]

/-! ## Values -/

def StartsValue (t : Text) : Prop :=
  ∃ c rest, t = c :: rest ∧ isSpace c = false ∧ c ≠ ']' ∧ c ≠ '}' ∧ c ≠ '\uFEFF'

theorem startsValue_digit (h : c.isDigit = true) (rest : Text) : StartsValue (c :: rest) := by
  have hne {d : CodePoint} (hd : d.isDigit = false) : c ≠ d := ne_of_isDigit h hd
  refine ⟨c, rest, rfl, ?_, hne (by decide), hne (by decide), hne (by decide)⟩
  simp only [isSpace, Bool.or_eq_false_iff, decide_eq_false_iff_not]
  exact ⟨⟨⟨hne (by decide), hne (by decide)⟩, hne (by decide)⟩, hne (by decide)⟩

theorem StartsValue.append (h : StartsValue t) (rest : Text) : StartsValue (t ++ rest) := by
  obtain ⟨c, more, rfl, hc⟩ := h
  exact ⟨c, more ++ rest, rfl, hc⟩

theorem skipSpace_append (h : ∀ c ∈ t, isSpace c = true) (rest : Text) :
    skipSpace (t ++ rest) = skipSpace rest :=
  List.dropWhile_append_of_pos h

theorem StartsValue.skipSpace (h : StartsValue t) : skipSpace t = t := by
  obtain ⟨c, rest, rfl, hspace, -⟩ := h
  rw [Json.skipSpace, List.dropWhile_cons, hspace]
  rfl

theorem endsNumber_cons {c : CodePoint} (h : c.isDigit = false ∧ c ≠ '.' ∧ c ≠ 'e' ∧ c ≠ 'E') :
    EndsNumber (c :: rest) := by
  intro d hd
  cases hd
  exact h

theorem StartsValue.head?_ne (h : StartsValue t) : t.head? ≠ some (CodePoint.ofChar '\uFEFF') := by
  obtain ⟨c, rest, rfl, -, -, -, hmark⟩ := h
  exact fun h => hmark (Option.some.inj h)

/-! ### Lists, objects and their parts -/

variable {depth : Nat} {v : Json} {name left : Text}

theorem readValue_scalar {c : CodePoint} (hlist : c ≠ '[') (hobject : c ≠ '{') :
    readValue (fuel + 1) depth (c :: rest) = readScalar fuel (c :: rest) := by
  rw [readValue.eq_def]
  simp only [if_neg hlist, if_neg hobject]

theorem readValue_list (hskip : skipSpace rest = t) (h : StartsValue t) :
    readValue (fuel + 1) (depth + 1) (CodePoint.ofChar '[' :: rest) =
      (readItems fuel depth t).map fun found => (.list found.1, found.2) := by
  obtain ⟨c, more, rfl, -, hclose, -⟩ := h
  rw [readValue, if_pos rfl]
  simp only [hskip, if_neg hclose]
  cases readItems fuel depth (c :: more) <;> rfl

theorem readValue_emptyList (hskip : skipSpace left = CodePoint.ofChar ']' :: rest) :
    readValue (fuel + 1) (depth + 1) (CodePoint.ofChar '[' :: left) = .ok (.list [], rest) := by
  rw [readValue, if_pos rfl]
  simp only [hskip, if_true]

theorem readValue_object (hskip : skipSpace rest = t) (h : StartsValue t) :
    readValue (fuel + 1) (depth + 1) (CodePoint.ofChar '{' :: rest) =
      (readMembers fuel depth t).map fun found =>
        (.object (Dict.ofList found.1).entries, found.2) := by
  obtain ⟨c, more, rfl, -, -, hclose, -⟩ := h
  have hlist : ¬ CodePoint.ofChar '{' = CodePoint.ofChar '[' := by decide
  rw [readValue, if_neg hlist, if_pos rfl]
  simp only [hskip, if_neg hclose]
  cases readMembers fuel depth (c :: more) <;> rfl

theorem readValue_emptyObject (hskip : skipSpace left = CodePoint.ofChar '}' :: rest) :
    readValue (fuel + 1) (depth + 1) (CodePoint.ofChar '{' :: left) = .ok (.object [], rest) := by
  have hlist : ¬ CodePoint.ofChar '{' = CodePoint.ofChar '[' := by decide
  rw [readValue, if_neg hlist, if_pos rfl]
  simp only [hskip, if_true]

theorem readItems_last (h : readValue fuel depth t = .ok (v, left))
    (hleft : skipSpace left = CodePoint.ofChar ']' :: rest) :
    readItems (fuel + 1) depth t = .ok ([v], rest) := by
  rw [readItems, h]
  simp only [ok_bind, hleft]
  rfl

theorem readItems_more (h : readValue fuel depth t = .ok (v, left))
    (hleft : skipSpace left = CodePoint.ofChar ',' :: rest) :
    readItems (fuel + 1) depth t = (readItems fuel depth (skipSpace rest)).map fun found =>
      (v :: found.1, found.2) := by
  rw [readItems, h]
  simp only [ok_bind, hleft]
  show (readItems fuel depth (skipSpace rest) >>= _) = _
  cases readItems fuel depth (skipSpace rest) <;> rfl

/-- Behind an item the list ends or goes on, or the text is refused for its form. -/
theorem readItems_cases (h : readValue fuel depth t = .ok (v, left)) :
    (∃ rest, skipSpace left = CodePoint.ofChar ']' :: rest ∧
      readItems (fuel + 1) depth t = .ok ([v], rest)) ∨
    (∃ rest, skipSpace left = CodePoint.ofChar ',' :: rest ∧
      readItems (fuel + 1) depth t = (readItems fuel depth (skipSpace rest)).map fun found =>
        (v :: found.1, found.2)) ∨
    ∃ problem left, readItems (fuel + 1) depth t = .error (.malformed problem left) := by
  cases hskip : skipSpace left with
  | nil =>
    refine .inr (.inr ⟨.expectingComma, 0, ?_⟩)
    rw [readItems, h]
    simp only [ok_bind, hskip]
    rfl
  | cons d rest =>
    by_cases hclose : d = ']'
    · subst hclose
      exact .inl ⟨rest, rfl, readItems_last h hskip⟩
    · by_cases hcomma : d = ','
      · subst hcomma
        exact .inr (.inl ⟨rest, rfl, readItems_more h hskip⟩)
      · refine .inr (.inr ⟨.expectingComma, (d :: rest).length, ?_⟩)
        rw [readItems, h]
        simp only [ok_bind, hskip, if_neg hclose, if_neg hcomma]
        rfl

theorem readMembers_last {left' : Text} (hname : readName fuel t = .ok (name, left))
    (h : readValue fuel depth left = .ok (v, left'))
    (hleft : skipSpace left' = CodePoint.ofChar '}' :: rest) :
    readMembers (fuel + 1) depth t = .ok ([(name, v)], rest) := by
  rw [readMembers, hname]
  show (readValue fuel depth left >>= _) = _
  rw [h]
  simp only [ok_bind, hleft]
  rfl

theorem readMembers_more {left' : Text} (hname : readName fuel t = .ok (name, left))
    (h : readValue fuel depth left = .ok (v, left'))
    (hleft : skipSpace left' = CodePoint.ofChar ',' :: rest) :
    readMembers (fuel + 1) depth t =
      (readMembers fuel depth (skipSpace rest)).map fun found =>
        ((name, v) :: found.1, found.2) := by
  rw [readMembers, hname]
  show (readValue fuel depth left >>= _) = _
  rw [h]
  simp only [ok_bind, hleft]
  show (readMembers fuel depth (skipSpace rest) >>= _) = _
  cases readMembers fuel depth (skipSpace rest) <;> rfl

/-- Behind a member the object ends or goes on, or the text is refused for its form. -/
theorem readMembers_cases {left' : Text} (hname : readName fuel t = .ok (name, left))
    (h : readValue fuel depth left = .ok (v, left')) :
    (∃ rest, skipSpace left' = CodePoint.ofChar '}' :: rest ∧
      readMembers (fuel + 1) depth t = .ok ([(name, v)], rest)) ∨
    (∃ rest, skipSpace left' = CodePoint.ofChar ',' :: rest ∧ readMembers (fuel + 1) depth t =
      (readMembers fuel depth (skipSpace rest)).map fun found => ((name, v) :: found.1, found.2)) ∨
    ∃ problem left, readMembers (fuel + 1) depth t = .error (.malformed problem left) := by
  cases hskip : skipSpace left' with
  | nil =>
    refine .inr (.inr ⟨.expectingComma, 0, ?_⟩)
    rw [readMembers, hname]
    simp only [ok_bind, h, hskip]
    rfl
  | cons d rest =>
    by_cases hclose : d = '}'
    · subst hclose
      exact .inl ⟨rest, rfl, readMembers_last hname h hskip⟩
    · by_cases hcomma : d = ','
      · subst hcomma
        exact .inr (.inl ⟨rest, rfl, readMembers_more hname h hskip⟩)
      · refine .inr (.inr ⟨.expectingComma, (d :: rest).length, ?_⟩)
        rw [readMembers, hname]
        simp only [ok_bind, h, hskip, if_neg hclose, if_neg hcomma]
        rfl

end Json

end LocaleGen
