import LocaleGen.Artifact.Reader
import LocaleGen.Proofs.Bundle
import LocaleGen.Proofs.PythonRaw
import LocaleGen.Proofs.Template
import Mathlib

/-!
# What the targets write into gaps

Names, numbers, truth values and literals of a target are plain source text and are read as what
they were made from: `spells_name`, `spells_whole`, `spells_flag`, `spells_stringLiteral`,
`spells_payloadLiteral`.
-/

namespace LocaleGen

open Text

/-! ## Plain source text -/

namespace Target

/-- A character that source text holds, and that stays when it is read and when it is written to a
file. -/
def isPlain (target : Target) (c : CodePoint) : Bool :=
  match target with
  | dart => !c.isSurrogate && c ≠ CodePoint.ofChar '\r'
  | python => c.val ≠ 0 && !c.isSurrogate && c ≠ CodePoint.ofChar '\r'

theorem source_of_isPlain {target : Target} {t : Text} (h : t.all target.isPlain = true) :
    target.lexis.source t = some t := by
  cases target with
  | dart => rfl
  | python =>
    have hplain : ∀ c ∈ t, (c.val ≠ 0 ∧ c.isSurrogate = false) ∧ c ≠ CodePoint.ofChar '\r' := by
      simpa [isPlain] using h
    have hsource : Python.isSource t = true := by
      simpa [Python.isSource] using fun c hc => (hplain c hc).1
    show (if Python.isSource t then some t.normalizeNewlines else none) = some t
    rw [if_pos hsource, normalizeNewlines_of_notMem fun hm => (hplain _ hm).2 rfl]

theorem isSurrogate_of_isPlain {target : Target} {c : CodePoint} (h : target.isPlain c = true) :
    c.isSurrogate = false := by
  cases target <;> simp only [isPlain, Bool.and_eq_true, Bool.not_eq_true'] at h
  · exact h.1
  · exact h.1.2

theorem ne_return_of_isPlain {target : Target} {c : CodePoint} (h : target.isPlain c = true) :
    c ≠ CodePoint.ofChar '\r' := by
  cases target <;> simp only [isPlain, Bool.and_eq_true, decide_eq_true_eq] at h <;> exact h.2

end Target

/-! ## Numbers -/

theorem readNat_ofNat {n : Nat} {c : CodePoint} {left : Text} (hc : c.isDigit = false) :
    readNat (Text.ofNat n ++ c :: left) = some (n, c :: left) := by
  have htake : (Text.ofNat n ++ c :: left).takeWhile CodePoint.isDigit = Text.ofNat n := by
    rw [List.takeWhile_append_of_pos (ofNat_isDigit n), List.takeWhile_cons_of_neg (by simp [hc]),
      List.append_nil]
  have hdrop : (Text.ofNat n ++ c :: left).dropWhile CodePoint.isDigit = c :: left := by
    rw [List.dropWhile_append_of_pos (ofNat_isDigit n), List.dropWhile_cons_of_neg (by simp [hc])]
  rw [readNat, htake, hdrop, toNat?_ofNat]
  rfl

theorem readInt_ofInt {i : Int} {c : CodePoint} {left : Text} (hc : c.isDigit = false) :
    readInt (Text.ofInt i ++ c :: left) = some (i, c :: left) := by
  cases i with
  | ofNat n =>
    have hsign : dropStart? (Text.ofNat n ++ c :: left) "-" = none := by
      rw [dropStart?_eq_none]
      rintro ⟨rest, hrest⟩
      cases hn : Text.ofNat n with
      | nil => exact ofNat_ne_nil n hn
      | cons d ds =>
        rw [hn] at hrest
        have hd := ofNat_isDigit n d (by simp [hn])
        obtain rfl : CodePoint.ofChar '-' = d := (List.cons.inj hrest).1
        cases hd
    rw [Text.ofInt, readInt, hsign]
    simp only [readNat_ofNat hc]
    rfl
  | negSucc n =>
    have hsign : dropStart? (Text.ofInt (.negSucc n) ++ c :: left) "-" =
        some (Text.ofNat (n + 1) ++ c :: left) :=
      dropStart?_append "-" _
    rw [readInt, hsign]
    simp only [readNat_ofNat hc]
    rfl

theorem isPlain_of_isDigit (target : Target) {c : CodePoint} (h : c.isDigit = true) :
    target.isPlain c = true := by
  simp [CodePoint.isDigit] at h
  cases target <;> simp [Target.isPlain, CodePoint.isSurrogate, CodePoint.eq_iff_val] <;> omega

theorem spells_whole (target : Target) (i : Int) :
    Spells target.lexis target.isPlain .whole (Target.intLiteral i) (.whole i) where
  plain := by
    have hnat : ∀ n, (Text.ofNat n).all target.isPlain = true := fun n =>
      List.all_eq_true.mpr fun c hc => isPlain_of_isDigit target (ofNat_isDigit n c hc)
    cases i with
    | ofNat n => exact hnat n
    | negSucc n =>
      have hsign : target.isPlain '-' = true := by cases target <;> decide
      rw [Target.intLiteral, Text.ofInt, List.all_cons, hsign, hnat]
      rfl
  read c left hc := by
    have hdigit : c.isDigit = false := by simpa [Lexis.ends] using hc
    rw [Lexis.readField, Target.intLiteral, readInt_ofInt hdigit]
    rfl

theorem spells_flag (target : Target) (b : Bool) :
    Spells target.lexis target.isPlain .flag (target.boolLiteral b) (.flag b) where
  plain := by cases target <;> cases b <;> decide
  read c left _ := by cases target <;> cases b <;> rfl

/-! ## Names -/

theorem Dart.all_of_isIdentifier {name : Text} (h : isIdentifier name = true) :
    name ≠ [] ∧ name.all isIdentifierPart = true := by
  cases name with
  | nil => cases h
  | cons c rest =>
    simp only [isIdentifier, Bool.and_eq_true] at h
    exact ⟨by simp, by rw [List.all_cons, isIdentifierPart, h.1, h.2]; rfl⟩

theorem Dart.isPlain_of_isIdentifierPart {c : CodePoint} (h : isIdentifierPart c = true) :
    Target.dart.isPlain c = true := by
  simp [isIdentifierPart, isIdentifierStart, CodePoint.isLetter, CodePoint.isDigit,
    CodePoint.eq_iff_val] at h
  simp [Target.isPlain, CodePoint.isSurrogate, CodePoint.eq_iff_val]
  omega

theorem Python.all_of_isIdentifier {name : Text} (h : isIdentifier name = true) :
    name ≠ [] ∧ name.all CodePoint.isIdentifierPart = true := by
  simp only [isIdentifier, Bool.and_eq_true] at h
  cases name with
  | nil => cases h.1.1
  | cons c rest =>
    have hname := h.1.1
    simp only [Text.isIdentifier, Bool.and_eq_true] at hname
    exact ⟨by simp, by rw [List.all_cons, CodePoint.isIdentifierPart, hname.1, hname.2]; rfl⟩

theorem Unicode.mem_of_inRanges {ranges : List (Nat × Nat)} {n : Nat}
    (h : inRanges ranges n = true) : ∃ r ∈ ranges, r.1 ≤ n ∧ n ≤ r.2 := by
  induction ranges with
  | nil => cases h
  | cons r rest ih =>
    simp only [inRanges, Bool.and_eq_true, Bool.or_eq_true, decide_eq_true_eq] at h
    rcases h with ⟨hlo, hhi | hrest⟩
    · exact ⟨r, by simp, hlo, hhi⟩
    · obtain ⟨r', hr', hbounds⟩ := ih hrest
      exact ⟨r', by simp [hr'], hbounds⟩

/-- No control character and no surrogate is part of an identifier. -/
theorem isPlain_of_isIdentifierPart {c : CodePoint} (h : c.isIdentifierPart = true) :
    Target.python.isPlain c = true := by
  have htable : ∀ r ∈ Unicode.identifierStart ++ Unicode.identifierInner,
      0x0D < r.1 ∧ (r.2 < 0xD800 ∨ 0xDFFF < r.1) := by decide +kernel
  obtain ⟨r, hr, hlo, hhi⟩ : ∃ r ∈ Unicode.identifierStart ++ Unicode.identifierInner,
      r.1 ≤ c.val ∧ c.val ≤ r.2 := by
    simp only [CodePoint.isIdentifierPart, CodePoint.isIdentifierStart, Bool.or_eq_true] at h
    rcases h with h | h
    · obtain ⟨r, hr, hbounds⟩ := Unicode.mem_of_inRanges h
      exact ⟨r, List.mem_append_left _ hr, hbounds⟩
    · obtain ⟨r, hr, hbounds⟩ := Unicode.mem_of_inRanges h
      exact ⟨r, List.mem_append_right _ hr, hbounds⟩
  have := htable r hr
  simp [Target.isPlain, CodePoint.isSurrogate, CodePoint.eq_iff_val]
  omega

theorem all_of_isIdentifier {target : Target} {name : Text} (h : target.isIdentifier name = true) :
    name ≠ [] ∧ name.all target.lexis.isNamePart = true ∧ name.all target.isPlain = true := by
  cases target with
  | dart =>
    obtain ⟨hne, hall⟩ := Dart.all_of_isIdentifier h
    exact ⟨hne, hall,
      List.all_eq_true.mpr fun c hc => Dart.isPlain_of_isIdentifierPart
        (List.all_eq_true.mp hall c hc)⟩
  | python =>
    obtain ⟨hne, hall⟩ := Python.all_of_isIdentifier h
    exact ⟨hne, hall, List.all_eq_true.mpr
      fun c hc => isPlain_of_isIdentifierPart (List.all_eq_true.mp hall c hc)⟩

theorem readName_append {l : Lexis} {name left : Text} {c : CodePoint} (hne : name ≠ [])
    (hparts : ∀ d ∈ name, l.isNamePart d = true) (hstop : l.isNamePart c = false) :
    l.readName (name ++ c :: left) = some (name, c :: left) := by
  have htake : (name ++ c :: left).takeWhile l.isNamePart = name := by
    rw [List.takeWhile_append_of_pos hparts, List.takeWhile_cons_of_neg (by simp [hstop]),
      List.append_nil]
  have hdrop : (name ++ c :: left).dropWhile l.isNamePart = c :: left := by
    rw [List.dropWhile_append_of_pos hparts, List.dropWhile_cons_of_neg (by simp [hstop])]
  simp only [Lexis.readName, htake, hdrop, if_neg hne]

theorem spells_name {target : Target} {name : Text} (h : target.isIdentifier name = true) :
    Spells target.lexis target.isPlain .name name (.name name) := by
  obtain ⟨hne, hparts, hplain⟩ := all_of_isIdentifier h
  refine ⟨hplain, fun c left hc => ?_⟩
  have hparts : ∀ d ∈ name, target.lexis.isNamePart d = true := List.all_eq_true.mp hparts
  have hstop : target.lexis.isNamePart c = false := by simpa [Lexis.ends] using hc
  rw [Lexis.readField, readName_append hne hparts hstop]
  rfl

theorem isIdentifier_of_isTypeName {target : Target} {name : Text}
    (h : target.isTypeName name = true) : target.isIdentifier name = true := by
  cases target with
  | dart => exact h
  | python => exact (Bool.and_eq_true _ _ ▸ h : Python.isIdentifier name = true ∧ _).1

/-! ## Literals -/

theorem Dart.isPlain_of_notForbidden {c : CodePoint} (h : c.within escapeRules.forbidden = false) :
    Target.dart.isPlain c = true := by
  simp [CodePoint.within, escapeRules, EscapeRules.lineEnds, EscapeRules.surrogates] at h
  simp [Target.isPlain, CodePoint.isSurrogate, CodePoint.eq_iff_val]
  omega

theorem Dart.isPlain_stringLiteral {t literal : Text} (h : stringLiteral t = .ok literal) :
    literal.all Target.dart.isPlain = true := by
  obtain ⟨hscalar, rfl⟩ := stringLiteral_eq_ok.mp h
  have hbody : (escapeRules.escaped t).all Target.dart.isPlain = true :=
    List.all_eq_true.mpr fun _ he => isPlain_of_notForbidden
      (notForbidden_of_mem_escaped hscalar he)
  have hquote : ("\"" : Text).all Target.dart.isPlain = true := by decide
  rw [List.all_append, List.all_append, hquote, hbody]
  rfl

theorem Dart.isPlain_rawLiteral {p : Text} (h : canEmbedRaw p = true) :
    (rawLiteral p).all Target.dart.isPlain = true := by
  simp only [canEmbedRaw, Bool.and_eq_true, Bool.not_eq_true'] at h
  obtain ⟨⟨⟨-, hreturn⟩, -⟩, hsurrogate⟩ := h
  have hreturn : CodePoint.ofChar '\r' ∉ p := notMem_of_contains hreturn
  have hbody : p.all Target.dart.isPlain = true := by
    refine List.all_eq_true.mpr fun c hc => ?_
    have hscalar : c.isSurrogate = false := by simpa using List.any_eq_false.mp hsurrogate c hc
    have hne : c ≠ CodePoint.ofChar '\r' := fun e => hreturn (e ▸ hc)
    simp [Target.isPlain, hscalar, hne]
  have hopening : ("r'''" : Text).all Target.dart.isPlain = true := by decide
  have hclosing : ("'''" : Text).all Target.dart.isPlain = true := by decide
  rw [rawLiteral, List.all_append, List.all_append, hopening, hbody, hclosing]
  rfl

theorem Python.isPlain_literalOf (t : Text) : (literalOf t).all Target.python.isPlain = true := by
  refine List.all_eq_true.mpr fun c hc => ?_
  have := literalOf_notBarred t c hc
  simp only [isBarred, Bool.or_eq_false_iff, decide_eq_false_iff_not] at this
  simp [Target.isPlain, this]

theorem spells_literal {target : Target} {literal t : Text}
    (hplain : literal.all target.isPlain = true)
    (hread : ∀ left : Text, left.head? ≠ some (CodePoint.ofChar '"') →
      target.lexis.readLiteral (literal ++ left) = some (t, left)) :
    Spells target.lexis target.isPlain .literal literal (.literal t) := by
  refine ⟨hplain, fun c left hc => ?_⟩
  have hc : c ≠ CodePoint.ofChar '"' := by simpa [Lexis.ends] using hc
  rw [Lexis.readField, hread (c :: left) (by simpa using hc)]
  rfl

theorem spells_stringLiteral {target : Target} {t literal : Text}
    (h : target.stringLiteral t = .ok literal) :
    Spells target.lexis target.isPlain .literal literal (.literal t) := by
  cases target with
  | dart =>
    exact spells_literal (Dart.isPlain_stringLiteral (mapError_eq_ok.mp h)) fun left hleft =>
      Dart.readLiteral_stringLiteral (mapError_eq_ok.mp h) hleft
  | python =>
    obtain rfl : Python.literalOf t = literal :=
      Except.ok.inj ((Python.stringLiteral_eq t).symm.trans h)
    exact spells_literal (Python.isPlain_literalOf t) fun left hleft =>
      Python.readText_literalOf hleft

theorem Python.isPlain_rawLiteral {p : Text} (h : Embeddable p) :
    (rawLiteral p).all Target.python.isPlain = true := by
  have hsource : isSource (rawLiteral p) = true := (isSource_rawLiteral p).trans h.isSource
  have hreturn : CodePoint.ofChar '\r' ∉ rawLiteral p := by
    have hquote : CodePoint.ofChar '\r' ∉ rawQuote := by decide
    have hletter : CodePoint.ofChar '\r' ≠ CodePoint.ofChar 'r' := by decide
    simp [rawLiteral_eq, hquote, hletter, h.noReturn]
  refine List.all_eq_true.mpr fun c hc => ?_
  have hchar := List.all_eq_true.mp hsource c hc
  have hne : c ≠ CodePoint.ofChar '\r' := fun e => hreturn (e ▸ hc)
  simp only [Bool.and_eq_true] at hchar
  simp only [Target.isPlain, hchar.1, hchar.2, Bool.and_self, Bool.true_and]
  simpa using hne

theorem Python.spells_payload {p literal : Text}
    (h : Target.python.payloadLiteral p = .ok literal) :
    Spells Target.python.lexis Target.python.isPlain .literal literal (.literal p) := by
  rw [payloadLiteral_eq] at h
  cases hraw : canEmbedRaw p with
  | error f =>
    rw [hraw] at h
    cases h
  | ok raw =>
    rw [hraw] at h
    cases raw with
    | false =>
      cases h
      exact spells_stringLiteral (stringLiteral_eq p)
    | true =>
      cases h
      have hembeddable := canEmbedRaw_eq_true.mp hraw
      refine spells_literal (isPlain_rawLiteral hembeddable) fun left _ => ?_
      show readText (rawLiteral p ++ left) = _
      rw [readText, readQuoted_rawLiteral left hembeddable.notClosing hembeddable.noLastBackslash]
      rfl

theorem Dart.isPlain_payloadLiteral {p literal : Text}
    (h : Target.dart.payloadLiteral p = .ok literal) : literal.all Target.dart.isPlain = true := by
  rw [payloadLiteral_eq] at h
  split at h
  · next hraw =>
    cases h
    exact isPlain_rawLiteral hraw
  · exact isPlain_stringLiteral (mapError_eq_ok.mp h)

theorem spells_payloadLiteral {target : Target} {p literal : Text}
    (h : target.payloadLiteral p = .ok literal) :
    Spells target.lexis target.isPlain .literal literal (.literal p) := by
  cases target with
  | dart =>
    exact spells_literal (Dart.isPlain_payloadLiteral h) fun left hleft =>
      Dart.readLiteral_payloadLiteral h hleft
  | python => exact Python.spells_payload h

end LocaleGen
