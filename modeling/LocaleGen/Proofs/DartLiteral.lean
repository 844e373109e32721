import LocaleGen.Dialect.DartLiteral
import LocaleGen.Proofs.Escaping
import Mathlib

/-!
# Dart literals read back

Every scalar has an image that a short literal may spell it by (`isImage`), so a text of scalars has
a literal that is closed by its last character only and stands for the text. A surrogate has none
and is refused.

A raw literal stands for every text that `canEmbedRaw` admits.
-/

namespace LocaleGen.Dart

open Text EscapeRules

/-! ## Short literals -/

theorem isCharwise : IsCharwise escapeRules.table := by decide

theorem image_unlisted {c : CodePoint} (hc : [c] ∉ escapeRules.replaced) :
    escapeRules.image c = [c] := by
  rw [EscapeRules.image_unlisted isCharwise hc]
  rfl

@[simp] theorem mem_replaced {c : CodePoint} :
    [c] ∈ escapeRules.replaced ↔ c = '\\' ∨ c = '"' ∨ c = '$' ∨ c = '\n' ∨
    c = '\r' ∨ c = '\x00' := by
  simp [escapeRules, EscapeRules.replaced, EscapeRules.table, Text.ofString]

theorem isImage_replaced {c : CodePoint} (hc : [c] ∈ escapeRules.replaced) :
    Image readEscape '"' endsShort c (escapeRules.image c) := by
  rcases mem_replaced.mp hc with rfl | rfl | rfl | rfl | rfl | rfl
  · exact Image.pair (d := '\\') fun _ => rfl
  · exact Image.pair (d := '"') fun _ => rfl
  · exact Image.pair (d := '$') fun _ => rfl
  · exact Image.pair (d := 'n') fun _ => rfl
  · exact Image.pair (d := 'r') fun _ => rfl
  · have hdigits : ∀ e ∈ ("00" : Text), Plain '"' endsShort e := by
      intro e he
      obtain rfl : e = '0' := by simpa [Text.ofString] using he
      exact ⟨by decide, by decide, by decide⟩
    have himage : Image readEscape '"' endsShort '\x00' ('\\' :: 'x' :: ("00" : Text)) :=
      .escaped (fun _ => rfl) hdigits
    exact himage

/-- What a character becomes is a way to spell it. -/
theorem isImage (c : CodePoint) : Image readEscape '"' endsShort c (escapeRules.image c) := by
  by_cases hc : [c] ∈ escapeRules.replaced
  · exact isImage_replaced hc
  · rw [image_unlisted hc]
    simp only [mem_replaced, not_or] at hc
    obtain ⟨hb, hq, hd, hn, hr, -⟩ := hc
    exact .plain ⟨hb, hq, by simp [endsShort, hd, hn, hr]⟩

/-- Only surrogates are left for the rules to forbid. -/
theorem eq_of_forbidden {c e : CodePoint} (he : e ∈ escapeRules.image c)
    (hf : e.within escapeRules.forbidden = true) : e = c ∧ c.isSurrogate = true := by
  by_cases hc : [c] ∈ escapeRules.replaced
  · exfalso
    revert e
    rcases mem_replaced.mp hc with rfl | rfl | rfl | rfl | rfl | rfl <;> decide
  · rw [image_unlisted hc] at he
    obtain rfl : e = c := by simpa using he
    simp only [mem_replaced, not_or, CodePoint.eq_iff_val] at hc
    simp [CodePoint.within, escapeRules, lineEnds, surrogates, CodePoint.isSurrogate] at hf hc ⊢
    omega

theorem mem_escaped {t : Text} {e : CodePoint} :
    e ∈ escapeRules.escaped t ↔ ∃ c ∈ t, e ∈ escapeRules.image c := by
  rw [escaped_eq_flatMap isCharwise, List.mem_flatMap]

/-- Of a text of scalars nothing is left for the rules to forbid. -/
theorem notForbidden_of_mem_escaped {t : Text} (h : t.IsScalar) {e : CodePoint}
    (he : e ∈ escapeRules.escaped t) : e.within escapeRules.forbidden = false := by
  obtain ⟨c, hc, he⟩ := mem_escaped.mp he
  cases hf : e.within escapeRules.forbidden with
  | false => rfl
  | true =>
    have hs := (eq_of_forbidden he hf).2
    rw [h c hc] at hs
    cases hs

theorem stringLiteral_of_isScalar {t : Text} (h : t.IsScalar) :
    stringLiteral t = .ok ("\"" ++ escapeRules.escaped t ++ "\"") := by
  have hok : escapeRules.escape t = .ok (escapeRules.escaped t) :=
    escape_eq_ok fun _ he => notForbidden_of_mem_escaped h he
  rw [stringLiteral, EscapeRules.literal, hok]
  rfl

/-- A text with a surrogate is refused, and the refusal names a surrogate of it. -/
theorem stringLiteral_of_surrogate {t : Text} {c : CodePoint} (hc : c ∈ t)
    (hs : c.isSurrogate = true) :
    ∃ d ∈ t, d.isSurrogate = true ∧ ∃ place, stringLiteral t = .error (.unembeddable d place) := by
  have hunlisted : [c] ∉ escapeRules.replaced := by
    intro hm
    revert hs
    rcases mem_replaced.mp hm with rfl | rfl | rfl | rfl | rfl | rfl <;> decide
  have hmem : c ∈ escapeRules.escaped t :=
    mem_escaped.mpr ⟨c, hc, by simp [image_unlisted hunlisted]⟩
  have hf : c.within escapeRules.forbidden = true := by
    simp [CodePoint.isSurrogate] at hs
    simp [CodePoint.within, escapeRules, lineEnds, surrogates]
    omega
  obtain ⟨d, hd, hf, place, he⟩ := escape_eq_error hmem hf
  obtain ⟨e, het, hde⟩ := mem_escaped.mp hd
  obtain ⟨rfl, hs⟩ := eq_of_forbidden hde hf
  refine ⟨d, het, hs, place, ?_⟩
  rw [stringLiteral, EscapeRules.literal, he]
  rfl

theorem scanBody_escaped (t left : Text) :
    scanBody "\"" endsShort (escapeRules.escaped t ++ "\"" ++ left) =
      some (escapeRules.escaped t, left) := by
  rw [escaped_eq_flatMap isCharwise, List.append_assoc]
  exact scanBody_images (by decide) (fun c _ => isImage c) left

@[simp] theorem unescape_escaped (t : Text) :
    unescape readEscape (escapeRules.escaped t) = some t := by
  rw [escaped_eq_flatMap isCharwise]
  exact unescape_images fun c _ => isImage c

/-- A literal is read in front of anything but another quote. -/
theorem readShort_literal {t left : Text} (h : left.head? ≠ some '"') :
    readShort ("\"" ++ escapeRules.escaped t ++ "\"" ++ left) = some (t, left) := by
  have hthree : dropStart? (escapeRules.escaped t ++ "\"" ++ left) "\"\"" = none := by
    rw [escaped_eq_flatMap isCharwise, List.append_assoc]
    exact dropStart?_images (by decide) (fun c _ => isImage c) h
  rw [List.append_assoc, List.append_assoc, ← List.append_assoc (escapeRules.escaped t), readShort,
    dropStart?_append]
  simp only [bind, Option.bind, hthree, scanBody_escaped, unescape_escaped]
  rfl

/-- A text has a literal if it is one of scalars, and only then. The literal is closed by its last
character, neither an interpolation nor a line end stands in it, and by its escapes it stands for
the text. -/
theorem stringLiteral_round_trip (t : Text) :
    (¬ t.IsScalar → ∃ c ∈ t, c.isSurrogate = true ∧
      ∃ cause, stringLiteral t = .error cause ∧ cause.kind = .escapeOverflow) ∧
    (t.IsScalar → ∃ body : Text, stringLiteral t = .ok ("\"" ++ body ++ "\"") ∧
      scanBody "\"" endsShort (body ++ "\"") = some (body, []) ∧
      unescape readEscape body = some t) := by
  constructor
  · intro h
    obtain ⟨c, hc, hs⟩ : ∃ c ∈ t, c.isSurrogate = true := by simpa [Text.IsScalar] using h
    obtain ⟨d, hd, hs, place, he⟩ := stringLiteral_of_surrogate hc hs
    exact ⟨d, hd, hs, _, he, rfl⟩
  · intro h
    refine ⟨escapeRules.escaped t, stringLiteral_of_isScalar h, ?_, unescape_escaped t⟩
    simpa using scanBody_escaped t []

theorem stringLiteral_eq_ok {t literal : Text} :
    stringLiteral t = .ok literal ↔ t.IsScalar ∧
    literal = "\"" ++ escapeRules.escaped t ++ "\"" := by
  constructor
  · intro h
    have hscalar : t.IsScalar := by
      intro c hc
      by_contra hs
      obtain ⟨_, _, _, _, he⟩ := stringLiteral_of_surrogate hc (by simpa using hs)
      rw [h] at he
      cases he
    exact ⟨hscalar, by simpa [stringLiteral_of_isScalar hscalar] using h.symm⟩
  · rintro ⟨hscalar, rfl⟩
    exact stringLiteral_of_isScalar hscalar

/-! ## Raw literals -/

theorem tripleQuote_eq : tripleQuote = List.replicate 3 (CodePoint.ofChar '\'') := rfl

theorem scanRaw_tripleQuote (left : Text) : scanRaw (tripleQuote ++ left) = some ([], left) := by
  have hstart : dropStart? (tripleQuote ++ left) tripleQuote = some left :=
    dropStart?_append tripleQuote left
  generalize hbody : tripleQuote ++ left = body at hstart ⊢
  cases body with
  | nil => simp [tripleQuote, Text.ofString] at hbody
  | cons c rest => rw [scanRaw, hstart]

/-- A raw body ends at the triple quote after it, if there is none in it and it does not end in a
quote. -/
theorem scanRaw_append {p : Text} (left : Text) (hin : p.contains tripleQuote = false)
    (hlast : p.getLast? ≠ some (CodePoint.ofChar '\'')) :
    scanRaw (p ++ (tripleQuote ++ left)) = some (p, left) := by
  induction p with
  | nil => exact scanRaw_tripleQuote left
  | cons c p ih =>
    simp only [Text.contains, Bool.or_eq_false_iff] at hin
    have hnone : dropStart? (c :: (p ++ (tripleQuote ++ left))) tripleQuote = none := by
      cases hd : dropStart? (c :: (p ++ (tripleQuote ++ left))) tripleQuote with
      | none => rfl
      | some rest =>
        exfalso
        have hrest : c :: (p ++ (tripleQuote ++ left)) = tripleQuote ++ rest :=
          eq_append_of_dropStart? hd
        simp only [tripleQuote_eq] at hrest hin
        -- The triple quote lies in the text, or one of its quotes is the last character of the
        -- text.
        rcases p with _ | ⟨d, _ | ⟨e, q⟩⟩ <;> simp_all
    have hlast' : p.getLast? ≠ some (CodePoint.ofChar '\'') := by
      intro h
      cases p with
      | nil => cases h
      | cons d q => exact hlast (by rw [← h, List.getLast?_cons_cons])
    rw [List.cons_append, scanRaw, hnone]
    simp only [ih hin.2 hlast', Option.map_some]

theorem isLineBlank_iff {c : CodePoint} :
    isLineBlank c = true ↔ c = CodePoint.ofChar ' ' ∨ c = CodePoint.ofChar '\t' := by
  simp [isLineBlank]

theorem hasDroppedLine_cons {c : CodePoint} (t : Text)
    (h : c = CodePoint.ofChar ' ' ∨ c = CodePoint.ofChar '\t' ∨ c = CodePoint.ofChar '\\') :
    hasDroppedLine (c :: t) = hasDroppedLine t := by
  rcases h with rfl | rfl | rfl <;> rfl

/-- A first line that a reader drops is one that no raw literal is made with. -/
theorem hasDroppedLine_of_afterBlankLine? {t left : Text} (h : afterBlankLine? t = some left) :
    hasDroppedLine t = true := by
  fun_induction afterBlankLine? t with
  | case1 => cases h
  | case2 => rfl
  | case3 c rest _ hblank ih =>
    rw [hasDroppedLine_cons rest (by have := isLineBlank_iff.mp hblank; tauto), ih h]
  | case4 => cases h
  | case5 d rest' hblank _ _ ih =>
    rw [hasDroppedLine_cons _ (by tauto),
      hasDroppedLine_cons rest' (by have := isLineBlank_iff.mp hblank; tauto), ih h]
  | case6 => cases h
  | case7 => cases h

theorem skipDroppedLine_of_not {t : Text} (h : hasDroppedLine t = false) :
    skipDroppedLine t = t := by
  cases hline : afterBlankLine? t with
  | none => rw [skipDroppedLine, hline, Option.getD_none]
  | some left =>
    rw [hasDroppedLine_of_afterBlankLine? hline] at h
    cases h

theorem dropStart?_rawLiteral (p left : Text) :
    dropStart? (rawLiteral p ++ left) ("r" ++ tripleQuote) = some (p ++ (tripleQuote ++ left)) := by
  have : rawLiteral p ++ left = "r" ++ tripleQuote ++ (p ++ (tripleQuote ++ left)) := by
    simp [rawLiteral, tripleQuote, Text.ofString]
  rw [this, dropStart?_append]

theorem readRaw_rawLiteral {p : Text} (left : Text) (h : canEmbedRaw p = true) :
    readRaw (rawLiteral p ++ left) = some (p, left) := by
  simp only [canEmbedRaw, Bool.and_eq_true, Bool.not_eq_true', decide_eq_true_eq] at h
  obtain ⟨⟨⟨⟨hin, hlast⟩, hcr⟩, hline⟩, -⟩ := h
  have hcr : CodePoint.ofChar '\r' ∉ p := notMem_of_contains hcr
  rw [readRaw, dropStart?_rawLiteral]
  simp only [bind, Option.bind, scanRaw_append left hin hlast, normalizeNewlines_of_notMem hcr,
    skipDroppedLine_of_not hline]

/-! ## Either kind -/

theorem readLiteral_rawLiteral {p : Text} (left : Text) (h : canEmbedRaw p = true) :
    readLiteral (rawLiteral p ++ left) = some (p, left) := by
  rw [readLiteral, dropStart?_rawLiteral, if_pos Option.isSome_some, readRaw_rawLiteral left h]

theorem readLiteral_stringLiteral {t literal left : Text} (h : stringLiteral t = .ok literal)
    (hleft : left.head? ≠ some '"') : readLiteral (literal ++ left) = some (t, left) := by
  obtain ⟨-, rfl⟩ := stringLiteral_eq_ok.mp h
  exact readShort_literal hleft

end LocaleGen.Dart
