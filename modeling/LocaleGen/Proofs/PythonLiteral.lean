import LocaleGen.Dialect.Python
import LocaleGen.Proofs.Escaping
import LocaleGen.Proofs.Numeral
import Mathlib

/-!
# Python literals read back

Every character has an image that a short literal may spell it by (`isImage`), a surrogate by its
number, and no image holds what source text or a line cannot hold. So every text has a literal,
which is source text and stands for the text.
-/

namespace LocaleGen.Python

open Text EscapeRules

/-! ## Images -/

theorem isCharwise : IsCharwise escapeRules.table := by decide

@[simp] theorem mem_replaced {c : CodePoint} :
    [c] ∈ escapeRules.replaced ↔ c = '\\' ∨ c = '"' ∨ c = '\n' ∨ c = '\r' ∨ c = '\x00' := by
  simp [escapeRules, EscapeRules.replaced, EscapeRules.table, Text.ofString]

theorem within_encoded (c : CodePoint) : c.within escapeRules.encoded = c.isSurrogate := by
  simp [CodePoint.within, escapeRules, surrogates, CodePoint.isSurrogate]

theorem image_unlisted {c : CodePoint} (hc : [c] ∉ escapeRules.replaced) :
    escapeRules.image c = if c.isSurrogate then encodeChar c else [c] := by
  rw [EscapeRules.image_unlisted isCharwise hc, within_encoded]

def isBarred (c : CodePoint) : Bool :=
  c.val = 0 || c = CodePoint.ofChar '\n' || c = CodePoint.ofChar '\r' || c.isSurrogate

/-- A digit of a number that stands for a character. -/
theorem digit_spec {d : Nat} (h : d < 16) :
    Plain '"' (endsShort "\"") (digit d) ∧ isBarred (digit d) = false := by
  have hv := digit_val h
  have hrange : 0x30 ≤ (digit d).val ∧ (digit d).val ≤ 0x66 ∧ (digit d).val ≠ 0x5C := by
    rw [hv]
    split <;> omega
  refine ⟨⟨?_, ?_, ?_⟩, ?_⟩
  · rw [Ne, CodePoint.eq_iff_val]
    simpa using hrange.2.2
  · rw [Ne, CodePoint.eq_iff_val]
    simp
    omega
  · simp [endsShort, CodePoint.eq_iff_val]
    omega
  · simp [isBarred, CodePoint.eq_iff_val, CodePoint.isSurrogate]
    omega

theorem hex_spec (width n : Nat) :
    ∀ e ∈ hex width n, Plain '"' (endsShort "\"") e ∧ isBarred e = false := by
  intro e he
  obtain ⟨d, hd, rfl⟩ := List.mem_map.mp he
  refine digit_spec ?_
  rcases List.mem_append.mp hd with hd | hd
  · rw [List.eq_of_mem_replicate hd]
    decide
  · exact digits_lt (by decide) n d hd

theorem isImage_surrogate {c : CodePoint} (h : c.isSurrogate = true) :
    Image readEscape '"' (endsShort "\"") c (encodeChar c) := by
  have hlt : c.val < 16 ^ 4 := by
    simp [CodePoint.isSurrogate] at h
    omega
  have hread : ∀ t, readEscape ('u' :: (hex 4 c.val ++ t)) = some ([c], t) := by
    intro t
    show Option.map _ (hexPoint? 4 (hex 4 c.val ++ t)) = _
    rw [hexPoint?_hex (by decide) c hlt]
    rfl
  have himage : Image readEscape '"' (endsShort "\"") c ('\\' :: 'u' :: hex 4 c.val) :=
    .escaped hread fun e he => (hex_spec 4 c.val e he).1
  exact himage

theorem isImage_replaced {c : CodePoint} (hc : [c] ∈ escapeRules.replaced) :
    Image readEscape '"' (endsShort "\"") c (escapeRules.image c) := by
  rcases mem_replaced.mp hc with rfl | rfl | rfl | rfl | rfl
  · exact Image.pair (d := '\\') fun _ => rfl
  · exact Image.pair (d := '"') fun _ => rfl
  · exact Image.pair (d := 'n') fun _ => rfl
  · exact Image.pair (d := 'r') fun _ => rfl
  · have hdigits : ∀ e ∈ ("00" : Text), Plain '"' (endsShort "\"") e := by
      intro e he
      obtain rfl : e = '0' := by simpa [Text.ofString] using he
      exact ⟨by decide, by decide, by decide⟩
    have himage : Image readEscape '"' (endsShort "\"") '\x00' ('\\' :: 'x' :: ("00" : Text)) :=
      .escaped (fun _ => rfl) hdigits
    exact himage

/-- What a character becomes is a way to spell it. -/
theorem isImage (c : CodePoint) :
    Image readEscape '"' (endsShort "\"") c (escapeRules.image c) := by
  by_cases hc : [c] ∈ escapeRules.replaced
  · exact isImage_replaced hc
  · rw [image_unlisted hc]
    split
    · next hs => exact isImage_surrogate hs
    · simp only [mem_replaced, not_or] at hc
      obtain ⟨hb, hq, hn, -, -⟩ := hc
      exact .plain ⟨hb, hq, by simp [endsShort, hn]⟩

theorem image_notBarred (c : CodePoint) : ∀ e ∈ escapeRules.image c, isBarred e = false := by
  by_cases hc : [c] ∈ escapeRules.replaced
  · rcases mem_replaced.mp hc with rfl | rfl | rfl | rfl | rfl <;> decide
  · intro e he
    rw [image_unlisted hc] at he
    split at he
    · have hmark : ∀ d ∈ ("\\u" : Text), isBarred d = false := by decide
      rcases List.mem_append.mp he with he | he
      · exact hmark e he
      · exact (hex_spec 4 c.val e he).2
    · next hs =>
      obtain rfl : e = c := by simpa using he
      simp only [mem_replaced, not_or, CodePoint.eq_iff_val] at hc
      simp [isBarred, CodePoint.eq_iff_val] at hs hc ⊢
      exact ⟨by omega, hs⟩

/-! ## Reading -/

theorem takeWhile_of_quote? {t quote rest : Text} (h : quote? t = some (quote, rest)) :
    t.takeWhile isPrefixLetter = [] := by
  cases t with
  | nil => cases h
  | cons c t =>
    rw [quote?] at h
    split at h
    · next hc =>
      have hnot : isPrefixLetter c = false := by
        rcases (by simpa using hc : c = '\'' ∨ c = '"') with rfl | rfl <;> decide
      simp [hnot]
    · cases h

theorem readQuoted_append {letters t quote rest : Text} {flags : Flags}
    (hletters : ∀ c ∈ letters, isPrefixLetter c = true)
    (hflags : prefixes.lookup (letters.map CodePoint.asciiLower) = some flags)
    (hquote : quote? t = some (quote, rest)) :
    readQuoted (letters ++ t) =
      (scanBody quote (endsShort quote) rest).map fun (body, left) => (⟨flags, body⟩, left) := by
  have hnone := takeWhile_of_quote? hquote
  have htake : (letters ++ t).takeWhile isPrefixLetter = letters := by
    rw [List.takeWhile_append_of_pos hletters, hnone, List.append_nil]
  have hdrop : (letters ++ t).dropWhile isPrefixLetter = t := by
    rw [List.dropWhile_append_of_pos hletters]
    have := List.takeWhile_append_dropWhile (p := isPrefixLetter) (l := t)
    rwa [hnone, List.nil_append] at this
  rw [readQuoted, htake, hdrop, hflags]
  simp only [bind, Option.bind, hquote]
  cases scanBody quote (endsShort quote) rest <;> rfl

/-! ## Literals -/

theorem mem_escaped {t : Text} {e : CodePoint} :
    e ∈ escapeRules.escaped t ↔ ∃ c ∈ t, e ∈ escapeRules.image c := by
  rw [escaped_eq_flatMap isCharwise, List.mem_flatMap]

theorem escaped_notBarred (t : Text) : ∀ e ∈ escapeRules.escaped t, isBarred e = false := by
  intro e he
  obtain ⟨c, -, he⟩ := mem_escaped.mp he
  exact image_notBarred c e he

def literalOf (t : Text) : Text := "\"" ++ escapeRules.escaped t ++ "\""

theorem literalOf_notBarred (t : Text) : ∀ e ∈ literalOf t, isBarred e = false := by
  have hquote : ∀ d ∈ ("\"" : Text), isBarred d = false := by decide
  intro e he
  rcases List.mem_append.mp he with he | he
  · rcases List.mem_append.mp he with he | he
    · exact hquote e he
    · exact escaped_notBarred t e he
  · exact hquote e he

/-- No character of a text is left for the rules to forbid. -/
theorem literal_eq (t : Text) : escapeRules.literal t = .ok (literalOf t) := by
  have hok : escapeRules.escape t = .ok (escapeRules.escaped t) := by
    refine escape_eq_ok fun e he => ?_
    have hb := escaped_notBarred t e he
    simp [isBarred, CodePoint.eq_iff_val] at hb
    simp [CodePoint.within, escapeRules, lineEnds]
    omega
  rw [EscapeRules.literal, hok]
  rfl

theorem literalOf_append (t left : Text) :
    literalOf t ++ left =
      CodePoint.ofChar '"' :: (t.flatMap escapeRules.image ++ CodePoint.ofChar '"' :: left) := by
  simp [literalOf, escaped_eq_flatMap isCharwise, Text.ofString]

@[simp] theorem unescape_escaped (t : Text) :
    unescape readEscape (escapeRules.escaped t) = some t := by
  rw [escaped_eq_flatMap isCharwise]
  exact unescape_images fun c _ => isImage c

/-- A literal is read in front of anything but another quote. -/
theorem readQuoted_literalOf {t left : Text} (h : left.head? ≠ some (CodePoint.ofChar '"')) :
    readQuoted (literalOf t ++ left) =
      some (⟨⟨false, false, false⟩, escapeRules.escaped t⟩, left) := by
  rw [escaped_eq_flatMap isCharwise]
  have hthree : dropStart? (t.flatMap escapeRules.image ++ CodePoint.ofChar '"' :: left)
      ['"', '"'] = none :=
    dropStart?_images (by decide) (fun c _ => isImage c) h
  have hbody := scanBody_images (by decide) (fun c (_ : c ∈ t) => isImage c) left
  have hquote : quote? (literalOf t ++ left) =
      some ([CodePoint.ofChar '"'], t.flatMap escapeRules.image ++ CodePoint.ofChar '"' :: left) := by
    rw [literalOf_append, quote?, if_pos (by decide), hthree]
  have hread := readQuoted_append (List.forall_mem_nil _) rfl hquote
  exact hread.trans (congrArg _ hbody)

theorem readText_literalOf {t left : Text} (h : left.head? ≠ some (CodePoint.ofChar '"')) :
    readText (literalOf t ++ left) = some (t, left) := by
  rw [readText, readQuoted_literalOf h]
  simp [Quoted.text?]

@[simp] theorem isSource_literalOf (t : Text) : isSource (literalOf t) = true := by
  refine List.all_eq_true.mpr fun c hc => ?_
  have := literalOf_notBarred t c hc
  simp [isBarred] at this
  simp [this]

@[simp] theorem normalizeNewlines_literalOf (t : Text) :
    (literalOf t).normalizeNewlines = literalOf t := by
  refine normalizeNewlines_of_notMem fun hm => ?_
  have := literalOf_notBarred t _ hm
  simp [isBarred] at this

theorem evaluate_literalOf (t : Text) : evaluate (literalOf t) = some t := by
  have hread : readText (literalOf t) = some (t, []) := by
    have hhead : ([] : Text).head? ≠ some (CodePoint.ofChar '"') := by simp
    simpa using readText_literalOf (t := t) hhead
  rw [evaluate, if_pos (isSource_literalOf t), normalizeNewlines_literalOf, hread]

end LocaleGen.Python
