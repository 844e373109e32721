import LocaleGen.Dialect.Target
import LocaleGen.Proofs.PythonExpression
import LocaleGen.Proofs.PythonLiteral
import LocaleGen.Proofs.PythonToken
import Mathlib

/-!
# Literals of Python that are evaluated before they are used

A source text that is one literal has one token and is parsed as the text that the literal stands
for (`parse_quoted`). So evaluation takes every literal that is made by escapes:
`stringLiteral_total`.
-/

namespace LocaleGen.Python

open Text

/-! ## A literal as a whole text -/

/-- A literal starts with a character that starts a token. -/
theorem startsToken_of_readQuoted {c : CodePoint} {rest left : Text} {q : Quoted}
    (h : readQuoted (c :: rest) = some (q, left)) :
    isBlank c = false ∧ c ≠ '#' ∧ c ≠ '\n' ∧ c ≠ '\\' := by
  obtain ⟨quote, hquote⟩ := parts_of_readQuoted h
  have hstart : isPrefixLetter c = true ∨ c = '\'' ∨ c = '"' := by
    cases hc : isPrefixLetter c with
    | true => exact .inl rfl
    | false =>
      rw [List.dropWhile_cons_of_neg (by simp [hc]), quote?] at hquote
      split at hquote
      · next hq => simpa using hq
      · cases hquote
  rcases hstart with hc | rfl | rfl
  · have hval : ∀ d : CodePoint, d = CodePoint.ofChar 'r' ∨ d = CodePoint.ofChar 'b' ∨
      d = CodePoint.ofChar 'u' ∨
        d = CodePoint.ofChar 'f' → 0x62 ≤ d.val := by
      rintro d (rfl | rfl | rfl | rfl) <;> decide
    have hlower := hval c.asciiLower (by simpa [isPrefixLetter, or_assoc] using hc)
    have hletter : c.val = 0x5C → c.asciiLower.val = 0x5C := by
      intro hv
      simp [CodePoint.asciiLower, hv]
    have hbound : 0x42 ≤ c.val ∧ c.val ≠ 0x5C := by
      unfold CodePoint.asciiLower at hlower hletter
      split at hlower <;> simp_all <;> omega
    simp [isBlank, CodePoint.eq_iff_val]
    omega
  · decide
  · decide

theorem tokensWithin_nil (fuel : Nat) : tokensWithin fuel 0 [] = some [] := by
  cases fuel <;> rfl

theorem tokensWithin_token {c : CodePoint} {rest left : Text} {token : Token} (fuel depth : Nat)
    (hc : isBlank c = false ∧ c ≠ '#' ∧ c ≠ '\n' ∧ c ≠ '\\')
    (h : readToken (c :: rest) = some (token, left)) :
    tokensWithin (fuel + 1) depth (c :: rest) = (do
      let depth ← depthAfter depth token
      some (token :: (← tokensWithin fuel depth left))) := by
  obtain ⟨hblank, hcomment, hline, hjoin⟩ := hc
  simp [tokensWithin, hblank, hcomment, hline, hjoin, h]

theorem tokensWithin_none {c : CodePoint} {rest : Text} (fuel depth : Nat)
    (hc : isBlank c = false ∧ c ≠ '#' ∧ c ≠ '\n' ∧ c ≠ '\\') (h : readToken (c :: rest) = none) :
    tokensWithin fuel depth (c :: rest) = none := by
  obtain ⟨hblank, hcomment, hline, hjoin⟩ := hc
  cases fuel with
  | zero => rfl
  | succ fuel => simp [tokensWithin, hblank, hcomment, hline, hjoin, h]

theorem tokens_of_readQuoted {t left : Text} {q : Quoted} (h : readQuoted t = some (q, left)) :
    ∃ fuel, tokens t = (tokensWithin fuel 0 left).map (.quoted q :: ·) := by
  cases t with
  | nil => simp [readQuoted, quote?] at h
  | cons c rest =>
    refine ⟨rest.length, ?_⟩
    have hread : readToken (c :: rest) = some (.quoted q, left) := by simp [readToken, h]
    rw [tokens, List.length_cons, tokensWithin_token _ _ (startsToken_of_readQuoted h) hread]
    show (tokensWithin rest.length 0 left).bind (fun ts => some (.quoted q :: ts)) = _
    cases tokensWithin rest.length 0 left <;> rfl

theorem parse_quoted {t v : Text} {q : Quoted} (h : readQuoted t = some (q, []))
    (hv : q.text? = some v) : parse t = some (.text v) := by
  obtain ⟨fuel, htokens⟩ := tokens_of_readQuoted h
  rw [tokensWithin_nil, Option.map_some] at htokens
  simp [parse, htokens, parseTokens, expression_quoted _ hv]

/-! ## Literals by escapes -/

@[simp] theorem literalEval_literalOf (t : Text) :
    literalEval (literalOf t) = .ok (some (.text t)) := by
  have hhead : ([] : Text).head? ≠ some (CodePoint.ofChar '"') := by simp
  have hread := readQuoted_literalOf (t := t) hhead
  rw [List.append_nil] at hread
  have hvalue : (⟨⟨false, false, false⟩, escapeRules.escaped t⟩ : Quoted).text? = some t := by
    simp [Quoted.text?]
  rw [literalEval, literalValue, if_pos (isSource_literalOf t), normalizeNewlines_literalOf,
    parse_quoted hread hvalue]
  rfl

@[simp] theorem stringLiteral_eq (t : Text) : stringLiteral t = .ok (literalOf t) := by
  rw [stringLiteral, literal_eq]
  simp [Except.mapError, bind, Except.bind]

/-- Every text has a literal between double quotes that holds neither NUL nor line end nor
surrogate, and by the rules of the language the literal is closed by its last character and stands
for the text. -/
theorem stringLiteral_total (t : Text) :
    ∃ body : Text, stringLiteral t = .ok ("\"" ++ body ++ "\"") ∧
      (∀ c ∈ "\"" ++ body ++ "\"", c.val ≠ 0 ∧ c ≠ '\n' ∧ c ≠ '\r' ∧ c.isSurrogate = false) ∧
      readQuoted ("\"" ++ body ++ "\"") = some (⟨⟨false, false, false⟩, body⟩, []) ∧
      unescape readEscape body = some t := by
  have hhead : ([] : Text).head? ≠ some (CodePoint.ofChar '"') := by simp
  have hread := readQuoted_literalOf (t := t) hhead
  rw [List.append_nil] at hread
  refine ⟨escapeRules.escaped t, stringLiteral_eq t, fun c hc => ?_, hread, unescape_escaped t⟩
  simpa [isBarred, and_assoc] using literalOf_notBarred t c hc

end LocaleGen.Python
