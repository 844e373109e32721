import LocaleGen.Dialect.Target
import LocaleGen.Proofs.PythonEmbedding
import Mathlib

/-!
# Raw literals of Python

`Embeddable` says which texts a raw literal holds, by what is unprotected in them. Evaluation takes
these texts and no others (`canEmbedRaw_eq_true`), although it takes the raw literal for any source
text: a text that closes its literal is evaluated from there on, but what it goes on with never
makes up for the quotes that the text has lost, so the value is shorter than the text
(`length_lt_of_parse`).

What such a text goes on with can be an obstacle, though. Evaluation then refuses the text with a
fault and no literal is made at all: `canEmbedRaw_eq_error`.
-/

namespace LocaleGen.Python

open Text

/-! ## Texts that a raw literal holds -/

def rawQuote : Text := List.replicate 3 (CodePoint.ofChar '\'')

/-- What a text goes on with from each of its unprotected characters. -/
def unprotected (t : Text) : List Text :=
  match t with
  | [] => []
  | c :: rest =>
    if c = '\\' then
      match rest with
      | [] => [[c]]
      | d :: rest' => (c :: d :: rest') :: unprotected rest'
    else (c :: rest) :: unprotected rest

/-- Whether a text closes a raw literal that it stands in: by three quotes, or with those after it
by one at its end. -/
def Closing (t : Text) : Prop := (∃ s ∈ unprotected t, rawQuote <+: s) ∨
    [CodePoint.ofChar '\''] ∈ unprotected t

/-- A text that a raw literal holds: one of source text without carriage return, which neither
closes the literal nor protects the quote after it. -/
structure Embeddable (t : Text) : Prop where
  isSource : isSource t = true
  noReturn : CodePoint.ofChar '\r' ∉ t
  notClosing : ¬ Closing t
  noLastBackslash : [CodePoint.ofChar '\\'] ∉ unprotected t

instance (t : Text) : Decidable (Closing t) :=
  inferInstanceAs (Decidable ((∃ s ∈ unprotected t, rawQuote <+: s) ∨ _))

instance (t : Text) : Decidable (Embeddable t) :=
  decidable_of_iff (isSource t = true ∧ CodePoint.ofChar '\r' ∉ t ∧ ¬ Closing t ∧
      [CodePoint.ofChar '\\'] ∉ unprotected t)
    ⟨fun ⟨hs, hr, hc, hb⟩ => ⟨hs, hr, hc, hb⟩, fun ⟨hs, hr, hc, hb⟩ => ⟨hs, hr, hc, hb⟩⟩

theorem unprotected_cons {c : CodePoint} (hc : c ≠ '\\') (t : Text) :
    unprotected (c :: t) = (c :: t) :: unprotected t := by
  rw [unprotected.eq_def]
  simp only [hc, if_false]

/-! ## The end of a raw body -/

@[simp] theorem endsShort_rawQuote (c : CodePoint) : endsShort rawQuote c = false := by
  simp [endsShort, rawQuote]

theorem not_closing_iff {t : Text} :
    ¬ Closing t ↔ (∀ s ∈ unprotected t, ¬ rawQuote <+: s) ∧
    [CodePoint.ofChar '\''] ∉ unprotected t := by
  simp [Closing]

/-- The quotes after a text start no earlier than they stand, if the text does not close its
literal. -/
theorem rawQuote_not_start {c : CodePoint} {p : Text} (left : Text) (h : ¬ Closing (c :: p)) :
    ¬ rawQuote <+: c :: (p ++ (rawQuote ++ left)) := by
  intro hstart
  have hc : c = '\'' := by
    simp only [rawQuote, List.replicate_succ, List.cons_prefix_cons] at hstart
    exact hstart.1.symm
  subst hc
  have hself := unprotected_cons (c := '\'') (by decide) p
  obtain ⟨hin, hlast⟩ := not_closing_iff.mp h
  rcases p with _ | ⟨d, _ | ⟨e, p⟩⟩
  · exact hlast (by simp [hself])
  · have hd : d = '\'' := by
      simp only [rawQuote, List.replicate_succ, List.cons_append, List.cons_prefix_cons] at hstart
      exact hstart.2.1.symm
    subst hd
    exact hlast (by rw [hself]; decide)
  · refine hin ('\'' :: d :: e :: p) (by simp [hself]) ?_
    simpa [rawQuote] using hstart

/-- A raw body ends at the quotes after it, if it neither closes the literal nor protects the first
of them. -/
theorem scanBody_of_not_closing {p : Text} (left : Text) (h : ¬ Closing p)
    (hback : [CodePoint.ofChar '\\'] ∉ unprotected p) :
    scanBody rawQuote (endsShort rawQuote) (p ++ (rawQuote ++ left)) = some (p, left) := by
  fun_induction unprotected p with
  | case1 => exact scanBody_quote (by decide) left
  | case2 => simp at hback
  | case3 d rest' ih =>
    have hnone : dropStart? ('\\' :: d :: (rest' ++ (rawQuote ++ left))) rawQuote = none := rfl
    have hrest : ¬ Closing rest' := by
      obtain ⟨hin, hlast⟩ := not_closing_iff.mp h
      simp only [unprotected, if_true, List.mem_cons, forall_eq_or_imp, not_or] at hin hlast
      exact not_closing_iff.mpr ⟨hin.2, hlast.2⟩
    simp [scanBody, hnone, ih hrest fun hm => hback (List.mem_cons_of_mem _ hm)]
  | case4 c rest hc ih =>
    have hrest : ¬ Closing rest := by
      obtain ⟨hin, hlast⟩ := not_closing_iff.mp h
      simp only [unprotected_cons hc, List.mem_cons, forall_eq_or_imp, not_or] at hin hlast
      exact not_closing_iff.mpr ⟨hin.2, hlast.2⟩
    rw [List.cons_append, scanBody_unquoted (rawQuote_not_start left h) hc (endsShort_rawQuote c),
      ih hrest fun hm => hback (List.mem_cons_of_mem _ hm)]
    rfl

/-- If a raw body ends at the quotes after it, it leaves nothing unprotected that would close it
before. -/
theorem not_closing_of_scanBody {p : Text}
    (h : scanBody rawQuote (endsShort rawQuote) (p ++ rawQuote) = some (p, [])) :
    ¬ Closing p ∧ [CodePoint.ofChar '\\'] ∉ unprotected p := by
  simp only [not_closing_iff]
  fun_induction unprotected p with
  | case1 => simp
  | case2 => cases h
  | case3 d rest' ih =>
    have hnone : dropStart? ('\\' :: d :: (rest' ++ rawQuote)) rawQuote = none := rfl
    simp only [List.cons_append, scanBody, hnone, if_true, Option.map_eq_some_iff, Prod.exists,
      Prod.mk.injEq,
      List.cons.injEq, true_and] at h
    obtain ⟨_, _, hbody, rfl, rfl⟩ := h
    obtain ⟨⟨hin, hlast⟩, hback⟩ := ih hbody
    simp only [List.mem_cons, forall_eq_or_imp, not_or]
    exact ⟨⟨⟨by rintro ⟨_, ⟨⟩⟩, hin⟩, by simp, hlast⟩, by simp, hback⟩
  | case4 c rest hc ih =>
    have hnone : ¬ rawQuote <+: c :: (rest ++ rawQuote) := by
      rintro ⟨left, hleft⟩
      rw [List.cons_append, ← hleft, scanBody_quote (by decide)] at h
      cases h
    rw [List.cons_append, scanBody_unquoted hnone hc (endsShort_rawQuote c)] at h
    simp only [Option.map_eq_some_iff, Prod.exists, Prod.mk.injEq, List.cons.injEq, true_and] at h
    obtain ⟨_, _, hbody, rfl, rfl⟩ := h
    obtain ⟨⟨hin, hlast⟩, hback⟩ := ih hbody
    simp only [List.mem_cons, forall_eq_or_imp, not_or]
    refine ⟨⟨⟨fun hpre => hnone (hpre.trans ⟨rawQuote, rfl⟩), hin⟩, ?_, hlast⟩, ?_, hback⟩
    · rintro ⟨⟩
      exact hnone ⟨[CodePoint.ofChar '\''], rfl⟩
    · rintro ⟨⟩
      exact hc rfl

/-! ## Raw literals as tokens -/

theorem rawLiteral_eq (t : Text) :
    rawLiteral t = CodePoint.ofChar 'r' :: (rawQuote ++ (t ++ rawQuote)) := by
  simp [rawLiteral, rawQuote, Text.ofString]

@[simp] theorem quote?_rawQuote (t : Text) : quote? (rawQuote ++ t) = some (rawQuote, t) := by
  have hthree : dropStart? ('\'' :: '\'' :: t) ['\'', '\''] = some t :=
    dropStart?_append ['\'', '\''] t
  show quote? ('\'' :: '\'' :: '\'' :: t) = _
  rw [quote?, if_pos (by decide), hthree]
  rfl

theorem readQuoted_raw (t : Text) : readQuoted ('r' :: (rawQuote ++ t)) =
    (scanBody rawQuote (endsShort rawQuote) t).map fun (body, left) =>
      (⟨⟨true, false, false⟩, body⟩, left) := by
  have hletters : ∀ c ∈ ([CodePoint.ofChar 'r'] : Text), isPrefixLetter c = true := by decide
  exact readQuoted_append hletters rfl (quote?_rawQuote t)

theorem readQuoted_plain (t : Text) : readQuoted (rawQuote ++ t) =
    (scanBody rawQuote (endsShort rawQuote) t).map fun (body, left) =>
      (⟨⟨false, false, false⟩, body⟩, left) := by
  have hletters : ∀ c ∈ ([] : Text), isPrefixLetter c = true := List.forall_mem_nil _
  have hread := readQuoted_append hletters rfl (quote?_rawQuote t)
  exact hread

theorem readQuoted_rawLiteral {p : Text} (left : Text) (h : ¬ Closing p)
    (hback : [CodePoint.ofChar '\\'] ∉ unprotected p) :
    readQuoted (rawLiteral p ++ left) = some (⟨⟨true, false, false⟩, p⟩, left) := by
  rw [rawLiteral_eq, List.cons_append, List.append_assoc, List.append_assoc, readQuoted_raw,
    scanBody_of_not_closing left h hback]
  rfl

theorem readSymbol_quote (t : Text) : readSymbol ('\'' :: t) = none := by
  have hall : ∀ entry ∈ symbolTokens, ∃ c rest, Text.ofString entry.1 = c :: rest ∧ c ≠ '\'' := by
    have hheads : ∀ entry ∈ symbolTokens,
        (Text.ofString entry.1).head?.any (· ≠ CodePoint.ofChar '\'') = true := by
      decide
    intro entry hmem
    have := hheads entry hmem
    cases hentry : Text.ofString entry.1 with
    | nil => simp [hentry] at this
    | cons c rest => exact ⟨c, rest, rfl, by simpa [hentry] using this⟩
  refine List.findSome?_eq_none_iff.mpr fun entry hmem => ?_
  obtain ⟨c, rest, hentry, hc⟩ := hall entry hmem
  simp [hentry, dropStart?, hc]

/-- Where no raw literal ends the text has no tokens: after the letter stands a quote that nothing
closes. -/
theorem tokens_raw_none {t : Text} (h : scanBody rawQuote (endsShort rawQuote) t = none) :
    tokens ('r' :: (rawQuote ++ t)) = none := by
  have hword : ∃ token, readToken ('r' :: (rawQuote ++ t)) = some (token, rawQuote ++ t) := by
    rw [readToken, readQuoted_raw, h]
    exact ⟨_, rfl⟩
  have hquote : readToken (rawQuote ++ t) = none := by
    rw [readToken, readQuoted_plain, h]
    exact readSymbol_quote ('\'' :: '\'' :: t)
  obtain ⟨token, htoken⟩ := hword
  rw [tokens, List.length_cons, tokensWithin_token _ _ (by decide) htoken]
  have hmore : ∀ fuel depth, tokensWithin fuel depth (rawQuote ++ t) = none := by
    intro fuel depth
    have hstart : isBlank '\'' = false ∧ CodePoint.ofChar '\'' ≠ '#' ∧
      CodePoint.ofChar '\'' ≠ '\n' ∧
        CodePoint.ofChar '\'' ≠ '\\' := by decide
    exact tokensWithin_none fuel depth hstart hquote
  cases depthAfter 0 token with
  | none => rfl
  | some depth => simp only [bind, Option.bind, hmore]

/-! ## Expressions that a raw literal starts -/

theorem value_text {e : Expr} {v : Text} (h : value e = .ok (.text v)) : e = .text v := by
  cases e with
  | text t =>
    cases h
    rfl
  | tuple es | list es => cases hv : values es <;> simp [value, hv, bind, Except.bind] at h
  | set es => cases hv : members es <;> simp [value, hv, bind, Except.bind] at h
  | dict entries => cases hv : pairs entries <;> simp [value, hv, bind, Except.bind] at h
  | signed e =>
    simp only [value] at h
    split at h <;> cases h
  | sum left right =>
    simp only [value, sumValue] at h
    split at h
    · split at h <;> cases h
    all_goals cases h
  | _ => cases h

/-- A text that closes its raw literal is longer than what the literal and all that follows it stand
for. -/
theorem length_lt_of_parse {t left v : Text} {q : Quoted}
    (hread : readQuoted ('r' :: (rawQuote ++ t)) = some (q, left)) (hleft : left ≠ [])
    (h : parse ('r' :: (rawQuote ++ t)) = some (.text v)) : v.length + 3 < t.length := by
  obtain ⟨fuel, htokens⟩ := tokens_of_readQuoted hread
  simp only [parse, htokens, Option.bind_eq_bind, Option.bind_eq_some_iff,
    Option.map_eq_some_iff] at h
  obtain ⟨_, ⟨ts, hts, rfl⟩, hparse⟩ := h
  obtain ⟨texts, htexts, rfl⟩ := parseTokens_text hparse
  have hvalue := length_flatten_le htexts
  have hextent : runExtent ts ≤ left.length := tokensWithin_extent hts
  have hmore := bodies_lt hextent (List.length_pos_of_ne_nil hleft)
  obtain ⟨pair, hbody, hpair⟩ := Option.map_eq_some_iff.mp ((readQuoted_raw t).symm.trans hread)
  cases hpair
  have hlength := congrArg List.length (eq_append_of_scanBody hbody)
  have hquote : rawQuote.length = 3 := rfl
  simp only [quotedRun, List.map_cons, List.sum_cons] at hvalue
  simp only [List.length_append, hquote] at hlength
  omega

/-- What starts a raw literal is a text only if it is a raw literal, or far longer than the text. -/
theorem scanBody_of_parse {t v : Text} (h : parse ('r' :: (rawQuote ++ t)) = some (.text v)) :
    scanBody rawQuote (endsShort rawQuote) t = some (v, []) ∨ v.length + 3 < t.length := by
  cases hbody : scanBody rawQuote (endsShort rawQuote) t with
  | none =>
    rw [parse, tokens_raw_none hbody] at h
    cases h
  | some pair =>
    obtain ⟨body, left⟩ := pair
    have hread : readQuoted ('r' :: (rawQuote ++ t)) =
        some (⟨⟨true, false, false⟩, body⟩, left) := by
      rw [readQuoted_raw, hbody]
      rfl
    by_cases hleft : left = []
    · subst hleft
      rw [parse_quoted hread rfl] at h
      cases h
      exact .inl rfl
    · exact .inr (length_lt_of_parse hread hleft h)

/-! ## Evaluation of raw literals -/

@[simp] theorem normalizeNewlines_rawLiteral (t : Text) :
    (rawLiteral t).normalizeNewlines = rawLiteral t.normalizeNewlines := by
  have hquotes : ∀ u : Text, normalizeNewlines (rawQuote ++ u) =
      rawQuote ++ u.normalizeNewlines := by
    intro u
    show normalizeNewlines ('\'' :: '\'' :: '\'' :: u) = _
    rw [normalizeNewlines_cons (by decide), normalizeNewlines_cons (by decide),
      normalizeNewlines_cons (by decide)]
    rfl
  have hend : rawQuote.normalizeNewlines = rawQuote := by decide
  rw [rawLiteral_eq, normalizeNewlines_cons (by decide), hquotes,
    normalizeNewlines_append t (by decide), hend,
    rawLiteral_eq]

@[simp] theorem isSource_rawLiteral (t : Text) : isSource (rawLiteral t) = isSource t := by
  have hquote : isSource rawQuote = true := by decide
  have hletter : isSource ('r' :: rawQuote) = true := by decide
  unfold isSource at hquote hletter ⊢
  rw [rawLiteral_eq, ← List.cons_append, List.all_append, List.all_append, hletter, hquote,
    Bool.true_and,
    Bool.and_true]

/-- Quotes that a backslash protects close no literal. -/
theorem scanBody_none {p : Text} (h : ¬ Closing p)
    (hback : [CodePoint.ofChar '\\'] ∈ unprotected p) :
    scanBody rawQuote (endsShort rawQuote) (p ++ rawQuote) = none := by
  fun_induction unprotected p with
  | case1 => cases hback
  | case2 => decide
  | case3 d rest' ih =>
    have hnone : dropStart? ('\\' :: d :: (rest' ++ rawQuote)) rawQuote = none := rfl
    have hrest : ¬ Closing rest' := by
      obtain ⟨hin, hlast⟩ := not_closing_iff.mp h
      simp only [unprotected, if_true, List.mem_cons, forall_eq_or_imp, not_or] at hin hlast
      exact not_closing_iff.mpr ⟨hin.2, hlast.2⟩
    have hmem : [CodePoint.ofChar '\\'] ∈ unprotected rest' := by simpa using hback
    simp [scanBody, hnone, ih hrest hmem]
  | case4 c rest hc ih =>
    have hrest : ¬ Closing rest := by
      obtain ⟨hin, hlast⟩ := not_closing_iff.mp h
      simp only [unprotected_cons hc, List.mem_cons, forall_eq_or_imp, not_or] at hin hlast
      exact not_closing_iff.mpr ⟨hin.2, hlast.2⟩
    have hmem : [CodePoint.ofChar '\\'] ∈ unprotected rest := by
      rcases List.mem_cons.mp hback with heq | hmem
      · cases heq
        exact absurd rfl hc
      · exact hmem
    have hstart := rawQuote_not_start [] h
    rw [List.append_nil] at hstart
    rw [List.cons_append, scanBody_unquoted hstart hc (endsShort_rawQuote c), ih hrest hmem]
    rfl

theorem parse_rawLiteral {t : Text} (h : ¬ Closing t) :
    parse (rawLiteral t) =
      if [CodePoint.ofChar '\\'] ∈ unprotected t then none else some (.text t) := by
  split
  · next hback =>
    rw [parse, rawLiteral_eq, tokens_raw_none (scanBody_none h hback)]
    rfl
  · next hback =>
    have hread := readQuoted_rawLiteral [] h hback
    rw [List.append_nil] at hread
    exact parse_quoted hread rfl

theorem literalEval_eq_some {s : Text} {v : Value} : literalEval s = .ok (some v) ↔
    literalValue s = .ok v := by
  unfold literalEval
  split <;> simp [*]

theorem canEmbedRaw_eq_true_iff {t : Text} :
    canEmbedRaw t = .ok true ↔ literalValue (rawLiteral t) = .ok (.text t) := by
  rw [← literalEval_eq_some, canEmbedRaw]
  cases literalEval (rawLiteral t) <;> simp [bind, Except.bind]

/-- Evaluation takes the texts that a raw literal holds, and no others. -/
theorem canEmbedRaw_eq_true {t : Text} : canEmbedRaw t = .ok true ↔ Embeddable t := by
  rw [canEmbedRaw_eq_true_iff, literalValue, isSource_rawLiteral, normalizeNewlines_rawLiteral]
  constructor
  · intro h
    split at h
    · next hsource =>
      split at h
      · next e hparse =>
        obtain rfl := value_text h
        rw [rawLiteral_eq] at hparse
        rcases scanBody_of_parse hparse with hbody | hlong
        · have hsame : t.normalizeNewlines = t := by
            have hend := eq_append_of_scanBody hbody
            rw [List.append_nil] at hend
            exact List.append_cancel_right hend
          rw [hsame] at hbody
          obtain ⟨hclosing, hback⟩ := not_closing_of_scanBody hbody
          exact ⟨hsource, hsame ▸ notMem_normalizeNewlines t, hclosing, hback⟩
        · have hshort := length_normalizeNewlines_le t
          have hquote : rawQuote.length = 3 := rfl
          rw [List.length_append, hquote] at hlong
          omega
      · cases h
    · cases h
  · intro h
    rw [if_pos h.isSource, normalizeNewlines_of_notMem h.noReturn, parse_rawLiteral h.notClosing,
      if_neg h.noLastBackslash]
    rfl

/-! ## Literals of payloads -/

theorem canEmbedRaw_of_not_closing {t : Text} (h : ¬ Closing t.normalizeNewlines) :
    ∃ b, canEmbedRaw t = .ok b := by
  have hvalue : ∀ o, literalValue (rawLiteral t) ≠ .error (.obstacle o) := by
    intro o
    rw [literalValue, isSource_rawLiteral, normalizeNewlines_rawLiteral, parse_rawLiteral h]
    split
    · split
      · next hparse =>
        split at hparse <;> cases hparse
        simp [value]
      · simp
    · simp
  unfold canEmbedRaw literalEval
  split
  · exact ⟨_, rfl⟩
  · exact ⟨_, rfl⟩
  · next o ho => exact absurd ho (hvalue o)

theorem canEmbedRaw_eq_error {t : Text} {f : Fault} (h : canEmbedRaw t = .error f) :
    ∃ o : Obstacle, literalValue (rawLiteral t) = .error (.obstacle o) ∧ f = o.fault := by
  unfold canEmbedRaw literalEval at h
  split at h
  · cases h
  · cases h
  · next o ho =>
    cases h
    exact ⟨o, ho, rfl⟩

theorem payloadLiteral_eq (p : Text) :
    Target.python.payloadLiteral p =
      (canEmbedRaw p).map fun raw => if raw then rawLiteral p else literalOf p := by
  rw [Target.payloadLiteral, Target.canEmbedRaw]
  cases canEmbedRaw p with
  | error f => rfl
  | ok raw =>
    cases raw with
    | true => rfl
    | false => exact stringLiteral_eq p

/-- Whether a payload is embedded raw is known from what is unprotected in it, and either way its
literal stands for it. Only a payload that closes its raw literal, and goes on with an obstacle, has
no literal. -/
theorem payloadLiteral_spec (p : Text) :
    (canEmbedRaw p = .ok true ↔ Embeddable p) ∧
    (Embeddable p → Target.python.payloadLiteral p = .ok (rawLiteral p) ∧
      readQuoted (rawLiteral p) = some (⟨⟨true, false, false⟩, p⟩, [])) ∧
    (canEmbedRaw p = .ok false → ∃ literal, Target.python.payloadLiteral p = .ok literal ∧
      stringLiteral p = .ok literal ∧ evaluate literal = some p) ∧
    (∀ fault, Target.python.payloadLiteral p = .error fault → Closing p.normalizeNewlines ∧
      ∃ o : Obstacle, literalValue (rawLiteral p) = .error (.obstacle o) ∧ fault = o.fault) := by
  refine ⟨canEmbedRaw_eq_true, fun h => ⟨?_, ?_⟩, fun h => ⟨literalOf p, ?_, stringLiteral_eq p,
    evaluate_literalOf p⟩, fun fault h => ?_⟩
  · rw [payloadLiteral_eq, canEmbedRaw_eq_true.mpr h]
    rfl
  · simpa using readQuoted_rawLiteral [] h.notClosing h.noLastBackslash
  · rw [payloadLiteral_eq, h]
    rfl
  · have hcheck : canEmbedRaw p = .error fault := by
      rw [payloadLiteral_eq] at h
      cases hraw : canEmbedRaw p with
      | error f =>
        rw [hraw] at h
        cases h
        rfl
      | ok raw =>
        rw [hraw] at h
        cases h
    refine ⟨?_, canEmbedRaw_eq_error hcheck⟩
    by_contra hclosing
    obtain ⟨raw, hraw⟩ := canEmbedRaw_of_not_closing hclosing
    rw [hraw] at hcheck
    cases hcheck

/-- A payload that closes its raw literal and goes on with a set that holds a list has no
literal. -/
theorem payloadLiteral_unhashable :
    Target.python.payloadLiteral r"a''', {[]}, r'''b" =
      .error (.type "unhashable type: 'list'") := by
  have hvalue : literalValue (rawLiteral r"a''', {[]}, r'''b") =
      .error (.obstacle (.unhashable .list)) := by
    decide +kernel
  rw [payloadLiteral_eq, canEmbedRaw, literalEval, hvalue]
  rfl

end LocaleGen.Python
