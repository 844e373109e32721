import LocaleGen.Dialect.PythonExpression
import Mathlib

/-!
# Literals among the tokens of Python

A literal among the tokens of a text is one that `readQuoted` has read (`readQuoted_of_readToken`).
So the literals that the tokens start with take up their room in the text: `tokensWithin_extent`
bounds their bodies by the length of the text, two quotes for each literal counted in. What they
stand for is no longer than their bodies (`length_flatten_le`).
-/

namespace LocaleGen.Text

theorem eq_append_of_scanBody {quote : Text} {stop : CodePoint → Bool} {t body left : Text}
    (h : scanBody quote stop t = some (body, left)) : t = body ++ (quote ++ left) := by
  fun_induction scanBody quote stop t generalizing body with
  | case1 => cases h
  | case2 c rest left' hquote =>
    simp only [hquote, Option.some.injEq, Prod.mk.injEq] at h
    rw [← h.1, ← h.2, List.nil_append]
    exact eq_append_of_dropStart? hquote
  | case3 hnone => simp [hnone] at h
  | case4 d rest' hnone ih =>
    simp [hnone] at h
    obtain ⟨inner, hinner, rfl⟩ := h
    rw [ih hinner]
    rfl
  | case5 c rest hnone hc hstop => simp [hnone, hc, hstop] at h
  | case6 c rest hnone hc hstop ih =>
    simp [hnone, hc, hstop] at h
    obtain ⟨inner, hinner, rfl⟩ := h
    rw [ih hinner]
    rfl

end LocaleGen.Text

namespace LocaleGen.Python
open Text

/-! ## Tokens that are no literals -/

def Token.isQuoted (token : Token) : Bool :=
  match token with
  | .quoted _ => true
  | _ => false

theorem wholeNumber_isQuoted {digits : Text} {token : Token} (h : wholeNumber digits = some token) :
    token.isQuoted = false := by
  unfold wholeNumber at h
  dsimp only at h
  split at h
  · cases h
    rfl
  · split at h <;> cases h
    rfl

theorem readBased_isQuoted {base : Nat} {isDigit : CodePoint → Bool} {t left : Text} {token : Token}
    (h : readBased base isDigit t = some (token, left)) : token.isQuoted = false := by
  simp only [readBased, Option.bind_eq_bind, Option.bind_eq_some_iff, Option.some.injEq,
    Prod.mk.injEq,
    Prod.exists] at h
  obtain ⟨-, -, -, -, -, -, -, n, -, rfl, -⟩ := h
  rfl

theorem finishNumber_isQuoted {digits t left : Text} {token : Token}
    (h : finishNumber digits t = some (token, left)) : token.isQuoted = false := by
  simp only [finishNumber, Option.bind_eq_bind, Option.bind_eq_some_iff] at h
  obtain ⟨fraction, -, exponent, -, hrest⟩ := h
  have hwhole : ∀ {left' : Text}, (wholeNumber digits).map (fun token => (token, left')) =
    some (token, left) →
      token.isQuoted = false := by
    intro left' hmap
    obtain ⟨found, hfound, hpair⟩ := Option.map_eq_some_iff.mp hmap
    cases hpair
    exact wholeNumber_isQuoted hfound
  have hguard : ∀ {r : Option (Token × Text)},
      (r.bind fun x => (guard (endsNumber x.2 = true) : Option Unit).bind fun _ =>
        some (x.1, x.2)) = some (token, left) →
      r = some (token, left) := by
    intro r hr
    obtain ⟨x, rfl, hx⟩ := Option.bind_eq_some_iff.mp hr
    obtain ⟨-, -, hpair⟩ := Option.bind_eq_some_iff.mp hx
    exact hpair
  split at hrest
  · split at hrest
    · cases hguard hrest
      rfl
    · split at hrest
      · cases hguard hrest
        rfl
      · exact hwhole (hguard hrest)
  · split at hrest
    · cases hguard hrest
      rfl
    · exact hwhole (hguard hrest)

theorem readNumber_isQuoted {t left : Text} {token : Token}
    (h : readNumber t = some (token, left)) : token.isQuoted = false := by
  unfold readNumber at h
  split at h
  · exact readBased_isQuoted h
  · split at h
    · cases h
    · split at h
      · simp only [Option.bind_eq_bind, Option.bind_eq_some_iff] at h
        obtain ⟨_, _, hfinish⟩ := h
        exact finishNumber_isQuoted hfinish
      · exact finishNumber_isQuoted h

theorem readWord_isQuoted {t left : Text} {token : Token} (h : readWord t = some (token, left)) :
    token.isQuoted = false := by
  have hall : ∀ keyword ∈ keywordTokens, keyword.2.isQuoted = false := by decide
  unfold readWord at h
  dsimp only at h
  split at h
  · have hpair := (Prod.mk.inj (Option.some.inj h)).1
    rw [← hpair]
    cases hfind : keywordTokens.find? fun keyword => ofString keyword.1 =
      t.takeWhile isWordPart with
    | none => rfl
    | some keyword => exact hall keyword (List.mem_of_find?_eq_some hfind)
  · cases h

theorem readSymbol_isQuoted {t left : Text} {token : Token}
    (h : readSymbol t = some (token, left)) : token.isQuoted = false := by
  have hall : ∀ entry ∈ symbolTokens, entry.2.isQuoted = false := by decide
  obtain ⟨entry, hmem, hentry⟩ := List.exists_of_findSome?_eq_some h
  obtain ⟨_, _, hpair⟩ := Option.map_eq_some_iff.mp hentry
  cases hpair
  exact hall entry hmem

/-- A literal among the tokens is one that `readQuoted` has read. -/
theorem readQuoted_of_readToken {t left : Text} {q : Quoted}
    (h : readToken t = some (.quoted q, left)) : readQuoted t = some (q, left) := by
  unfold readToken at h
  split at h
  · next hq =>
    cases h
    exact hq
  · exfalso
    split at h
    · cases readNumber_isQuoted h
    · split at h
      · cases readWord_isQuoted h
      · cases readSymbol_isQuoted h

/-! ## Literals in a row -/

/-- How much of a text the literals take up at least that its tokens start with: their bodies and a
quote on either side of each. -/
def runExtent (ts : List Token) : Nat := ((quotedRun ts).1.map fun q => q.body.length + 2).sum

theorem runExtent_quoted (q : Quoted) (ts : List Token) :
    runExtent (.quoted q :: ts) = q.body.length + 2 + runExtent ts := by
  simp [runExtent, quotedRun]

theorem runExtent_other {token : Token} (h : token.isQuoted = false) (ts : List Token) :
    runExtent (token :: ts) = 0 := by
  cases token <;> first | rfl | cases h

theorem eq_append_of_quote? {t quote rest : Text} (h : quote? t = some (quote, rest)) :
    t = quote ++ rest ∧ 1 ≤ quote.length := by
  cases t with
  | nil => cases h
  | cons c t =>
    rw [quote?] at h
    split at h
    · split at h
      · next left hthree =>
        cases h
        exact ⟨congrArg (c :: ·) (eq_append_of_dropStart? hthree), by simp⟩
      · cases h
        exact ⟨rfl, by simp⟩
    · cases h

theorem parts_of_readQuoted {t left : Text} {q : Quoted} (h : readQuoted t = some (q, left)) :
    ∃ quote : Text, quote? (t.dropWhile isPrefixLetter) =
      some (quote, q.body ++ (quote ++ left)) := by
  simp only [readQuoted, Option.bind_eq_bind, Option.bind_eq_some_iff, Prod.exists] at h
  obtain ⟨flags, -, quote, rest, hquote, body, left', hbody, hq⟩ := h
  cases hq
  exact ⟨quote, by rw [hquote, eq_append_of_scanBody hbody]⟩

theorem readQuoted_extent {t left : Text} {q : Quoted} (h : readQuoted t = some (q, left)) :
    q.body.length + 2 + left.length ≤ t.length := by
  obtain ⟨quote, hquote⟩ := parts_of_readQuoted h
  obtain ⟨hdrop, hlen⟩ := eq_append_of_quote? hquote
  have hle := (List.dropWhile_sublist (l := t) isPrefixLetter).length_le
  rw [hdrop] at hle
  simp only [List.length_append] at hle
  omega

/-- The literals that the tokens of a text start with have room in it. -/
theorem tokensWithin_extent {fuel depth : Nat} {t : Text} {ts : List Token}
    (h : tokensWithin fuel depth t = some ts) : runExtent ts ≤ t.length := by
  fun_induction tokensWithin fuel depth t generalizing ts with
  | case4 _ _ _ _ _ ih | case8 _ _ _ _ _ _ ih => exact (ih h).trans (by simp)
  | case5 _ _ rest _ ih =>
    have hle :=
      (List.dropWhile_sublist (l := rest) fun d => decide (d ≠ CodePoint.ofChar '\n')).length_le
    exact (ih h).trans (hle.trans (by simp))
  | case9 _ _ _ _ _ _ _ ih => exact (ih h).trans (by simp)
  | case1 | case6 =>
    cases h
    exact Nat.zero_le _
  | case2 | case3 | case7 | case10 | case11 | case12 => cases h
  | case13 _ _ c rest _ _ _ _ token left hread ih =>
    simp only [Option.bind_eq_bind, Option.bind_eq_some_iff, Option.some.injEq] at h
    obtain ⟨_, -, rest', hrest, rfl⟩ := h
    cases hq : token.isQuoted with
    | false => simp [runExtent_other hq]
    | true =>
      obtain ⟨q, rfl⟩ : ∃ q, token = .quoted q := by
        cases token <;> first | exact ⟨_, rfl⟩ | cases hq
      have hextent := readQuoted_extent (readQuoted_of_readToken hread)
      have hmore := ih _ hrest
      rw [runExtent_quoted]
      omega

/-! ## What literals stand for -/

theorem length_readEscape {t piece left : Text} (h : readEscape t = some (piece, left)) :
    piece.length + left.length ≤ t.length + 1 := by
  cases t with
  | nil =>
    cases h
    rfl
  | cons c rest =>
    simp only [readEscape] at h
    split at h
    · cases h
      simp
      omega
    · obtain ⟨pair, hpair, heq⟩ := Option.map_eq_some_iff.mp h
      cases heq
      have hleft : pair.2.length ≤ rest.length := by
        unfold hexPoint? at hpair
        split at hpair
        · split at hpair
          · split at hpair
            · cases hpair
              simp
            · cases hpair
          · cases hpair
        · cases hpair
      simp
      omega
    · split at h
      · cases h
        simp
        omega
      · split at h
        · cases h
        · split at h
          · cases h
            simp
            omega
          · cases h
            simp
            omega

/-- A literal of text stands for no more than its body. -/
theorem length_text?_le {q : Quoted} {v : Text} (h : q.text? = some v) :
    v.length ≤ q.body.length := by
  unfold Quoted.text? at h
  split at h
  · cases h
  · split at h
    · cases h
      rfl
    · exact length_unescapeWithin_le length_readEscape h

theorem length_flatten_le {run : List Quoted} {texts : List Text}
    (h : run.mapM Quoted.text? = some texts) :
    texts.flatten.length ≤ (run.map fun q => q.body.length).sum := by
  induction run generalizing texts with
  | nil =>
    cases h
    rfl
  | cons q run ih =>
    simp only [List.mapM_cons, Option.bind_eq_bind, Option.bind_eq_some_iff] at h
    obtain ⟨v, hv, rest, hrest, heq⟩ := h
    cases heq
    have hfirst := length_text?_le hv
    have hmore := ih hrest
    simp only [List.flatten_cons, List.length_append, List.map_cons, List.sum_cons]
    omega

/-- Literals that take up room in a text that is there are less than the text. -/
theorem bodies_lt {run : List Quoted} {n : Nat}
    (hrun : (run.map fun q => q.body.length + 2).sum ≤ n) (hn : 0 < n) :
    (run.map fun q => q.body.length).sum < n := by
  cases run with
  | nil => simpa using hn
  | cons q run =>
    have hle : (run.map fun q => q.body.length).sum ≤ (run.map fun q => q.body.length + 2).sum :=
      List.sum_le_sum fun q _ => Nat.le_add_right _ _
    simp only [List.map_cons, List.sum_cons] at hrun ⊢
    omega

end LocaleGen.Python
