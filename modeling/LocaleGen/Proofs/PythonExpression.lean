import LocaleGen.Dialect.PythonExpression
import Mathlib

/-!
# Python expressions that are texts

One literal of text is an expression and stands for its text (`expression_quoted`). Conversely an
expression that starts with a literal is a text only if it is nothing but literals in a row
(`parseTokens_text`): whatever else may follow the first literal makes something else of it.
-/

namespace LocaleGen.Python

open Text

/-! ## A literal by itself -/

theorem joined_singleton (expression : Reader Expr) {q : Quoted} {v : Text} (h : q.text? = some v) :
    joined expression [q] = some (.text v) := by
  have hplain : q.flags.bytes = false ∧ q.flags.format = false := by
    rw [Quoted.text?] at h
    split at h
    · cases h
    · next hf => simpa using hf
  simp [joined, hplain.1, hplain.2, h]

theorem expression_quoted (n : Nat) {q : Quoted} {v : Text} (h : q.text? = some v) :
    (level (n + 1)).expression [.quoted q] = some (.text v, []) := by
  have hatom : (level n).atom [.quoted q] = some (.text v, []) := by
    simp [Level.atom, quotedRun, joined_singleton _ h]
  have hprimary : (level n).primary [.quoted q] = some ((.text v, .atom), []) := by
    simp [Level.primary, hatom, Level.trailers]
  have hoperand : (level n).operand [.quoted q] = some (.text v, []) := by
    simp [Level.operand, Level.isSign, hprimary, Level.withSigns]
  have harithmetic : (level n).arithmeticOf [.quoted q] = some (.text v, []) := by
    simp [Level.arithmeticOf, hoperand, Level.operations, Level.withOperations]
  have hdisjunction : (level n).disjunctionOf [.quoted q] = some (.text v, []) := by
    simp [Level.disjunctionOf, harithmetic, Level.relations, Level.comparison?, isNext]
  show (level n).expressionOf [.quoted q] = _
  simp [Level.expressionOf, hdisjunction]

/-! ## Expressions that are texts -/

theorem called_ne_text (e : Expr) (bare : Bool) (v : Text) : Level.called e bare ≠ .text v := by
  cases e <;> simp only [Level.called] <;> try split
  all_goals exact Expr.noConfusion

/-- No text has members, subscripts or calls after it. -/
theorem trailers_text {l : Level} {fuel : Nat} {e : Expr} {ending ending' : Ending}
    {ts rest : List Token} {v : Text} (h : l.trailers fuel e ending ts =
      some ((.text v, ending'), rest)) : e = .text v := by
  induction fuel generalizing e ending ts with
  | zero => cases h
  | succ fuel ih =>
    unfold Level.trailers at h
    split at h
    · cases ih h
    · simp only [Option.bind_eq_bind, Option.bind_eq_some_iff] at h
      obtain ⟨_, _, h⟩ := h
      cases ih h
    · simp only [Option.bind_eq_bind, Option.bind_eq_some_iff] at h
      obtain ⟨_, _, h⟩ := h
      exact absurd (ih h) (called_ne_text _ _ _)
    · cases h
      rfl

/-- Literals next to each other are a text if each of them is one. -/
theorem joined_text {expression : Reader Expr} {run : List Quoted} {v : Text}
    (h : joined expression run = some (.text v)) :
    ∃ texts, run.mapM Quoted.text? = some texts ∧ texts.flatten = v := by
  unfold joined at h
  split at h
  · split at h <;> cases h
  · split at h
    · split at h <;> cases h
    · obtain ⟨texts, htexts, hv⟩ := Option.map_eq_some_iff.mp h
      cases hv
      exact ⟨texts, htexts, rfl⟩

variable {l : Level} {q : Quoted} {ts rest : List Token} {v : Text}

theorem primary_text {ending : Ending}
    (h : l.primary (.quoted q :: ts) = some ((.text v, ending), rest)) :
    joined l.expression (quotedRun (.quoted q :: ts)).1 = some (.text v) := by
  simp only [Level.primary, Option.bind_eq_bind, Option.bind_eq_some_iff, Prod.exists] at h
  obtain ⟨e, after, hatom, htrailers⟩ := h
  cases trailers_text htrailers
  obtain ⟨e, he, hpair⟩ := Option.map_eq_some_iff.mp hatom
  cases hpair
  exact he

theorem operand_text (h : l.operand (.quoted q :: ts) = some (.text v, rest)) :
    joined l.expression (quotedRun (.quoted q :: ts)).1 = some (.text v) := by
  have hsign : Level.isSign (.quoted q) = false := rfl
  simp only [Level.operand, List.takeWhile_cons, List.dropWhile_cons, hsign,
    Bool.false_eq_true, if_false,
    Level.withSigns, Option.map_eq_some_iff, Prod.mk.injEq, Prod.exists] at h
  obtain ⟨_, _, _, hprimary, rfl, rfl⟩ := h
  exact primary_text hprimary

theorem withOperations_text {e : Expr} {ops : List (Token × Expr)}
    (h : Level.withOperations e ops = .text v) : e = .text v := by
  unfold Level.withOperations at h
  split at h
  · exact h
  all_goals cases h

theorem arithmeticOf_text (h : l.arithmeticOf (.quoted q :: ts) = some (.text v, rest)) :
    joined l.expression (quotedRun (.quoted q :: ts)).1 = some (.text v) := by
  simp only [Level.arithmeticOf, Option.bind_eq_bind, Option.bind_eq_some_iff, Prod.exists,
    Option.some.injEq,
    Prod.mk.injEq] at h
  obtain ⟨e, after, hoperand, ops, _, -, he, -⟩ := h
  rw [withOperations_text he] at hoperand
  exact operand_text hoperand

theorem disjunctionOf_text (h : l.disjunctionOf (.quoted q :: ts) = some (.text v, rest)) :
    joined l.expression (quotedRun (.quoted q :: ts)).1 = some (.text v) := by
  simp only [Level.disjunctionOf, Option.bind_eq_bind, Option.bind_eq_some_iff, Prod.exists,
    Option.some.injEq,
    Prod.mk.injEq] at h
  obtain ⟨e, after, harithmetic, more, _, -, he, -⟩ := h
  split at he
  · cases he
  · rw [he] at harithmetic
    exact arithmeticOf_text harithmetic

/-- An expression that starts with a literal and is a text is the literals that it starts with. -/
theorem expressionOf_text (h : l.expressionOf (.quoted q :: ts) = some (.text v, rest)) :
    joined l.expression (quotedRun (.quoted q :: ts)).1 = some (.text v) := by
  simp only [Level.expressionOf, Option.bind_eq_bind, Option.bind_eq_some_iff, Prod.exists] at h
  obtain ⟨e, after, hdisjunction, h⟩ := h
  split at h
  · simp only [Option.bind_eq_some_iff, Option.some.injEq, Prod.mk.injEq, reduceCtorEq,
      false_and, and_false,
      exists_false] at h
  · cases h
    exact disjunctionOf_text hdisjunction

theorem parseTokens_text {n : Nat} (h : parseTokens (level n) (.quoted q :: ts) = some (.text v)) :
    ∃ texts, (quotedRun (.quoted q :: ts)).1.mapM Quoted.text? = some texts ∧
    texts.flatten = v := by
  simp only [parseTokens, Option.bind_eq_bind, Option.bind_eq_some_iff, Prod.exists] at h
  obtain ⟨first, after, hfirst, h⟩ := h
  split at h
  · cases h
    cases n with
    | zero => cases hfirst
    | succ n => exact joined_text (expressionOf_text hfirst)
  · cases h
  · simp only [Option.bind_eq_some_iff, Prod.exists] at h
    obtain ⟨_, _, _, -, h⟩ := h
    split at h <;> cases h
  · cases h

end LocaleGen.Python
