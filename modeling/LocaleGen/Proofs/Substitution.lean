import LocaleGen.Dialect.Target
import LocaleGen.Proofs.Escaping
import LocaleGen.Proofs.Result
import Mathlib

/-!
# Escaping as a substitution

A table is applied entry by entry, and each replacement goes over what the earlier ones have brought
in. If no entry brings in what a later one replaces, and the entries replace distinct characters
(`EscapeRules.IsSeparate`), nothing that has been brought in is replaced again. Then the table does
to a text what `EscapeRules.substitute` does, which looks up every character by itself:
`EscapeRules.applyTable_eq_substitute`. With the search for a forbidden character this is
`EscapeRules.escape_is_substitution`.
-/

namespace LocaleGen.EscapeRules

/-! ## Looking characters up -/

def listed (table : List (Text × Text)) (c : CodePoint) : Text := (table.lookup [c]).getD [c]

def substitute (table : List (Text × Text)) (t : Text) : Text := t.flatMap (listed table)

/-- The entries replace distinct characters, and what one of them brings in holds none that a later
one replaces. -/
structure IsSeparate (table : List (Text × Text)) : Prop where
  charwise : IsCharwise table
  distinct : (table.map Prod.fst).Nodup
  apart : table.Pairwise fun entry later => ¬ later.1 <:+: entry.2

variable {table : List (Text × Text)} {entry : Text × Text} {rules : EscapeRules} {t : Text}

theorem isSeparate_iff : IsSeparate table ↔
    IsCharwise table ∧ (table.map Prod.fst).Nodup ∧ table.Pairwise fun entry later =>
      ¬ later.1 <:+: entry.2 :=
  ⟨fun h => ⟨h.charwise, h.distinct, h.apart⟩, fun h => ⟨h.1, h.2.1, h.2.2⟩⟩

instance (table : List (Text × Text)) : Decidable (IsSeparate table) :=
  decidable_of_iff _ isSeparate_iff.symm

theorem IsSeparate.tail (h : IsSeparate (entry :: table)) : IsSeparate table where
  charwise := fun later hlater => h.charwise later (List.mem_cons_of_mem _ hlater)
  distinct := (List.nodup_cons.mp h.distinct).2
  apart := (List.pairwise_cons.mp h.apart).2

/-- A text without a character that the table replaces stays. -/
theorem applyTable_of_unlisted (h : IsCharwise table) (hnone : ∀ c ∈ t, [c] ∉ table.map Prod.fst) :
    applyTable table t = t := by
  rw [applyTable_eq_flatMap h]
  calc t.flatMap (fun c => applyTable table [c]) = t.flatMap fun c => [c] :=
        List.flatMap_congr fun c hc => applyTable_unlisted h (hnone c hc)
    _ = t := List.flatMap_singleton' t

/-- What an entry brings in is left alone by the entries after it. -/
theorem IsSeparate.applyTable_image (h : IsSeparate (entry :: table)) :
    applyTable table entry.2 = entry.2 := by
  refine applyTable_of_unlisted h.tail.charwise fun c hc hlisted => ?_
  obtain ⟨later, hlater, hsource⟩ := List.mem_map.mp hlisted
  refine (List.pairwise_cons.mp h.apart).1 later hlater ?_
  obtain ⟨before, after, himage⟩ := List.append_of_mem hc
  rw [hsource, himage]
  exact ⟨before, after, by rw [List.append_assoc, List.singleton_append]⟩

/-- A character goes through the table unchanged up to its own entry, and what that brings in goes
through the rest. -/
theorem applyTable_singleton (h : IsSeparate table) (c : CodePoint) :
    applyTable table [c] = listed table c := by
  induction table with
  | nil => rfl
  | cons entry table ih =>
    obtain ⟨source, image⟩ := entry
    obtain ⟨d, rfl⟩ := List.length_eq_one_iff.mp (h.charwise _ List.mem_cons_self)
    rw [applyTable, List.foldl_cons, Text.replaceAll_singleton, Text.replace,
      List.flatMap_singleton, listed, List.lookup_cons]
    by_cases hc : c = d
    · rw [if_pos hc, hc, beq_self_eq_true]
      exact h.applyTable_image
    · have hne : ([c] == [d]) = false := by simpa using hc
      rw [if_neg hc, hne]
      exact ih h.tail

/-- One replacement after the other comes to replacing every character by itself. -/
theorem applyTable_eq_substitute (h : IsSeparate table) (t : Text) :
    applyTable table t = substitute table t := by
  rw [applyTable_eq_flatMap h.charwise]
  exact List.flatMap_congr fun c _ => applyTable_singleton h c

/-- Where an entry brings in what a later one replaces, the two are not the same. -/
example : applyTable [("a", "b"), ("b", "c")] "ab" = "cc" ∧
    substitute [("a", "b"), ("b", "c")] "ab" = "bc" := by decide

theorem applyEncoding_nil (t : Text) : applyEncoding [] t = t := List.flatMap_singleton' t

/-! ## Texts in a row -/

def behind (n : Nat) (e : Cause) : Cause :=
  match e with
  | .unembeddable c position => .unembeddable c (n + position)
  | e => e

/-- What two results come to in a row. -/
def inARow (x y : Except Cause Text) : Except Cause Text := do
  let t ← x
  let u ← y.mapError (behind t.length)
  .ok (t ++ u)

theorem refuseForbidden_append (forbidden : CodePoint.Ranges) (t u : Text) :
    refuseForbidden forbidden (t ++ u) = inARow (refuseForbidden forbidden t)
    (refuseForbidden forbidden u) := by
  rcases allowed_or_breaksOff forbidden t with ht | ⟨before, c, ht⟩
  · rw [refuseForbidden_eq_ok ht]
    rcases allowed_or_breaksOff forbidden u with hu | ⟨before, c, hu⟩
    · rw [refuseForbidden_eq_ok hu, refuseForbidden_eq_ok (List.forall_mem_append.mpr ⟨ht, hu⟩)]
      rfl
    · rw [refuseForbidden_of_breaksOff hu, refuseForbidden_of_breaksOff (hu.prepend ht),
        List.length_append]
      rfl
  · rw [refuseForbidden_of_breaksOff ht, refuseForbidden_of_breaksOff (ht.append u)]
    rfl

/-- Texts in a row are escaped one by one. The place of a forbidden character is counted in what all
of them become. -/
theorem escape_append (h : IsCharwise rules.table) (a b : Text) :
    rules.escape (a ++ b) = inARow (rules.escape a) (rules.escape b) := by
  show refuseForbidden rules.forbidden (rules.escaped (a ++ b)) = _
  rw [escaped_eq_flatMap h, List.flatMap_append, ← escaped_eq_flatMap h, ← escaped_eq_flatMap h]
  exact refuseForbidden_append rules.forbidden _ _

theorem isSeparate_escapeRules (target : Target) : IsSeparate target.escapeRules.table := by
  cases target <;> decide

/-! ## Escaping -/

/-- Without an encoding, a separate table escapes a text by replacing every character by itself: the
result is that, or the first forbidden character in it is reported with its place. The tables of all
targets are separate, so with them texts in a row are escaped one by one. -/
theorem escape_is_substitution :
    (∀ rules : EscapeRules, IsSeparate rules.table → rules.encoded = [] → ∀ raw,
      (∀ out, rules.escape raw = .ok out ↔
        out = substitute rules.table raw ∧ ∀ c ∈ substitute rules.table raw,
        c.within rules.forbidden = false) ∧
      ∀ e, rules.escape raw = .error e ↔
        ∃ before c, BreaksOff rules.forbidden (substitute rules.table raw) before c ∧
          e = .unembeddable c before.length ∧ e.kind = .escapeOverflow) ∧
    ∀ target : Target, IsSeparate target.escapeRules.table ∧
      ∀ a b, target.escapeRules.escape (a ++ b) = inARow (target.escapeRules.escape a)
      (target.escapeRules.escape b) := by
  constructor
  · intro rules hseparate hencoded raw
    have hescape :
        rules.escape raw = refuseForbidden rules.forbidden (substitute rules.table raw) := by
      rw [escape, hencoded, applyEncoding_nil, applyTable_eq_substitute hseparate]
    rw [hescape]
    refine ⟨fun out => refuseForbidden_eq_ok_iff, fun e => ?_⟩
    rw [refuseForbidden_eq_error_iff]
    constructor
    · rintro ⟨before, c, hbreaks, rfl⟩
      exact ⟨before, c, hbreaks, rfl, rfl⟩
    · rintro ⟨before, c, hbreaks, he, -⟩
      exact ⟨before, c, hbreaks, he⟩
  · intro target
    have hseparate := isSeparate_escapeRules target
    exact ⟨hseparate, escape_append hseparate.charwise⟩

def highSurrogate : CodePoint := ⟨0xD800, by decide⟩

theorem escape_is_substitution_dart :
    IsSeparate Dart.escapeRules.table ∧ Dart.escapeRules.encoded = [] ∧
    Dart.escapeRules.escape "\\n$\n" = .ok "\\\\n\\$\\n" ∧
    Dart.escapeRules.escape ("a\"" ++ [highSurrogate]) =
      .error (.unembeddable highSurrogate 3) := by
  have hseparate : IsSeparate Dart.escapeRules.table := by decide
  refine ⟨hseparate, rfl, ?_, ?_⟩
  · exact ((escape_is_substitution.1 _ hseparate rfl _).1 _).mpr ⟨by decide, by decide⟩
  · exact ((escape_is_substitution.1 _ hseparate rfl _).2 _).mpr
      ⟨"a\\\"", highSurrogate, ⟨by decide, by decide, by decide⟩, rfl, rfl⟩

end LocaleGen.EscapeRules
