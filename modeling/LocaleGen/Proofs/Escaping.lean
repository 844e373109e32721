import LocaleGen.Escape
import Mathlib

/-!
# Escaping character by character

A table whose entries replace single characters acts on every character by itself, whatever its
replacements bring in, as long as the result for one character is looked at as a whole:
`EscapeRules.image` is that result, the encoding included. `escaped_eq_flatMap` says that escaping a
text puts the images of its characters in a row.

What is forbidden is looked for at the end, and the first character that is (`BreaksOff`) is
reported. `escape_eq_ok` and `escape_eq_error` say when a text is refused.
-/

namespace LocaleGen

namespace Text

/-- A replacement of one character is made in every place at which it stands. -/
theorem replaceAll_singleton (c : CodePoint) (new t : Text) :
    replaceAll [c] new t = t.replace c new := by
  rw [replaceAll, if_neg (by simp)]
  induction t with
  | nil => rfl
  | cons d t ih =>
    rw [replaceFrom, replace, List.flatMap_cons]
    by_cases h : d = c
    · subst h
      simpa [replace] using ih
    · have hne : ¬ c = d := fun e => h e.symm
      simpa [replace, h, hne] using ih

theorem replace_append (c : CodePoint) (new a b : Text) :
    replace (a ++ b) c new = replace a c new ++ replace b c new :=
  List.flatMap_append

end Text

namespace EscapeRules

/-! ## Tables of single characters -/

def IsCharwise (table : List (Text × Text)) : Prop := ∀ entry ∈ table, entry.1.length = 1

instance (table : List (Text × Text)) : Decidable (IsCharwise table) :=
  inferInstanceAs (Decidable (∀ _ ∈ table, _))

theorem applyTable_append {table : List (Text × Text)} (h : IsCharwise table) (a b : Text) :
    applyTable table (a ++ b) = applyTable table a ++ applyTable table b := by
  induction table generalizing a b with
  | nil => rfl
  | cons entry table ih =>
    obtain ⟨c, hc⟩ := List.length_eq_one_iff.mp (h entry (by simp))
    have hrest := ih fun entry he => h entry (by simp [he])
    simp only [applyTable, List.foldl_cons] at hrest ⊢
    rw [hc, Text.replaceAll_singleton, Text.replace_append, hrest, ← Text.replaceAll_singleton,
      ← Text.replaceAll_singleton]

theorem applyTable_nil {table : List (Text × Text)} (h : IsCharwise table) :
    applyTable table [] = [] := by
  have := applyTable_append h [] []
  simpa using this

/-- A table of single characters acts on each character by itself. -/
theorem applyTable_eq_flatMap {table : List (Text × Text)} (h : IsCharwise table) (t : Text) :
    applyTable table t = t.flatMap fun c => applyTable table [c] := by
  induction t with
  | nil => exact applyTable_nil h
  | cons c t ih => rw [← List.singleton_append, applyTable_append h, ih]; rfl

/-- A character that no entry replaces stays. -/
theorem applyTable_unlisted {table : List (Text × Text)} (h : IsCharwise table) {c : CodePoint}
    (hc : [c] ∉ table.map Prod.fst) : applyTable table [c] = [c] := by
  induction table with
  | nil => rfl
  | cons entry table ih =>
    obtain ⟨d, hd⟩ := List.length_eq_one_iff.mp (h entry (by simp))
    have hcd : ¬ c = d := fun e => hc (by simp [hd, e])
    have hrest := ih (fun entry he => h entry (by simp [he])) fun hm => hc (by simp [hm])
    rw [applyTable, List.foldl_cons, hd, Text.replaceAll_singleton]
    simpa [Text.replace, hcd, applyTable] using hrest

/-! ## Images -/

def image (rules : EscapeRules) (c : CodePoint) : Text :=
  applyEncoding rules.encoded (applyTable rules.table [c])

def escaped (rules : EscapeRules) (raw : Text) : Text :=
  applyEncoding rules.encoded (applyTable rules.table raw)

variable {rules : EscapeRules}

theorem escaped_eq_flatMap (h : IsCharwise rules.table) (raw : Text) :
    rules.escaped raw = raw.flatMap rules.image := by
  rw [escaped, applyTable_eq_flatMap h, applyEncoding, List.flatMap_assoc]
  rfl

theorem image_unlisted (h : IsCharwise rules.table) {c : CodePoint} (hc : [c] ∉ rules.replaced) :
    rules.image c = if c.within rules.encoded then encodeChar c else [c] := by
  rw [image, applyTable_unlisted h hc, applyEncoding, List.flatMap_singleton]

/-! ## Forbidden characters -/

variable {forbidden : CodePoint.Ranges} {t u : Text}

theorem refuseForbidden_eq_ok (h : ∀ c ∈ t, c.within forbidden = false) :
    refuseForbidden forbidden t = .ok t := by
  have hdrop : t.dropWhile (fun c => !c.within forbidden) = [] := by
    rw [List.dropWhile_eq_nil_iff]
    intro c hc
    simp [h c hc]
  rw [refuseForbidden, hdrop]

def BreaksOff (forbidden : CodePoint.Ranges) (t before : Text) (c : CodePoint) : Prop :=
  before ++ [c] <+: t ∧ (∀ d ∈ before, d.within forbidden = false) ∧ c.within forbidden = true

theorem allowed_or_breaksOff (forbidden : CodePoint.Ranges) (t : Text) :
    (∀ c ∈ t, c.within forbidden = false) ∨ ∃ before c, BreaksOff forbidden t before c := by
  induction t with
  | nil => exact .inl (List.forall_mem_nil _)
  | cons d t ih =>
    cases hd : d.within forbidden with
    | true => exact .inr ⟨[], d, ⟨t, rfl⟩, List.forall_mem_nil _, hd⟩
    | false =>
      rcases ih with hall | ⟨before, c, hprefix, hbefore, hc⟩
      · exact .inl (List.forall_mem_cons.mpr ⟨hd, hall⟩)
      · exact .inr ⟨d :: before, c, List.cons_prefix_cons.mpr ⟨rfl, hprefix⟩,
          List.forall_mem_cons.mpr ⟨hd, hbefore⟩, hc⟩

theorem refuseForbidden_of_breaksOff {before : Text} {c : CodePoint}
    (h : BreaksOff forbidden t before c) :
    refuseForbidden forbidden t = .error (.unembeddable c before.length) := by
  obtain ⟨⟨after, rfl⟩, hbefore, hc⟩ := h
  have hallowed : ∀ d ∈ before, (!d.within forbidden) = true := fun d hd => by simp [hbefore d hd]
  rw [refuseForbidden, List.append_assoc, List.dropWhile_append_of_pos hallowed,
    List.takeWhile_append_of_pos hallowed]
  simp [hc]

theorem BreaksOff.mem {before : Text} {c : CodePoint}
    (h : BreaksOff forbidden t before c) : c ∈ t :=
  h.1.subset (List.mem_append_right before List.mem_cons_self)

theorem BreaksOff.append {before : Text} {c : CodePoint} (h : BreaksOff forbidden t before c)
    (u : Text) : BreaksOff forbidden (t ++ u) before c :=
  ⟨h.1.trans (List.prefix_append t u), h.2⟩

theorem BreaksOff.prepend {before : Text} {c : CodePoint} (h : BreaksOff forbidden u before c)
    (ht : ∀ d ∈ t, d.within forbidden = false) : BreaksOff forbidden (t ++ u) (t ++ before) c :=
  ⟨by rw [List.append_assoc]; exact List.prefix_append_right_inj t |>.mpr h.1,
    List.forall_mem_append.mpr ⟨ht, h.2.1⟩, h.2.2⟩

theorem refuseForbidden_eq_error {c : CodePoint} (hc : c ∈ t) (h : c.within forbidden = true) :
    ∃ d ∈ t, d.within forbidden = true ∧ ∃ place,
    refuseForbidden forbidden t = .error (.unembeddable d place) := by
  rcases allowed_or_breaksOff forbidden t with hall | ⟨before, d, hbreaks⟩
  · cases h.symm.trans (hall c hc)
  · exact ⟨d, hbreaks.mem, hbreaks.2.2, before.length, refuseForbidden_of_breaksOff hbreaks⟩

theorem refuseForbidden_eq_ok_iff {out : Text} :
    refuseForbidden forbidden t = .ok out ↔ out = t ∧ ∀ c ∈ t, c.within forbidden = false := by
  rcases allowed_or_breaksOff forbidden t with hall | ⟨before, c, hbreaks⟩
  · rw [refuseForbidden_eq_ok hall, Except.ok.injEq, eq_comm]
    exact ⟨fun h => ⟨h, hall⟩, And.left⟩
  · rw [refuseForbidden_of_breaksOff hbreaks]
    refine iff_of_false nofun fun ⟨_, hall⟩ => ?_
    exact Bool.false_ne_true ((hall c hbreaks.mem).symm.trans hbreaks.2.2)

theorem refuseForbidden_eq_error_iff {e : Cause} :
    refuseForbidden forbidden t = .error e ↔
    ∃ before c, BreaksOff forbidden t before c ∧ e = .unembeddable c before.length := by
  constructor
  · intro h
    rcases allowed_or_breaksOff forbidden t with hall | ⟨before, c, hbreaks⟩
    · cases (refuseForbidden_eq_ok hall).symm.trans h
    · cases (refuseForbidden_of_breaksOff hbreaks).symm.trans h
      exact ⟨before, c, hbreaks, rfl⟩
  · rintro ⟨before, c, hbreaks, rfl⟩
    exact refuseForbidden_of_breaksOff hbreaks

theorem escape_eq_ok {raw : Text} (h : ∀ c ∈ rules.escaped raw, c.within rules.forbidden = false) :
    rules.escape raw = .ok (rules.escaped raw) := refuseForbidden_eq_ok h

theorem escape_eq_error {raw : Text} {c : CodePoint} (hc : c ∈ rules.escaped raw)
    (h : c.within rules.forbidden = true) :
    ∃ d ∈ rules.escaped raw, d.within rules.forbidden = true ∧
      ∃ place, rules.escape raw = .error (.unembeddable d place) := refuseForbidden_eq_error hc h

end EscapeRules

end LocaleGen
