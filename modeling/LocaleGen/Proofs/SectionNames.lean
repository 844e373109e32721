import LocaleGen.Proofs.CaseMapping
import LocaleGen.Proofs.Lexis
import LocaleGen.Proofs.Naming
import Mathlib

/-!
# Names of sections

A type name starts with what is its own upper case (`exists_upper_typeOf`), so a field name has lost
nothing but what the lower case of such a character loses. Two type names that differ have the same
field name just if they are `CaseTwins`: `nodup_fieldNames_iff`.
-/

namespace LocaleGen

open Text CodePoint

namespace Naming

variable {rules : Rules} {keys : List Text} {ns : List SectionNames} {n m : SectionNames}

/-! ## Type names -/

theorem adjusted_cons (reserved : List Text) (c : CodePoint) (rest : Text) :
    adjusted reserved (c :: rest) =
      c :: if isReserved reserved (c :: rest) then rest ++ sectionSuffix else rest := by
  unfold adjusted
  split <;> rfl

/-- What a type name starts with is what the upper case of a character starts with. -/
theorem exists_head_typeOf (rules : Rules) {key : Text} (hne : key ≠ []) :
    ∃ (c h : CodePoint) (more rest : Text), c.upper = h :: more ∧
    typeOf rules key = h :: (more ++ rest) := by
  obtain ⟨c, tail, rfl⟩ := List.exists_cons_of_ne_nil hne
  obtain ⟨h, more, hupper⟩ := List.exists_cons_of_ne_nil (upper_ne_nil c)
  obtain ⟨rest, hrest⟩ : ∃ rest, adjusted rules.reserved (c :: tail) = c :: rest :=
    ⟨_, adjusted_cons _ c tail⟩
  refine ⟨c, h, more, rest, hupper, ?_⟩
  rw [typeOf, hrest, upperFirst, hupper, List.cons_append]

theorem exists_upper_typeOf (rules : Rules) {key : Text} (hne : key ≠ []) :
    ∃ (h : CodePoint) (rest : Text), typeOf rules key = h :: rest ∧ h.upper = [h] := by
  obtain ⟨c, h, more, rest, hupper, htype⟩ := exists_head_typeOf rules hne
  exact ⟨h, more ++ rest, htype, upper_of_head hupper⟩

theorem names_of_mem (h : resolveSections rules keys = .ok ns) (hn : n ∈ ns) :
    n.key ≠ [] ∧ n = ⟨n.key, typeOf rules n.key, (typeOf rules n.key).lowerFirst⟩ ∧
      rules.isTypeName n.typeName = true ∧ rules.isIdentifier n.fieldName = true := by
  obtain ⟨key, -, hkey⟩ := exists_of_mem_left (resolveSectionsAfter_eq_ok h).flip hn
  obtain ⟨hne, heq, hallowed⟩ := sectionNames_eq_ok hkey
  rw [heq] at hallowed ⊢
  exact ⟨hne, rfl, hallowed⟩

theorem types_of_resolveSections (h : resolveSections rules keys = .ok ns) :
    ns.map SectionNames.typeName = keys.map (typeOf rules) := by
  rw [← List.forall₂_eq_eq_eq, List.forall₂_map_left_iff, List.forall₂_map_right_iff]
  refine (resolveSectionsAfter_eq_ok h).flip.imp fun n key hn => ?_
  rw [(sectionNames_eq_ok hn).2.1]

/-! ## Field names -/

/-- Two type names that differ and have the same field name: the first starts with a sign and the
second with the letter that it stands for, or the first with a dotted I and the second with an I and
a dot. -/
inductive CaseTwins : Text → Text → Prop
  | sign {sign letter : CodePoint} {rest : Text} :
      (sign, letter) ∈ signs → CaseTwins (sign :: rest) (letter :: rest)
  | dotted {rest : Text} : CaseTwins (dottedI :: rest) (ofChar 'I' :: dotAbove :: rest)

theorem CaseTwins.lowerFirst_eq {t u : Text} (h : CaseTwins t u) :
    t ≠ u ∧ t.lowerFirst = u.lowerFirst := by
  cases h with
  | @sign sign letter rest hsign =>
    obtain ⟨hlower, -, -, -, hletter, -⟩ := sign_spec _ hsign
    refine ⟨?_, by rw [lowerFirst_cons, lowerFirst_cons, hlower]⟩
    rintro heq
    cases heq
    exact hletter (List.mem_map_of_mem (f := Prod.fst) hsign)
  | dotted =>
    refine ⟨?_, ?_⟩
    · intro heq
      exact absurd (List.cons.inj heq).1 (by decide)
    · rw [lowerFirst_cons, lowerFirst_cons, lower_dottedI.1, lower_dottedI.2.1]
      rfl

theorem eq_of_lower_eq_i {c : CodePoint} (hc : c.upper = [c]) (hdotted : c ≠ dottedI)
    (h : c.lower = [ofChar 'i']) : c = 'I' := by
  obtain ⟨-, hlower, hupper⟩ := lower_dottedI
  rcases eq_of_lower_eq hc hupper hdotted (by decide) (h.trans hlower.symm) with heq | hsign | hsign
  · exact heq
  · exact absurd (List.mem_map_of_mem (f := Prod.snd) hsign)
      (by decide : ofChar 'I' ∉ signs.map Prod.snd)
  · exact absurd (List.mem_map_of_mem (f := Prod.fst) hsign)
      (by decide : ofChar 'I' ∉ signs.map Prod.fst)

theorem caseTwins_of_dotted {c : CodePoint} {rest rest' : Text} (hc : c.upper = [c])
    (hdotted : c ≠ dottedI) (h : dottedI.lower ++ rest = c.lower ++ rest') :
    CaseTwins (dottedI :: rest) (c :: rest') := by
  obtain ⟨b, l, lowers⟩ := exists_lowersTo hc hdotted
  rw [lower_dottedI.1, lowers.lower] at h
  simp only [List.cons_append, List.nil_append, List.cons.injEq] at h
  obtain ⟨rfl, rfl⟩ := h
  rw [eq_of_lower_eq_i hc hdotted lowers.lower]
  exact .dotted

/-- Two texts that start with an upper case and have the same field name. -/
theorem caseTwins_of_lowerFirst_eq {c g : CodePoint} {rest rest' : Text} (hc : c.upper = [c])
    (hg : g.upper = [g]) (h : lowerFirst (c :: rest) = lowerFirst (g :: rest')) :
    c :: rest = g :: rest' ∨ CaseTwins (c :: rest) (g :: rest') ∨
    CaseTwins (g :: rest') (c :: rest) := by
  rw [lowerFirst_cons, lowerFirst_cons] at h
  by_cases hcDotted : c = dottedI <;> by_cases hgDotted : g = dottedI
  · subst hcDotted hgDotted
    exact .inl (by rw [List.append_cancel_left h])
  · subst hcDotted
    exact .inr (.inl (caseTwins_of_dotted hg hgDotted h))
  · subst hgDotted
    exact .inr (.inr (caseTwins_of_dotted hc hcDotted h.symm))
  · obtain ⟨b, l, lowers⟩ := exists_lowersTo hc hcDotted
    obtain ⟨b', l', lowers'⟩ := exists_lowersTo hg hgDotted
    rw [lowers.lower, lowers'.lower] at h
    obtain ⟨rfl, rfl⟩ := List.cons.inj h
    rcases eq_of_lower_eq hc hg hcDotted hgDotted (lowers.lower.trans lowers'.lower.symm) with
      rfl | hsign | hsign
    · exact .inl rfl
    · exact .inr (.inl (.sign hsign))
    · exact .inr (.inr (.sign hsign))

/-- The field names of sections are different unless two of the type names are twins. -/
theorem nodup_fieldNames_iff (h : resolveSections rules keys = .ok ns) :
    (ns.map SectionNames.fieldName).Nodup ↔
    ∀ n ∈ ns, ∀ m ∈ ns, ¬ CaseTwins n.typeName m.typeName := by
  have hfield : ∀ n ∈ ns, n.fieldName = n.typeName.lowerFirst := by
    intro n hn
    rw [(names_of_mem h hn).2.1]
  constructor
  · intro hdistinct n hn m hm htwins
    obtain ⟨hne, hsame⟩ := htwins.lowerFirst_eq
    rw [← hfield n hn, ← hfield m hm] at hsame
    exact hne (by rw [List.inj_on_of_nodup_map hdistinct hn hm hsame])
  · intro hnone
    have hdistinct : (ns.map SectionNames.typeName).Nodup := by
      rw [types_of_resolveSections h]
      exact (nodup_of_resolveSectionsAfter h).1
    refine hdistinct.of_map.map_on fun n hn m hm hsame => ?_
    obtain ⟨c, rest, htype, hc⟩ := exists_upper_typeOf rules (names_of_mem h hn).1
    obtain ⟨g, rest', htype', hg⟩ := exists_upper_typeOf rules (names_of_mem h hm).1
    replace htype : n.typeName = c :: rest := by rw [(names_of_mem h hn).2.1, htype]
    replace htype' : m.typeName = g :: rest' := by rw [(names_of_mem h hm).2.1, htype']
    rw [hfield n hn, hfield m hm, htype, htype'] at hsame
    rcases caseTwins_of_lowerFirst_eq hc hg hsame with heq | htwins | htwins
    · exact List.inj_on_of_nodup_map hdistinct hn hm (by rw [htype, htype', heq])
    · exact absurd (htype ▸ htype' ▸ htwins) (hnone n hn m hm)
    · exact absurd (htype ▸ htype' ▸ htwins) (hnone m hm n hn)

/-- No type name of ASCII has a twin. -/
theorem not_caseTwins_of_isIdentifier {t u : Text} (h : Dart.isIdentifier t = true) :
    ¬ CaseTwins t u := by
  obtain ⟨-, hparts⟩ := Dart.all_of_isIdentifier h
  have hhead : ∀ c ∈ dottedI :: signs.map Prod.fst, Dart.isIdentifierPart c = false := by decide
  intro htwins
  cases htwins with
  | @sign sign letter rest hsign =>
    have hpart := List.all_eq_true.mp hparts sign List.mem_cons_self
    have hnot := hhead sign (List.mem_cons_of_mem _ (List.mem_map_of_mem (f := Prod.fst) hsign))
    cases hpart.symm.trans hnot
  | dotted =>
    have hpart := List.all_eq_true.mp hparts dottedI List.mem_cons_self
    cases hpart.symm.trans (hhead dottedI List.mem_cons_self)

/-- The facade has the fields that the section keys are given, and these are different unless two
type names are twins, which is never so where identifiers are ASCII. -/
theorem resolveSections_fields {target : Target}
    (h : resolveSections target.namingRules keys = .ok ns) :
    (∀ document : Document, document.sections.keys = keys → Artifact.localization target document =
      .ok (target.spell (.localizationClass (ns.map fun n => (n.fieldName, n.typeName))))) ∧
    ((ns.map SectionNames.fieldName).Nodup ↔
      ∀ n ∈ ns, ∀ m ∈ ns, ¬ CaseTwins n.typeName m.typeName) ∧
    (target = .dart → (ns.map SectionNames.fieldName).Nodup) := by
  refine ⟨fun document hkeys => ?_, nodup_fieldNames_iff h, ?_⟩
  · rw [Artifact.localization, Artifact.sectionNames, hkeys, h]
    rfl
  · rintro rfl
    exact (nodup_fieldNames_iff h).mpr fun n hn m _ =>
      not_caseTwins_of_isIdentifier (names_of_mem h hn).2.2.1

theorem resolveSections_fields_login :
    ∃ ns, resolveSections Target.dart.namingRules (words ["login", "general"]) = .ok ns ∧
    (ns.map SectionNames.fieldName).Nodup := by
  have hok : resolveSections Target.dart.namingRules (words ["login", "general"]) =
      .ok [⟨"login", "Login", "login"⟩, ⟨"general", "General", "general"⟩] := by decide +kernel
  exact ⟨_, hok, (resolveSections_fields hok).2.2 rfl⟩

/-- The letter k and the sign of kelvin lead to two types with one field. -/
theorem fieldName_kelvin :
    ∃ ns, resolveSections Target.python.namingRules (words ["k", "\u212A"]) = .ok ns ∧
    ns.map SectionNames.typeName = words ["K", "\u212A"] ∧
    ns.map SectionNames.fieldName = words ["k", "k"] := by
  have hok : resolveSections Target.python.namingRules (words ["k", "\u212A"]) =
      .ok [⟨"k", "K", "k"⟩, ⟨"\u212A", "\u212A", "k"⟩] := by decide +kernel
  exact ⟨_, hok, rfl, rfl⟩

end Naming

end LocaleGen
