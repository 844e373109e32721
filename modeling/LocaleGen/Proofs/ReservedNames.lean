import LocaleGen.Proofs.SectionNames
import Mathlib

/-!
# Reserved words among the names of sections

Reserved words are compared by their lower case, which is ASCII. The upper case of a first character
keeps it, unless the character is a disguise, and so does the lower case of that
(`isReserved_upper_append`, `isReserved_lowerFirst`). So the names of a section are reserved words
just if the key is one whose first letters are disguised: `resolveSections_reserved`.
-/

namespace LocaleGen.Naming

open Text CodePoint

variable {reserved : List Text} {c : CodePoint} {key rest : Text}

/-! ## Words -/

def AreWords (reserved : List Text) : Prop :=
  ∀ word ∈ reserved, (∀ d ∈ word.lower, d.isAscii = true) ∧ ¬ sectionSuffix.lower <:+ word.lower

instance (reserved : List Text) : Decidable (AreWords reserved) :=
  inferInstanceAs (Decidable (∀ _ ∈ _, _))

theorem areWords_reserved (target : Target) : AreWords target.reserved := by
  cases target <;> decide +kernel

theorem isReserved_iff (hwords : AreWords reserved) {t : Text} :
    isReserved reserved t = true ↔ ∃ word ∈ reserved, t.flatMap CodePoint.lower = word.lower := by
  simp only [isReserved, List.any_eq_true, equalsIgnoringCase, beq_iff_eq]
  exact exists_congr fun word => and_congr_right fun hword => lower_eq_iff (hwords word hword).1

theorem isAscii_of_isReserved (hwords : AreWords reserved) {t : Text}
    (h : isReserved reserved t = true) : ∀ d ∈ t.flatMap CodePoint.lower, d.isAscii = true := by
  obtain ⟨word, hword, heq⟩ := (isReserved_iff hwords).mp h
  rw [heq]
  exact (hwords word hword).1

theorem isLatin_of_isReserved (hwords : AreWords reserved) {t : Text}
    (h : isReserved reserved t = true) :
    ∀ d ∈ t, d.isLatin = true := fun _ hd =>
  isLatin_of_lower fun e he =>
    isLatin_of_isAscii (isAscii_of_isReserved hwords h e (List.mem_flatMap.mpr ⟨_, hd, he⟩))

theorem isReserved_congr (hwords : AreWords reserved) {t u : Text}
    (h : t.flatMap CodePoint.lower = u.flatMap CodePoint.lower) :
    isReserved reserved t = isReserved reserved u := by
  rw [Bool.eq_iff_iff, isReserved_iff hwords, isReserved_iff hwords, h]

theorem isReserved_append_sectionSuffix (hwords : AreWords reserved) (t : Text) :
    isReserved reserved (t ++ sectionSuffix) = false := by
  rw [← Bool.not_eq_true, isReserved_iff hwords]
  rintro ⟨word, hword, heq⟩
  have hsuffix : sectionSuffix.flatMap CodePoint.lower = sectionSuffix.lower := by decide +kernel
  refine (hwords word hword).2 ?_
  rw [← heq, List.flatMap_append, hsuffix]
  exact List.suffix_append _ _

/-! ## First characters -/

/-- The first character of a key is a disguise, and with its letters the key is a reserved word. -/
inductive Disguised (reserved : List Text) : Text → Prop
  | intro {c : CodePoint} {letters rest : Text} : (c, letters) ∈ disguises →
      isReserved reserved (letters ++ rest) = true → Disguised reserved (c :: rest)

theorem isReserved_upper_append (hwords : AreWords reserved) :
    isReserved reserved (c.upper ++ rest) = true ↔
      isReserved reserved (c :: rest) = true ∨ Disguised reserved (c :: rest) := by
  have hlatin : c.isLatin = true →
      isReserved reserved (c.upper ++ rest) = isReserved reserved (c :: rest) := fun hc =>
    isReserved_congr hwords (by rw [List.flatMap_append, (latin_spec hc).2.1, List.flatMap_cons])
  have hdisguise : ∀ letters, (c, letters) ∈ disguises →
      isReserved reserved (c.upper ++ rest) = isReserved reserved (letters ++ rest) :=
        fun letters hmem =>
    isReserved_congr hwords (by rw [List.flatMap_append, (disguise_spec _ hmem).2.1, List.flatMap_append])
  constructor
  · intro h
    have hupper : ∀ d ∈ c.upper, d.isLatin = true := fun d hd =>
      isLatin_of_isReserved hwords h d (List.mem_append_left _ hd)
    rcases isLatin_or_mem_disguises hupper with hc | ⟨letters, hmem⟩
    · exact .inl (hlatin hc ▸ h)
    · exact .inr (.intro hmem (hdisguise letters hmem ▸ h))
  · rintro (h | ⟨hmem, h⟩)
    · rw [hlatin (isLatin_of_isReserved hwords h c List.mem_cons_self), h]
    · rw [hdisguise _ hmem, h]

theorem isReserved_lowerFirst (hwords : AreWords reserved) (t : Text) :
    isReserved reserved t.lowerFirst = isReserved reserved t := by
  cases t with
  | nil => rfl
  | cons c rest =>
    rw [lowerFirst_cons]
    have hlatin : c.isLatin = true →
        isReserved reserved (c.lower ++ rest) = isReserved reserved (c :: rest) := fun hc =>
      isReserved_congr hwords (by rw [List.flatMap_append, (latin_spec hc).2.2.1, List.flatMap_cons])
    rw [Bool.eq_iff_iff]
    constructor
    · intro h
      have hc : c.isLatin = true := isLatin_of_lower fun d hd =>
        isLatin_of_isReserved hwords h d (List.mem_append_left _ hd)
      exact hlatin hc ▸ h
    · intro h
      rw [hlatin (isLatin_of_isReserved hwords h c List.mem_cons_self), h]

/-! ## Names -/

theorem Disguised.isReserved_eq_false (hwords : AreWords reserved) (h : Disguised reserved key) :
    isReserved reserved key = false := by
  obtain ⟨hmem, -⟩ := h
  rw [← Bool.not_eq_true]
  intro hreserved
  have hlatin := isLatin_of_isReserved hwords hreserved _ List.mem_cons_self
  cases hlatin.symm.trans (disguise_spec _ hmem).1

theorem isReserved_typeOf {rules : Rules} (hwords : AreWords rules.reserved) (hne : key ≠ []) :
    isReserved rules.reserved (typeOf rules key) = true ↔ Disguised rules.reserved key := by
  obtain ⟨c, rest, rfl⟩ := List.exists_cons_of_ne_nil hne
  rw [typeOf, adjusted_cons, upperFirst]
  split
  · next hreserved =>
    rw [← List.append_assoc, isReserved_append_sectionSuffix hwords]
    constructor
    · intro h
      cases h
    · intro h
      cases (h.isReserved_eq_false hwords).symm.trans hreserved
  · next hnot =>
    rw [isReserved_upper_append hwords]
    exact or_iff_right hnot

/-- The type name and the field name of a section are reserved words, in whatever case, just if its
key is one whose first letters are disguised. -/
theorem resolveSections_reserved {target : Target} {keys : List Text} {ns : List SectionNames}
    (h : resolveSections target.namingRules keys = .ok ns) : ∀ n ∈ ns,
      (isReserved target.reserved n.typeName = true ↔ Disguised target.reserved n.key) ∧
      (isReserved target.reserved n.fieldName = true ↔ Disguised target.reserved n.key) := by
  have hwords : AreWords target.namingRules.reserved := areWords_reserved target
  intro n hn
  obtain ⟨hne, hnames, -⟩ := names_of_mem h hn
  have htype := isReserved_typeOf hwords hne
  have hfield := isReserved_lowerFirst hwords (typeOf target.namingRules n.key)
  rw [hnames]
  exact ⟨htype, (Bool.eq_iff_iff.mp hfield).trans htype⟩

theorem resolveSections_reserved_class :
    ∃ ns, resolveSections Target.dart.namingRules (words ["class"]) = .ok ns ∧
    ∀ n ∈ ns, isReserved Target.dart.reserved n.typeName = false := by
  have hok : resolveSections Target.dart.namingRules (words ["class"]) =
      .ok [⟨"class", "ClassSection", "classSection"⟩] := by decide +kernel
  refine ⟨_, hok, fun n hn => ?_⟩
  rw [← Bool.not_eq_true, (resolveSections_reserved hok n hn).1]
  obtain rfl := List.mem_singleton.mp hn
  rintro ⟨hmem, -⟩
  exact absurd (List.mem_map_of_mem (f := Prod.fst) hmem)
    (by decide : ofChar 'c' ∉ disguises.map Prod.fst)

/-- A dotless i is no i, while its upper case is that of an i. -/
theorem fieldName_dotless :
    ∃ ns, resolveSections Target.dart.namingRules (words ["\u0131f"]) = .ok ns ∧
    ns.map SectionNames.fieldName = words ["if"] ∧ Text.ofString "if" ∈ Target.dart.reserved := by
  have hok : resolveSections Target.dart.namingRules (words ["\u0131f"]) =
      .ok [⟨"\u0131f", "If", "if"⟩] := by
    decide +kernel
  exact ⟨_, hok, rfl, by decide⟩

end LocaleGen.Naming
