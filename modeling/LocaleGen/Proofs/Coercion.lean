import LocaleGen.Proofs.ReservedNames
import LocaleGen.Unicode.Identifier
import Mathlib

/-!
# Keys that are no names

Only the names that a section key leads to are checked, not the key. A key that is neither an
identifier nor a reserved word leads to allowed names just if it starts with one of few characters
whose upper case starts a name (`Coerced`), and is refused otherwise: `resolveSections_grammar`.
-/

namespace LocaleGen

open Text CodePoint

variable {c : CodePoint} {key rest : Text}

/-! ## Names in ASCII -/

namespace Dart

theorem isIdentifier_append {letters : Text} (hne : letters ≠ [])
    (hletters : ∀ d ∈ letters, d.isLetter = true) (hrest : rest.all isIdentifierPart = true) :
    isIdentifier (letters ++ rest) = true := by
  obtain ⟨d, more, rfl⟩ := List.exists_cons_of_ne_nil hne
  have hstart : ∀ e ∈ d :: more, isIdentifierStart e = true := fun e he => by
    simp [isIdentifierStart, hletters e he]
  have hmore : more.all isIdentifierPart = true := List.all_eq_true.mpr fun e he => by
    rw [isIdentifierPart, hstart e (List.mem_cons_of_mem _ he), Bool.true_or]
  rw [List.cons_append, isIdentifier, hstart d List.mem_cons_self, List.all_append, hmore, hrest]
  rfl

theorem isAscii_of_isIdentifierPart (h : isIdentifierPart c = true) : c.isAscii = true := by
  simp [isIdentifierPart, isIdentifierStart, isLetter, isDigit, eq_iff_val] at h
  simp only [isAscii, decide_eq_true_eq]
  omega

/-- What an identifier comes from when its first character is mapped to upper case. -/
theorem isIdentifier_of_upper (h : isIdentifier (c.upper ++ rest) = true) :
    isIdentifier (c :: rest) = true ∨ c ∈ disguises.map Prod.fst ∧
    rest.all isIdentifierPart = true := by
  obtain ⟨-, hparts⟩ := all_of_isIdentifier h
  rw [List.all_append, Bool.and_eq_true] at hparts
  have hlatin : ∀ d ∈ c.upper, d.isLatin = true := fun d hd =>
    isLatin_of_isAscii (isAscii_of_isIdentifierPart (List.all_eq_true.mp hparts.1 d hd))
  rcases isLatin_or_mem_disguises hlatin with hc | ⟨letters, hmem⟩
  · rcases (latin_spec hc).1 with hself | hletter
    · exact .inl (by rwa [hself] at h)
    · exact .inl (isIdentifier_append (List.cons_ne_nil c []) (by simpa using hletter) hparts.2)
  · exact .inr ⟨List.mem_map_of_mem (f := Prod.fst) hmem, hparts.2⟩

/-- A disguise leads to identifiers in front of any rest of a name. -/
theorem isIdentifier_disguise (hc : c ∈ disguises.map Prod.fst)
    (hrest : rest.all isIdentifierPart = true) :
    isIdentifier (c.upper ++ rest) = true ∧ isIdentifier (c.upper ++ rest).lowerFirst = true := by
  obtain ⟨e, he, rfl⟩ := List.mem_map.mp hc
  obtain ⟨h, more, hupper⟩ := List.exists_cons_of_ne_nil (upper_ne_nil e.1)
  have hletters := (disguise_spec e he).2.2
  rw [hupper] at hletters ⊢
  refine ⟨isIdentifier_append (List.cons_ne_nil _ _) (fun d hd => (hletters d hd).1) hrest, ?_⟩
  rw [List.cons_append, lowerFirst_cons, ← List.append_assoc]
  refine isIdentifier_append (List.append_ne_nil_of_left_ne_nil (lower_ne_nil h) _) ?_ hrest
  intro d hd
  rcases List.mem_append.mp hd with hd | hd
  · exact (hletters h List.mem_cons_self).2 d hd
  · exact (hletters d (List.mem_cons_of_mem _ hd)).1

end Dart

/-! ## Names beyond ASCII -/

/-- The iota below a letter, a mark whose upper case is a letter. -/
def CodePoint.iotaSubscript : CodePoint := '\u0345'

namespace Unicode

instance : DecidableEq CaseRun := fun a b =>
  decidable_of_iff (a.first = b.first ∧ a.last = b.last ∧ a.step = b.step ∧ a.shift = b.shift)
    (by cases a; cases b; simp)

/-- The small letters in circles, the only run beside the iota that no identifier starts with, nor
with its images. -/
def circled : CaseRun := ⟨0x24D0, 0x24E9, 1, -26⟩

theorem identifierStart_table : isAscending 0 identifierStart = true ∧ circled ∈ upperRuns ∧
    upperDomain &&& spanned ((iotaSubscript.val, iotaSubscript.val) :: (circled.first, circled.last) ::
      identifierStart) = upperDomain ∧
    ∀ r ∈ identifierStart, r.2 < circled.image circled.first ∨
    circled.image circled.last < r.1 := by decide +kernel

end Unicode

namespace Python

open Unicode

variable {h : CodePoint} {more : Text}

theorem not_isIdentifierStart_of_circled (hn : circled.Has c.val) (hc : c.upper = h :: more) :
    ¬ h.isIdentifierStart = true := by
  obtain ⟨-, hrun, -, hcircled⟩ := identifierStart_table
  obtain ⟨rfl, -⟩ := List.cons.inj (hc.symm.trans (isMapping_upper.mapped_of_has hrun hn))
  have hlt := (isMapping_upper.image_eq hrun hn).2
  obtain ⟨hlow, hhigh, -⟩ := hn
  intro hstart
  obtain ⟨r, hr, hfrom, hto⟩ := mem_of_inRanges hstart
  have hout := hcircled r hr
  rw [val_ofNat hlt] at hfrom hto
  simp only [CaseRun.image, circled] at hout hfrom hto hlow hhigh
  omega

theorem isIdentifierStart_of_upper (hc : c.upper = h :: more)
    (hstart : h.isIdentifierStart = true) : c.isIdentifierStart = true ∨ c = iotaSubscript := by
  obtain ⟨hascending, -, hdomain, -⟩ := identifierStart_table
  cases hbit : upperDomain.testBit c.val with
  | false =>
    obtain ⟨rfl, -⟩ := List.cons.inj (hc.symm.trans (upper_of_notMem hbit))
    exact .inl hstart
  | true =>
    obtain ⟨r, hr, hlow, hhigh⟩ := testBit_spanned.mp (testBit_of_land_eq_self hdomain hbit)
    rcases List.mem_cons.mp hr with rfl | hr
    · exact .inr (eq_iff_val.mpr (Nat.le_antisymm hhigh hlow))
    · rcases List.mem_cons.mp hr with rfl | hr
      · exact absurd hstart (not_isIdentifierStart_of_circled ⟨hlow, hhigh, Nat.mod_one _⟩ hc)
      · exact .inl (inRanges_of_testBit hascending (testBit_spanned.mpr ⟨r, hr, hlow, hhigh⟩))

theorem isIdentifier_cons_iff (hne : c ≠ ofChar '_') : isIdentifier (c :: rest) = true ↔
    (c.isIdentifierStart = true ∧ rest.all isIdentifierPart = true) ∧ c :: rest ∉ keywords := by
  have hlow : dropStart? (c :: rest) "__" = none := if_neg (Ne.symm hne)
  simp only [isIdentifier, Text.isIdentifier, hlow, Option.isNone_none, Bool.and_true,
    Bool.and_eq_true,
    decide_eq_true_eq]

theorem isTypeName_cons_iff : isTypeName (c :: rest) = true ↔
    c ≠ ofChar '_' ∧ isIdentifier (c :: rest) = true := by
  rw [isTypeName, Bool.and_eq_true, and_comm]
  refine and_congr_left fun _ => ?_
  by_cases hc : c = ofChar '_'
  · subst hc
    exact iff_of_false (by simp [ofString, dropStart?]) (absurd rfl)
  · have hlow : dropStart? (c :: rest) "_" = none := if_neg (Ne.symm hc)
    exact iff_of_true (by rw [hlow]; rfl) hc

theorem upper_lowLine : upper '_' = [ofChar '_'] :=
  (latin_spec (by decide)).1.resolve_right (by decide)

/-- What a type name comes from when its first character is mapped to upper case. -/
theorem isIdentifier_of_upper (hreserved : Naming.isReserved reserved (c :: rest) = false)
    (h : isTypeName (c.upper ++ rest) = true) :
    isIdentifier (c :: rest) = true ∨ c = iotaSubscript ∧ rest.all isIdentifierPart = true := by
  have hne : c ≠ ofChar '_' := by
    rintro rfl
    rw [upper_lowLine] at h
    exact (isTypeName_cons_iff.mp h).1 rfl
  obtain ⟨head, more, hupper⟩ := List.exists_cons_of_ne_nil (upper_ne_nil c)
  rw [hupper, List.cons_append] at h
  obtain ⟨hhead, hidentifier⟩ := isTypeName_cons_iff.mp h
  obtain ⟨⟨hstart, hparts⟩, -⟩ := (isIdentifier_cons_iff hhead).mp hidentifier
  rw [List.all_append, Bool.and_eq_true] at hparts
  rcases isIdentifierStart_of_upper hupper hstart with hstart | hiota
  · refine .inl ((isIdentifier_cons_iff hne).mpr ⟨⟨hstart, hparts.2⟩, fun hmem => ?_⟩)
    have hword : c :: rest ∈ reserved := List.mem_append_left _ (List.mem_append_left _ hmem)
    rw [← Bool.not_eq_true, Naming.isReserved, List.any_eq_true] at hreserved
    exact hreserved ⟨_, hword, beq_self_eq_true _⟩
  · exact .inr ⟨hiota, hparts.2⟩

/-- A letter beyond ASCII starts names with any rest. -/
theorem isTypeName_cons (hstart : c.isIdentifierStart = true) (hnot : c.isLatin = false)
    (hrest : rest.all isIdentifierPart = true) : isTypeName (c :: rest) = true := by
  have hlatin : ∀ word ∈ keywords, word.all isLatin = true := by decide +kernel
  have hne : c ≠ ofChar '_' := by
    rintro rfl
    exact absurd hnot (by decide)
  refine isTypeName_cons_iff.mpr ⟨hne,
    (isIdentifier_cons_iff hne).mpr ⟨⟨hstart, hrest⟩, fun hmem => ?_⟩⟩
  cases hnot.symm.trans (List.all_eq_true.mp (hlatin _ hmem) c List.mem_cons_self)

/-- The iota leads to names in front of any rest of a name. -/
theorem isTypeName_iotaSubscript (hrest : rest.all isIdentifierPart = true) :
    isTypeName (iotaSubscript.upper ++ rest) = true ∧
    isIdentifier (iotaSubscript.upper ++ rest).lowerFirst = true := by
  have htable : iotaSubscript.upper = [ofChar '\u0399'] ∧ lower '\u0399' = [ofChar '\u03B9'] ∧
      ∀ c ∈ [ofChar '\u0399', ofChar '\u03B9'], c.isIdentifierStart = true ∧ c.isLatin = false := by
        decide +kernel
  obtain ⟨hupper, hlower, hletters⟩ := htable
  simp only [List.forall_mem_cons] at hletters
  obtain ⟨⟨hcapital, hcapitalNot⟩, ⟨hsmall, hsmallNot⟩, -⟩ := hletters
  rw [hupper, List.singleton_append, lowerFirst_cons, hlower, List.singleton_append]
  refine ⟨isTypeName_cons hcapital hcapitalNot hrest, ?_⟩
  exact (isTypeName_cons_iff.mp (isTypeName_cons hsmall hsmallNot hrest)).2

end Python

/-! ## Keys -/

/-- The characters that start no name of a target and whose upper case does. -/
def Target.coercible (target : Target) : List CodePoint :=
  match target with
  | dart => disguises.map Prod.fst
  | python => [iotaSubscript]

namespace Naming

variable {target : Target} {rules : Rules} {cause : Cause}

/-- A key that is coerced: a coercible character in front of the rest of a name. -/
inductive Coerced (target : Target) : Text → Prop
  | intro {c : CodePoint} {rest : Text} :
      c ∈ target.coercible → rest.all target.lexis.isNamePart = true →
      Coerced target (c :: rest)

theorem isTypeName_upperFirst (hreserved : isReserved target.reserved key = false)
    (h : target.isTypeName key.upperFirst = true) :
    target.isIdentifier key = true ∨ Coerced target key := by
  cases key with
  | nil => cases target <;> cases h
  | cons c rest =>
    cases target with
    | dart => exact (Dart.isIdentifier_of_upper h).imp id fun ⟨hc, hrest⟩ => .intro hc hrest
    | python =>
      refine (Python.isIdentifier_of_upper hreserved h).imp id fun ⟨hc, hrest⟩ => .intro ?_ hrest
      exact List.mem_singleton.mpr hc

theorem Coerced.allowed (h : Coerced target key) :
    target.isTypeName key.upperFirst = true ∧
    target.isIdentifier key.upperFirst.lowerFirst = true := by
  obtain ⟨hc, hrest⟩ := h
  cases target with
  | dart => exact Dart.isIdentifier_disguise hc hrest
  | python =>
    obtain rfl := List.mem_singleton.mp hc
    exact Python.isTypeName_iotaSubscript hrest

/-- A key that is coerced is no name itself. -/
theorem Coerced.isIdentifier_eq_false (h : Coerced target key) :
    target.isIdentifier key = false ∧ isReserved target.reserved key = false := by
  have htable : ∀ c ∈ target.coercible, c.isLatin = false ∧
      (target = .dart → Dart.isIdentifierStart c = false) ∧
        (target = .python → c.isIdentifierStart = false) := by
    cases target <;> decide +kernel
  obtain ⟨hc, -⟩ := h
  obtain ⟨hlatin, hdart, hpython⟩ := htable _ hc
  constructor
  · cases target with
    | dart => simp [Target.isIdentifier, Dart.isIdentifier, hdart rfl]
    | python => simp [Target.isIdentifier, Python.isIdentifier, Text.isIdentifier, hpython rfl]
  · rw [← Bool.not_eq_true]
    intro hreserved
    cases hlatin.symm.trans (isLatin_of_isReserved (areWords_reserved target) hreserved
      _ List.mem_cons_self)

theorem typeOf_of_isReserved (hreserved : isReserved rules.reserved key = false) :
    typeOf rules key = key.upperFirst := by
  simp [typeOf, adjusted, hreserved]

theorem typeName_eq_typeOf (hne : key ≠ []) :
    typeName rules.reserved key = .ok (typeOf rules key) := typeName_eq _ hne

theorem sectionNames_of_allowed (hne : key ≠ [])
    (htype : rules.isTypeName (typeOf rules key) = true)
    (hfield : rules.isIdentifier (typeOf rules key).lowerFirst = true) :
    sectionNames rules key = .ok ⟨key, typeOf rules key, (typeOf rules key).lowerFirst⟩ := by
  obtain ⟨h, rest, heq, -⟩ := exists_upper_typeOf rules hne
  have hnonempty : typeOf rules key ≠ [] := heq ▸ List.cons_ne_nil h rest
  rw [sectionNames, typeName_eq_typeOf hne, ok_bind]
  refine bind_eq_ok.mpr ⟨_, ensure_eq_ok.mpr ⟨htype, rfl⟩, ?_⟩
  rw [fieldName, if_neg hnonempty, ok_bind]
  exact bind_eq_ok.mpr ⟨_, ensure_eq_ok.mpr ⟨hfield, rfl⟩, rfl⟩

/-- The first key that is refused is the one that all keys are refused for. -/
theorem resolveSectionsAfter_eq_error {before : List SectionNames} {earlier later : List Text}
    {ns : List SectionNames} (h : resolveSectionsAfter rules before earlier = .ok ns)
    (hkey : sectionNames rules key = .error cause) :
    resolveSectionsAfter rules before (earlier ++ key :: later) = .error cause := by
  induction earlier generalizing before ns with
  | nil =>
    rw [List.nil_append, resolveSectionsAfter, hkey]
    rfl
  | cons first rest ih =>
    rw [resolveSectionsAfter] at h
    obtain ⟨n, hn, h⟩ := bind_eq_ok.mp h
    rw [List.cons_append, resolveSectionsAfter, hn, ok_bind]
    split at h
    · cases h
    · obtain ⟨more, hmore, -⟩ := bind_eq_ok.mp h
      rw [ih hmore]
      rfl

def refusal (key : Text) : Cause :=
  if key = [] then .emptySectionKey else .notIdentifier key key.upperFirst

theorem sectionNames_eq_refusal (hnot : target.isIdentifier key = false)
    (hreserved : isReserved target.reserved key = false) (hcoerced : ¬ Coerced target key) :
    sectionNames target.namingRules key = .error (refusal key) := by
  by_cases hne : key = []
  · subst hne
    rfl
  · have htype : target.isTypeName key.upperFirst = false := by
      rw [← Bool.not_eq_true]
      intro hallowed
      rcases isTypeName_upperFirst hreserved hallowed with hname | h
      · cases hnot.symm.trans hname
      · exact hcoerced h
    have heq : typeOf target.namingRules key = key.upperFirst := typeOf_of_isReserved hreserved
    rw [sectionNames, typeName_eq_typeOf hne, ok_bind, refusal, if_neg hne, heq]
    exact bind_eq_error.mpr (.inl (ensure_eq_error.mpr ⟨htype, rfl⟩))

/-- Every key that is given names is an identifier, a reserved word or coerced; a coerced one is
neither of the others and is given the names of another word. Any other key is refused, together
with all that stand beside it. -/
theorem resolveSections_grammar (target : Target) :
    (∀ keys ns, resolveSections target.namingRules keys = .ok ns → ∀ key ∈ keys,
      target.isIdentifier key = true ∨ isReserved target.reserved key = true ∨ Coerced target key) ∧
    (∀ key, Coerced target key →
      target.isIdentifier key = false ∧ isReserved target.reserved key = false ∧
      sectionNames target.namingRules key = .ok ⟨key, key.upperFirst, key.upperFirst.lowerFirst⟩) ∧
    (∀ key, target.isIdentifier key = false → isReserved target.reserved key = false →
      ¬ Coerced target key →
      ∀ earlier ns later, resolveSections target.namingRules earlier = .ok ns →
        resolveSections target.namingRules (earlier ++ key :: later) = .error (refusal key)) := by
  refine ⟨fun keys ns h key hkey => ?_, fun key hcoerced => ?_,
    fun key hnot hreserved hcoerced earlier ns later h => ?_⟩
  · by_contra hnone
    simp only [not_or, Bool.not_eq_true] at hnone
    obtain ⟨hnot, hreserved, hcoerced⟩ := hnone
    obtain ⟨n, -, hn⟩ := exists_of_mem_left (resolveSectionsAfter_eq_ok h) hkey
    rw [sectionNames_eq_refusal hnot hreserved hcoerced] at hn
    cases hn
  · obtain ⟨hnot, hreserved⟩ := hcoerced.isIdentifier_eq_false
    obtain ⟨htype, hfield⟩ := hcoerced.allowed
    have heq : typeOf target.namingRules key = key.upperFirst := typeOf_of_isReserved hreserved
    have hne : key ≠ [] := by
      rintro rfl
      cases hcoerced
    refine ⟨hnot, hreserved, ?_⟩
    rw [← heq] at htype hfield ⊢
    exact sectionNames_of_allowed hne htype hfield
  · exact resolveSectionsAfter_eq_error h (sectionNames_eq_refusal hnot hreserved hcoerced)

theorem resolveSections_grammar_dashed :
    resolveSections Target.dart.namingRules (words ["my-section", "general"]) =
      .error (refusal "my-section") := by
  refine (resolveSections_grammar .dart).2.2 "my-section" (by decide +kernel)
    (by decide +kernel) ?_ [] [] _ rfl
  rintro ⟨hmem, -⟩
  exact absurd hmem (by decide : ofChar 'm' ∉ Target.dart.coercible)

/-- The upper case of the ligature fi is two letters of ASCII, so a key that starts with it is
accepted. -/
theorem resolveSections_ligature : Target.dart.isIdentifier "\uFB01lter" = false ∧
    isReserved Target.dart.reserved "\uFB01lter" = false ∧
    resolveSections Target.dart.namingRules (words ["\uFB01lter"]) =
      .ok [⟨"\uFB01lter", "FIlter", "fIlter"⟩] := by
  decide +kernel

end Naming

end LocaleGen
