import LocaleGen.Proofs.ClassBody
import Mathlib

/-!
# Accessors under the comparison of the parser

The parser compares names in a normal form, of which only so much is used here that it is
`Text.narrow` on texts of ASCII and full-width characters: every full-width letter, digit or low
line becomes that of ASCII (`IsFolding`). The accessors of a section are told apart as they are
spelled, so in that form they are different just if no two keys are `WidthTwins`, and one of them is
a reserved word just if its key is such a word in full-width letters: `Artifact.accessors_folded`.
-/

namespace LocaleGen

/-! ## Full-width characters -/

namespace CodePoint

/-- A full-width letter or digit of ASCII, or the full-width low line. -/
def isFullWidth (c : CodePoint) : Bool :=
  (0xFF10 ≤ c.val && c.val ≤ 0xFF19) || (0xFF21 ≤ c.val && c.val ≤ 0xFF3A) || c.val = 0xFF3F ||
    (0xFF41 ≤ c.val && c.val ≤ 0xFF5A)

/-- A full-width character becomes that of ASCII; everything else stays. -/
def narrow (c : CodePoint) : CodePoint :=
  if c.isFullWidth then ⟨c.val - 0xFEE0, Nat.lt_of_le_of_lt (Nat.sub_le _ _) c.isLt⟩ else c

theorem narrow_of_not {c : CodePoint} (h : c.isFullWidth = false) : c.narrow = c := by
  simp [narrow, h]

theorem isFullWidth_of_isAscii {c : CodePoint} (h : c.isAscii = true) : c.isFullWidth = false := by
  simp only [isAscii, decide_eq_true_eq] at h
  simp [isFullWidth]
  omega

end CodePoint

namespace Text

def narrow (t : Text) : Text := t.map CodePoint.narrow

theorem narrow_of_not {t : Text} (h : ∀ c ∈ t, c.isFullWidth = false) : t.narrow = t :=
  (List.map_congr_left fun c hc => CodePoint.narrow_of_not (h c hc)).trans (List.map_id t)

theorem narrow_of_isAscii {t : Text} (h : ∀ c ∈ t, c.isAscii = true) : t.narrow = t :=
  narrow_of_not fun c hc => CodePoint.isFullWidth_of_isAscii (h c hc)

end Text

def IsFolding (form : Text → Text) : Prop :=
  ∀ t : Text, (∀ c ∈ t, c.isAscii = true ∨ c.isFullWidth = true) → form t = t.narrow

theorem IsFolding.form_of_isAscii {form : Text → Text} (h : IsFolding form) {t : Text}
    (ht : ∀ c ∈ t, c.isAscii = true) : form t = t := by
  rw [h t fun c hc => .inl (ht c hc), Text.narrow_of_isAscii ht]

/-! ## Keys -/

namespace Naming

variable {rules : Rules} {key : Text}

/-- Two keys whose accessors differ in full-width characters only: neither is a reserved word, or
the first is one and the second spells what the suffix makes of it. -/
inductive WidthTwins (reserved : List Text) : Text → Text → Prop
  | spelling {k k' : Text} : k ∉ reserved → k' ∉ reserved → k ≠ k' → k.narrow = k'.narrow →
      WidthTwins reserved k k'
  | suffixed {word k' : Text} : word ∈ reserved → k' ∉ reserved → k' ≠ word ++ memberSuffix →
      k'.narrow = word ++ memberSuffix → WidthTwins reserved word k'

def AreSuffixable (reserved : List Text) : Prop :=
  ∀ word ∈ reserved, (∀ c ∈ word, c.isAscii = true) ∧ word ++ memberSuffix ∉ reserved

instance (reserved : List Text) : Decidable (AreSuffixable reserved) :=
  inferInstanceAs (Decidable (∀ _ ∈ _, _))

theorem areSuffixable_reserved : AreSuffixable Python.reserved := by decide +kernel

@[simp] theorem accessorOf_reserved (h : key ∈ rules.reserved) :
    accessorOf rules key = key ++ memberSuffix := if_pos h

@[simp] theorem accessorOf_unreserved (h : key ∉ rules.reserved) :
    accessorOf rules key = key := if_neg h

theorem accessorOf_notMem (hwords : AreSuffixable rules.reserved) (key : Text) :
    accessorOf rules key ∉ rules.reserved := by
  by_cases h : key ∈ rules.reserved
  · rw [accessorOf_reserved h]
    exact (hwords key h).2
  · rwa [accessorOf_unreserved h]

/-- What is made of a reserved word has no full-width character. -/
theorem narrow_accessorOf (hwords : AreSuffixable rules.reserved) (h : key ∈ rules.reserved) :
    (accessorOf rules key).narrow = key ++ memberSuffix := by
  have hsuffix : ∀ c ∈ memberSuffix, c.isAscii = true := by decide
  rw [accessorOf_reserved h, Text.narrow_of_isAscii]
  exact fun c hc => (List.mem_append.mp hc).elim ((hwords key h).1 c) (hsuffix c)

/-- An accessor is a reserved word in its narrow form just if its key is one in full-width
characters. -/
theorem narrow_accessorOf_mem (hwords : AreSuffixable rules.reserved) :
    (accessorOf rules key).narrow ∈ rules.reserved ↔
      (∃ c ∈ key, c.isFullWidth = true) ∧ key.narrow ∈ rules.reserved := by
  by_cases h : key ∈ rules.reserved
  · rw [narrow_accessorOf hwords h]
    refine iff_of_false (hwords key h).2 ?_
    rintro ⟨⟨c, hc, hwide⟩, -⟩
    cases (CodePoint.isFullWidth_of_isAscii ((hwords key h).1 c hc)).symm.trans hwide
  · rw [accessorOf_unreserved h]
    refine (and_iff_right_of_imp fun hnarrow => ?_).symm
    by_contra hnone
    have hsame : key.narrow = key := Text.narrow_of_not (by simpa using hnone)
    exact h (hsame ▸ hnarrow)

/-- Different accessors are the same in their narrow form just if their keys are twins, in one order
or the other. -/
theorem narrow_accessorOf_eq (hwords : AreSuffixable rules.reserved) {k k' : Text} (hne : k ≠ k')
    (haccessors : accessorOf rules k ≠ accessorOf rules k') :
    (accessorOf rules k).narrow = (accessorOf rules k').narrow ↔
      WidthTwins rules.reserved k k' ∨ WidthTwins rules.reserved k' k := by
  constructor
  · intro heq
    by_cases hk : k ∈ rules.reserved <;> by_cases hk' : k' ∈ rules.reserved
    · rw [narrow_accessorOf hwords hk, narrow_accessorOf hwords hk'] at heq
      exact absurd (List.append_cancel_right heq) hne
    · rw [accessorOf_reserved hk, accessorOf_unreserved hk'] at haccessors
      rw [narrow_accessorOf hwords hk, accessorOf_unreserved hk'] at heq
      exact .inl (.suffixed hk hk' haccessors.symm heq.symm)
    · rw [accessorOf_unreserved hk, accessorOf_reserved hk'] at haccessors
      rw [narrow_accessorOf hwords hk', accessorOf_unreserved hk] at heq
      exact .inr (.suffixed hk' hk haccessors heq)
    · rw [accessorOf_unreserved hk, accessorOf_unreserved hk'] at heq
      exact .inl (.spelling hk hk' hne heq)
  · have same : ∀ {k k' : Text}, WidthTwins rules.reserved k k' →
        (accessorOf rules k).narrow = (accessorOf rules k').narrow := by
      intro k k' h
      cases h with
      | spelling hk hk' _ heq => rw [accessorOf_unreserved hk, accessorOf_unreserved hk', heq]
      | suffixed hword hk' _ heq =>
        rw [narrow_accessorOf hwords hword, accessorOf_unreserved hk', heq]
    rintro (h | h)
    · exact same h
    · exact (same h).symm

theorem WidthTwins.ne {k k' : Text} {reserved : List Text} (h : WidthTwins reserved k k') :
    k ≠ k' := by
  cases h with
  | spelling _ _ hne _ => exact hne
  | suffixed hword hk' _ _ =>
    rintro rfl
    exact hk' hword

/-- The accessors of keys are different in their narrow form just if no two of the keys are
twins. -/
theorem nodup_narrow_iff (hwords : AreSuffixable rules.reserved) {keys : List Text}
    (hkeys : keys.Nodup) (haccessors : (keys.map (accessorOf rules)).Nodup) :
    (keys.map fun k => (accessorOf rules k).narrow).Nodup ↔
      ∀ k ∈ keys, ∀ k' ∈ keys, ¬ WidthTwins rules.reserved k k' := by
  have hdistinct : ∀ k ∈ keys, ∀ k' ∈ keys, k ≠ k' → accessorOf rules k ≠ accessorOf rules k' :=
    fun k hk k' hk' hne heq => hne (List.inj_on_of_nodup_map haccessors hk hk' heq)
  constructor
  · intro hnodup k hk k' hk' htwins
    have hsame :=
      (narrow_accessorOf_eq hwords htwins.ne (hdistinct k hk k' hk' htwins.ne)).mpr (.inl htwins)
    exact htwins.ne (List.inj_on_of_nodup_map hnodup hk hk' hsame)
  · intro hnone
    refine hkeys.map_on fun k hk k' hk' hsame => ?_
    by_contra hne
    rcases (narrow_accessorOf_eq hwords hne (hdistinct k hk k' hk' hne)).mp hsame with h | h
    · exact hnone k hk k' hk' h
    · exact hnone k' hk' k hk h

end Naming

/-! ## Sections -/

namespace Artifact

open Text Python

/-- The class of a section defines one accessor for each key. As they are spelled the accessors are
different and none of them is a reserved word. In their narrow form they are different just if no
two keys are twins, and one of them is a reserved word just if its key is such a word with
full-width characters; accessors of ASCII keys have no other form. -/
theorem accessors_folded {type key block : Text} {phrases : Phrases}
    (h : sectionBlock .python type key phrases = .ok block) :
    ∃ body accessors, block = "class _" ++ type ++ "(SectionKeyDelegate):" ++ ("\n" ++ body) ∧
      classLines body = .definition initName :: accessors.flatMap accessorLines ∧
      accessors = phrases.keys.map (Naming.accessorOf Target.python.namingRules) ∧
      accessors.Nodup ∧ (∀ name ∈ accessors, name ∉ Python.reserved) ∧
      ((accessors.map Text.narrow).Nodup ↔
        ∀ k ∈ phrases.keys, ∀ k' ∈ phrases.keys, ¬ Naming.WidthTwins Python.reserved k k') ∧
      (∀ k ∈ phrases.keys, (Naming.accessorOf Target.python.namingRules k).narrow ∈ Python.reserved ↔
        (∃ c ∈ k, c.isFullWidth = true) ∧ k.narrow ∈ Python.reserved) ∧
      ∀ form, IsFolding form → (∀ k ∈ phrases.keys, ∀ c ∈ k, c.isAscii = true) →
      accessors.map form = accessors := by
  obtain ⟨body, hblock, hlines⟩ := exists_classBody h
  obtain ⟨names, -, -, hnames, -⟩ := sectionBlock_eq_ok h
  have hnodup := (Naming.nodup_of_resolveMembersAfter hnames).1
  have hwords : Naming.AreSuffixable Target.python.namingRules.reserved :=
    Naming.areSuffixable_reserved
  refine ⟨body, _, hblock, hlines, rfl, hnodup, ?_,
    ?_, fun k _ => Naming.narrow_accessorOf_mem hwords, ?_⟩
  · rintro name hname
    obtain ⟨k, -, rfl⟩ := List.mem_map.mp hname
    exact Naming.accessorOf_notMem hwords k
  · rw [List.map_map]
    exact Naming.nodup_narrow_iff hwords phrases.distinct hnodup
  · intro form hform hascii
    rw [List.map_map]
    exact List.map_congr_left fun k hk => hform.form_of_isAscii (isAscii_accessorOf (hascii k hk))

/-- A key of full-width characters beside one of ASCII that it does not spell. -/
theorem accessors_folded_tag : ∃ (block body : Text) (accessors : List Text),
    sectionBlock .python "General" "general"
      (.ofList [("ok", "OK"), ("\uff34\uff41\uff47", "Tag")]) = .ok block ∧
      block = "class _General(SectionKeyDelegate):\n" ++ body ∧
      classLines body = .definition initName :: accessors.flatMap accessorLines ∧
      accessors.map Text.narrow = words ["ok", "Tag"] ∧
      ¬ Naming.WidthTwins Python.reserved "ok" "\uff34\uff41\uff47" := by
  obtain ⟨block, hblock⟩ : ∃ block, sectionBlock .python "General" "general"
      (.ofList [("ok", "OK"), ("\uff34\uff41\uff47", "Tag")]) = .ok block :=
        isOk_eq_true.mp (by decide +kernel)
  obtain ⟨body, accessors, rfl, hlines, rfl, -, -, hfolded, -⟩ := accessors_folded hblock
  refine ⟨_, body, _, hblock, rfl, hlines, by decide +kernel,
    hfolded.mp (by decide +kernel) _ ?_ _ ?_⟩
  · decide +kernel
  · decide +kernel

/-- A section with a key that another one spells in full-width letters, and one that spells a
reserved word so. -/
def widePhrases : Phrases :=
  .ofList [("ok", "OK"), ("\uff4f\uff4b", "Fine"), ("\uff47\uff45\uff54", "Get")]

/-- The section is emitted, and in whatever form names are compared two of its accessors are the
same, and the third is a reserved word. -/
theorem accessors_coincide : ∃ (block body : Text) (accessors : List Text),
    sectionBlock .python "General" "general" widePhrases = .ok block ∧
      block = "class _General(SectionKeyDelegate):\n" ++ body ∧
      classLines body = .definition initName :: accessors.flatMap accessorLines ∧
      ∀ form, IsFolding form → ¬ (accessors.map form).Nodup ∧ ∃ name ∈ accessors,
      form name ∈ Python.reserved := by
  obtain ⟨block, hblock⟩ : ∃ block, sectionBlock .python "General" "general" widePhrases =
      .ok block :=
    isOk_eq_true.mp (by decide +kernel)
  obtain ⟨body, rfl, hlines⟩ := exists_classBody hblock
  have haccessors : widePhrases.keys.map (Naming.accessorOf Target.python.namingRules) =
      widePhrases.keys := by
    decide +kernel
  rw [haccessors] at hlines
  refine ⟨_, body, _, hblock, rfl, hlines, fun form hform => ?_⟩
  have hchars : ∀ k ∈ widePhrases.keys, ∀ c ∈ k, c.isAscii = true ∨ c.isFullWidth = true := by
    decide +kernel
  have hforms : widePhrases.keys.map form = words ["ok", "ok", "get"] := by
    rw [List.map_congr_left fun k hk => hform k (hchars k hk)]
    decide +kernel
  have hget : Text.ofString "get" ∈ widePhrases.keys.map form := by
    rw [hforms]
    decide
  obtain ⟨name, hname, heq⟩ := List.mem_map.mp hget
  refine ⟨?_, name, hname, ?_⟩
  · rw [hforms]
    decide
  · rw [heq]
    decide

end Artifact

end LocaleGen
