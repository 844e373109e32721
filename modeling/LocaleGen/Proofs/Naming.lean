import LocaleGen.Document
import LocaleGen.Dialect.Target
import LocaleGen.Proofs.Result
import Mathlib

/-!
# Keys at fault

Names are refused because of keys, and `KeyFault` says which keys of a document those are without
resolving any: one is empty, one leads to no name, or two of them lead to the same name. The names
of the sections and of their phrases can be resolved just if no key is at fault:
`keyFault_of_resolveSections`, `keyFault_of_resolveMembers`, `not_sectionFault_of_resolveSections`,
`not_phraseFault_of_resolveMembers`.
-/

namespace LocaleGen.Naming

variable {rules : Rules} {key : Text} {c : Cause}

/-! ## What keys lead to -/

def typeOf (rules : Rules) (key : Text) : Text := (adjusted rules.reserved key).upperFirst

def accessorOf (rules : Rules) (key : Text) : Text :=
  if key ∈ rules.reserved then key ++ memberSuffix else key

/-- What is wrong with the keys of sections. -/
inductive SectionFault (rules : Rules) (keys : List Text) : Cause → Prop
  | empty : [] ∈ keys → SectionFault rules keys .emptySectionKey
  | typeName {key : Text} : key ∈ keys → rules.isTypeName (typeOf rules key) = false →
      SectionFault rules keys (.notIdentifier key (typeOf rules key))
  | fieldName {key : Text} : key ∈ keys → rules.isIdentifier (typeOf rules key).lowerFirst = false →
      SectionFault rules keys (.notIdentifier key (typeOf rules key).lowerFirst)
  | collision {first key : Text} :
      first ∈ keys → key ∈ keys → first ≠ key → typeOf rules first = typeOf rules key →
      SectionFault rules keys (.typeCollision first key (typeOf rules key))

/-- What is wrong with the keys of the phrases in a section. -/
inductive PhraseFault (rules : Rules) (sectionKey : Text) (keys : List Text) : Cause → Prop
  | empty : [] ∈ keys → PhraseFault rules sectionKey keys .emptyPhraseKey
  | name {key : Text} : key ∈ keys → rules.isIdentifier (accessorOf rules key) = false →
      PhraseFault rules sectionKey keys (.notIdentifier key (accessorOf rules key))
  | collision {first key : Text} : first ∈ keys → key ∈ keys → first ≠ key →
      accessorOf rules first = accessorOf rules key →
      PhraseFault rules sectionKey keys (.memberCollision sectionKey key (accessorOf rules key))

/-- What is wrong with the keys of a document. -/
inductive KeyFault (rules : Rules) (document : Document) : Cause → Prop
  | ofSection {c : Cause} : SectionFault rules document.sections.keys c → KeyFault rules document c
  | ofPhrase {c : Cause} {key : Text} {phrases : Phrases} :
      (key, phrases) ∈ document.sections.entries →
      PhraseFault rules key phrases.keys c → KeyFault rules document c

theorem KeyFault.kind {document : Document} (h : KeyFault rules document c) :
    c.kind = .malformedDocument ∨ c.kind = .invalidIdentifier := by
  rcases h with h | ⟨-, h⟩
  · cases h with
    | empty => exact .inl rfl
    | typeName => exact .inr rfl
    | fieldName => exact .inr rfl
    | collision => exact .inr rfl
  · cases h with
    | empty => exact .inl rfl
    | name => exact .inr rfl
    | collision => exact .inr rfl

/-! ## One key -/

theorem ensure_eq_ok {allowed : Text → Bool} {name ensured : Text} :
    ensure allowed key name = .ok ensured ↔ allowed name = true ∧ name = ensured := by
  unfold ensure
  cases allowed name <;> simp

theorem ensure_eq_error {allowed : Text → Bool} {name : Text} :
    ensure allowed key name = .error c ↔ allowed name = false ∧ c = .notIdentifier key name := by
  unfold ensure
  cases allowed name <;> simp [eq_comm]

theorem typeName_eq (reserved : List Text) (hne : key ≠ []) :
    typeName reserved key = .ok (adjusted reserved key).upperFirst := by
  rw [typeName, if_neg hne]

theorem memberName_eq (rules : Rules) (hne : key ≠ []) :
    memberName rules.reserved key = .ok (accessorOf rules key) := by
  rw [memberName, if_neg hne]
  rfl

theorem sectionNames_eq_ok {n : SectionNames} (h : sectionNames rules key = .ok n) :
    key ≠ [] ∧ n = ⟨key, typeOf rules key, (typeOf rules key).lowerFirst⟩ ∧
      rules.isTypeName n.typeName = true ∧ rules.isIdentifier n.fieldName = true := by
  unfold sectionNames at h
  by_cases hne : key = []
  · rw [typeName, if_pos hne] at h
    cases h
  · rw [typeName_eq _ hne, ok_bind] at h
    obtain ⟨type, htype, h⟩ := bind_eq_ok.mp h
    obtain ⟨_, hlower, h⟩ := bind_eq_ok.mp h
    obtain ⟨field, hfield, h⟩ := bind_eq_ok.mp h
    cases h
    obtain ⟨hallowed, rfl⟩ := ensure_eq_ok.mp htype
    obtain ⟨hidentifier, rfl⟩ := ensure_eq_ok.mp hfield
    unfold fieldName at hlower
    split at hlower
    · cases hlower
    · cases hlower
      exact ⟨hne, rfl, hallowed, hidentifier⟩

theorem accessorName_eq_ok {name : Text} (h : accessorName rules key = .ok name) :
    key ≠ [] ∧ name = accessorOf rules key ∧ rules.isIdentifier name = true := by
  unfold accessorName at h
  by_cases hne : key = []
  · rw [memberName, if_pos hne] at h
    cases h
  · rw [memberName_eq _ hne, ok_bind] at h
    obtain ⟨hidentifier, rfl⟩ := ensure_eq_ok.mp h
    exact ⟨hne, rfl, hidentifier⟩

theorem resolveSectionsAfter_eq_ok {before : List SectionNames} {keys : List Text}
    {ns : List SectionNames} (h : resolveSectionsAfter rules before keys = .ok ns) :
    List.Forall₂ (fun key n => sectionNames rules key = .ok n) keys ns := by
  induction keys generalizing before ns with
  | nil =>
    cases h
    exact .nil
  | cons key rest ih =>
    simp only [resolveSectionsAfter, bind_eq_ok] at h
    obtain ⟨n, hn, h⟩ := h
    split at h
    · cases h
    · obtain ⟨more, hmore, heq⟩ := bind_eq_ok.mp h
      cases heq
      exact .cons hn (ih hmore)

theorem resolveMembersAfter_eq_ok {sectionKey : Text} {before keys names : List Text}
    (h : resolveMembersAfter rules sectionKey before keys = .ok names) :
    List.Forall₂ (fun key name => accessorName rules key = .ok name) keys names := by
  induction keys generalizing before names with
  | nil =>
    cases h
    exact .nil
  | cons key rest ih =>
    simp only [resolveMembersAfter, bind_eq_ok] at h
    obtain ⟨name, hname, h⟩ := h
    split at h
    · cases h
    · obtain ⟨more, hmore, heq⟩ := bind_eq_ok.mp h
      cases heq
      exact .cons hname (ih hmore)

/-! ## One key that is refused -/

/-- A single section key that is refused; `lowerFirst` has something to work on, since no type name
is empty. -/
theorem sectionFault_of_sectionNames (hnil : rules.isTypeName [] = false)
    {keys : List Text} (hkey : key ∈ keys) (h : sectionNames rules key = .error c) :
    SectionFault rules keys c := by
  by_cases hne : key = []
  · subst hne
    cases h
    exact .empty hkey
  · rw [sectionNames, typeName_eq _ hne, ok_bind] at h
    rcases bind_eq_error.mp h with htype | ⟨type, htype, h⟩
    · obtain ⟨hnot, rfl⟩ := ensure_eq_error.mp htype
      exact .typeName hkey hnot
    · obtain ⟨hallowed, rfl⟩ := ensure_eq_ok.mp htype
      have hnonempty : (adjusted rules.reserved key).upperFirst ≠ [] := by
        intro hempty
        rw [hempty, hnil] at hallowed
        cases hallowed
      rw [fieldName, if_neg hnonempty, ok_bind] at h
      rcases bind_eq_error.mp h with hfield | ⟨field, -, h⟩
      · obtain ⟨hnot, rfl⟩ := ensure_eq_error.mp hfield
        exact .fieldName hkey hnot
      · cases h

theorem phraseFault_of_accessorName {sectionKey : Text} {keys : List Text} (hkey : key ∈ keys)
    (h : accessorName rules key = .error c) : PhraseFault rules sectionKey keys c := by
  by_cases hne : key = []
  · subst hne
    cases h
    exact .empty hkey
  · rw [accessorName, memberName_eq _ hne, ok_bind] at h
    obtain ⟨hnot, rfl⟩ := ensure_eq_error.mp h
    exact .name hkey hnot

/-! ## All keys in their order -/

theorem SectionFault.mono {keys keys' : List Text} (h : SectionFault rules keys c)
    (hsub : keys ⊆ keys') : SectionFault rules keys' c := by
  cases h with
  | empty hkey => exact .empty (hsub hkey)
  | typeName hkey hnot => exact .typeName (hsub hkey) hnot
  | fieldName hkey hnot => exact .fieldName (hsub hkey) hnot
  | collision hfirst hkey hne hsame => exact .collision (hsub hfirst) (hsub hkey) hne hsame

theorem sectionFault_of_resolveSectionsAfter (hnil : rules.isTypeName [] = false)
    {before : List SectionNames} {keys : List Text}
    (hbefore : ∀ n ∈ before, n.typeName = typeOf rules n.key)
    (hdistinct : (before.map SectionNames.key ++ keys).Nodup)
    (h : resolveSectionsAfter rules before keys = .error c) :
    SectionFault rules (before.map SectionNames.key ++ keys) c := by
  induction keys generalizing before with
  | nil => cases h
  | cons key rest ih =>
    have hkey : key ∈ before.map SectionNames.key ++ key :: rest :=
      List.mem_append_right _ List.mem_cons_self
    rw [resolveSectionsAfter] at h
    rcases bind_eq_error.mp h with hnames | ⟨n, hnames, h⟩
    · exact sectionFault_of_sectionNames hnil hkey hnames
    · obtain ⟨-, hn, -⟩ := sectionNames_eq_ok hnames
      have htype : n.typeName = typeOf rules n.key := by rw [hn]
      obtain rfl : n.key = key := by rw [hn]
      split at h
      · next earlier hfound =>
        cases h
        have hmem := List.mem_of_find?_eq_some hfound
        have hsame : earlier.typeName = n.typeName := by simpa using List.find?_some hfound
        have hearlier : earlier.key ∈ before.map SectionNames.key := List.mem_map_of_mem hmem
        have hne : earlier.key ≠ n.key :=
          (List.nodup_append.mp hdistinct).2.2 _ hearlier _ List.mem_cons_self
        rw [htype] at hsame ⊢
        exact .collision (List.mem_append_left _ hearlier) hkey hne
          ((hbefore earlier hmem).symm.trans hsame)
      · rcases bind_eq_error.mp h with hrest | ⟨more, -, h⟩
        · have hperm : List.Perm ((n :: before).map SectionNames.key ++ rest)
              (before.map SectionNames.key ++ n.key :: rest) := List.perm_middle.symm
          have hfault := ih (List.forall_mem_cons.mpr ⟨htype, hbefore⟩)
            (hperm.nodup_iff.mpr hdistinct) hrest
          exact hfault.mono hperm.subset
        · cases h

theorem PhraseFault.mono {sectionKey : Text} {keys keys' : List Text}
    (h : PhraseFault rules sectionKey keys c) (hsub : keys ⊆ keys') :
    PhraseFault rules sectionKey keys' c := by
  cases h with
  | empty hkey => exact .empty (hsub hkey)
  | name hkey hnot => exact .name (hsub hkey) hnot
  | collision hfirst hkey hne hsame => exact .collision (hsub hfirst) (hsub hkey) hne hsame

theorem phraseFault_of_resolveMembersAfter {sectionKey : Text} {earlier keys : List Text}
    (hdistinct : (earlier ++ keys).Nodup)
    (h : resolveMembersAfter rules sectionKey (earlier.map (accessorOf rules)) keys = .error c) :
    PhraseFault rules sectionKey (earlier ++ keys) c := by
  induction keys generalizing earlier with
  | nil => cases h
  | cons key rest ih =>
    have hkey : key ∈ earlier ++ key :: rest := List.mem_append_right _ List.mem_cons_self
    rw [resolveMembersAfter] at h
    rcases bind_eq_error.mp h with hname | ⟨name, hname, h⟩
    · exact phraseFault_of_accessorName hkey hname
    · obtain ⟨-, rfl, -⟩ := accessorName_eq_ok hname
      split at h
      · next hmem =>
        cases h
        obtain ⟨first, hfirst, hsame⟩ := List.mem_map.mp hmem
        have hne : first ≠ key := (List.nodup_append.mp hdistinct).2.2 _ hfirst _ List.mem_cons_self
        exact .collision (List.mem_append_left _ hfirst) hkey hne hsame
      · rcases bind_eq_error.mp h with hrest | ⟨more, -, h⟩
        · have hperm : List.Perm ((key :: earlier) ++ rest) (earlier ++ key :: rest) :=
            List.perm_middle.symm
          exact (ih (hperm.nodup_iff.mpr hdistinct) hrest).mono hperm.subset
        · cases h

/-! ## Names that are resolved -/

/-- No type name is given a second time. -/
theorem nodup_of_resolveSectionsAfter {before : List SectionNames} {keys : List Text}
    {ns : List SectionNames} (h : resolveSectionsAfter rules before keys = .ok ns) :
    (keys.map (typeOf rules)).Nodup ∧ ∀ earlier ∈ before,
    earlier.typeName ∉ keys.map (typeOf rules) := by
  induction keys generalizing before ns with
  | nil => simp
  | cons key rest ih =>
    rw [resolveSectionsAfter] at h
    obtain ⟨n, hn, h⟩ := bind_eq_ok.mp h
    obtain ⟨-, rfl, -⟩ := sectionNames_eq_ok hn
    split at h
    · cases h
    · next hnone =>
      obtain ⟨more, hmore, -⟩ := bind_eq_ok.mp h
      obtain ⟨hdistinct, hothers⟩ := ih hmore
      obtain ⟨hfirst, hbefore⟩ := List.forall_mem_cons.mp hothers
      refine ⟨List.nodup_cons.mpr ⟨hfirst, hdistinct⟩, fun earlier hearlier => ?_⟩
      rw [List.map_cons, List.mem_cons, not_or]
      exact ⟨by simpa using List.find?_eq_none.mp hnone earlier hearlier, hbefore earlier hearlier⟩

theorem not_sectionFault_of_resolveSections {keys : List Text} {ns : List SectionNames}
    (h : resolveSections rules keys = .ok ns) : ¬ SectionFault rules keys c := by
  have hnames := resolveSectionsAfter_eq_ok h
  intro fault
  cases fault with
  | empty hkey =>
    obtain ⟨n, -, hn⟩ := exists_of_mem_left hnames hkey
    exact (sectionNames_eq_ok hn).1 rfl
  | typeName hkey hnot =>
    obtain ⟨n, -, hn⟩ := exists_of_mem_left hnames hkey
    obtain ⟨-, rfl, htype, -⟩ := sectionNames_eq_ok hn
    cases htype.symm.trans hnot
  | fieldName hkey hnot =>
    obtain ⟨n, -, hn⟩ := exists_of_mem_left hnames hkey
    obtain ⟨-, rfl, -, hfield⟩ := sectionNames_eq_ok hn
    cases hfield.symm.trans hnot
  | collision hfirst hkey hne hsame =>
    exact hne (List.inj_on_of_nodup_map (nodup_of_resolveSectionsAfter h).1 hfirst hkey hsame)

/-- No accessor is given a second time. -/
theorem nodup_of_resolveMembersAfter {sectionKey : Text} {before keys names : List Text}
    (h : resolveMembersAfter rules sectionKey before keys = .ok names) :
    (keys.map (accessorOf rules)).Nodup ∧
    ∀ earlier ∈ before, earlier ∉ keys.map (accessorOf rules) := by
  induction keys generalizing before names with
  | nil => simp
  | cons key rest ih =>
    rw [resolveMembersAfter] at h
    obtain ⟨name, hname, h⟩ := bind_eq_ok.mp h
    obtain ⟨-, rfl, -⟩ := accessorName_eq_ok hname
    split at h
    · cases h
    · next hnew =>
      obtain ⟨more, hmore, -⟩ := bind_eq_ok.mp h
      obtain ⟨hdistinct, hothers⟩ := ih hmore
      obtain ⟨hfirst, hbefore⟩ := List.forall_mem_cons.mp hothers
      refine ⟨List.nodup_cons.mpr ⟨hfirst, hdistinct⟩, fun earlier hearlier => ?_⟩
      rw [List.map_cons, List.mem_cons, not_or]
      refine ⟨?_, hbefore earlier hearlier⟩
      rintro rfl
      exact hnew hearlier

theorem not_phraseFault_of_resolveMembers {sectionKey : Text} {keys names : List Text}
    (h : resolveMembers rules sectionKey keys = .ok names) :
    ¬ PhraseFault rules sectionKey keys c := by
  have hnames := resolveMembersAfter_eq_ok h
  intro fault
  cases fault with
  | empty hkey =>
    obtain ⟨name, -, hname⟩ := exists_of_mem_left hnames hkey
    exact (accessorName_eq_ok hname).1 rfl
  | name hkey hnot =>
    obtain ⟨name, -, hname⟩ := exists_of_mem_left hnames hkey
    obtain ⟨-, rfl, hidentifier⟩ := accessorName_eq_ok hname
    cases hidentifier.symm.trans hnot
  | collision hfirst hkey hne hsame =>
    exact hne (List.inj_on_of_nodup_map (nodup_of_resolveMembersAfter h).1 hfirst hkey hsame)

/-! ## Documents -/

theorem keyFault_of_resolveSections (hnil : rules.isTypeName [] = false) {document : Document}
    (h : resolveSections rules document.sections.keys = .error c) : KeyFault rules document c := by
  have hfault : SectionFault rules ([] ++ document.sections.keys) c :=
    sectionFault_of_resolveSectionsAfter hnil (List.forall_mem_nil _) document.sections.distinct h
  exact .ofSection hfault

theorem keyFault_of_resolveMembers {document : Document} {phrases : Phrases}
    (hsection : (key, phrases) ∈ document.sections.entries)
    (h : resolveMembers rules key phrases.keys = .error c) : KeyFault rules document c := by
  have hfault : PhraseFault rules key ([] ++ phrases.keys) c :=
    phraseFault_of_resolveMembersAfter phrases.distinct h
  exact .ofPhrase hsection hfault

end LocaleGen.Naming
