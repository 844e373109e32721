import LocaleGen.Proofs.SectionNames
import LocaleGen.Proofs.WidthFolding
import Mathlib

/-!
# The first key at fault

The names of keys are resolved one after the other, each with a view to those before it (`scan`). So
a list of keys is resolved just if no key is at fault, and otherwise refused for the first one that
is, whatever stands behind it (`Settles`). For sections that is `resolveSections_decides`. The
accessors of distinct keys are only the same if one key is a reserved word and the other one is this
word with the suffix, so `resolveMembers_decides` says which keys have accessors without naming any
accessor.
-/

namespace LocaleGen

/-! ## Results one after the other -/

section Scan

variable {ε α β : Type} {step : List β → α → Except ε β} {as : List α} {a : α}
    {bs : List β} {b : β} {e : ε}

/-- The results for the members of a list in their order. A step sees the results before it, the
latest of which stands first. -/
def scan (step : List β → α → Except ε β) (before : List β) (as : List α) : Except ε (List β) :=
  match as with
  | [] => .ok []
  | a :: rest => do
    let b ← step before a
    .ok (b :: (← scan step (b :: before) rest))

theorem scan_append_eq_ok {before : List β} {as' : List α} :
    scan step before (as ++ as') = .ok bs ↔ ∃ front back, scan step before as = .ok front ∧
      scan step (front.reverse ++ before) as' = .ok back ∧ bs = front ++ back := by
  induction as generalizing before bs with
  | nil => simp [scan, eq_comm]
  | cons a rest ih =>
    simp only [List.cons_append, scan, bind_eq_ok, ih]
    constructor
    · rintro ⟨b, hb, _, ⟨front, back, hfront, hback, rfl⟩, heq⟩
      cases heq
      exact ⟨b :: front, back, ⟨b, hb, front, hfront, rfl⟩, by simpa using hback, rfl⟩
    · rintro ⟨_, back, ⟨b, hb, front, hfront, heq⟩, hback, rfl⟩
      cases heq
      exact ⟨b, hb, front ++ back, ⟨front, back, hfront, by simpa using hback, rfl⟩, rfl⟩

theorem scan_concat_eq_ok : scan step [] (as ++ [a]) = .ok bs ↔
    ∃ front b, scan step [] as = .ok front ∧ step front.reverse a = .ok b ∧ bs = front ++ [b] := by
  rw [scan_append_eq_ok]
  constructor
  · rintro ⟨front, back, hfront, hback, rfl⟩
    rw [List.append_nil] at hback
    obtain ⟨b, hb, heq⟩ := bind_eq_ok.mp hback
    cases heq
    exact ⟨front, b, hfront, hb, rfl⟩
  · rintro ⟨front, b, hfront, hb, rfl⟩
    refine ⟨front, [b], hfront, ?_, rfl⟩
    rw [List.append_nil]
    exact bind_eq_ok.mpr ⟨b, hb, rfl⟩

/-- A scan fails at one member, with all results before it. -/
theorem scan_eq_error_iff {before : List β} : scan step before as = .error e ↔
    ∃ done a rest front, as = done ++ a :: rest ∧ scan step before done = .ok front ∧
      step (front.reverse ++ before) a = .error e := by
  induction as generalizing before with
  | nil => simp [scan]
  | cons a as ih =>
    rw [scan, bind_eq_error]
    constructor
    · rintro (hfirst | ⟨b, hb, h⟩)
      · exact ⟨[], a, as, [], rfl, rfl, hfirst⟩
      · rcases bind_eq_error.mp h with hrest | ⟨_, -, h⟩
        · obtain ⟨done, a', rest, front, rfl, hfront, hfails⟩ := ih.mp hrest
          refine ⟨a :: done, a', rest, b :: front, rfl, ?_, by simpa using hfails⟩
          simp [scan, hb, hfront]
        · cases h
    · rintro ⟨done, a', rest, front, heq, hfront, hfails⟩
      cases done with
      | nil =>
        cases heq
        cases hfront
        exact .inl hfails
      | cons first done =>
        cases heq
        obtain ⟨b, hb, h⟩ := bind_eq_ok.mp hfront
        obtain ⟨front, hdone, h⟩ := bind_eq_ok.mp h
        cases h
        have hrest := ih.mpr ⟨done, a', rest, front, rfl, hdone, by simpa using hfails⟩
        exact .inr ⟨b, hb, bind_eq_error.mpr (.inl hrest)⟩

/-- What a step comes to behind members that are sound together: it gives the result `f a` or is
refused, and `Sound` and `Refused` say when, without the results. -/
structure Settles (step : List β → α → Except ε β) (f : α → β) (Sound : List α → Prop)
    (Refused : List α → α → ε → Prop) : Prop where
  nil : Sound []
  concat : ∀ as a, Sound (as ++ [a]) ↔ Sound as ∧ step (as.map f).reverse a = .ok (f a)
  result : ∀ before a b, step before a = .ok b → b = f a
  refused : ∀ as a e, Sound as → (step (as.map f).reverse a = .error e ↔ Refused as a e)

variable {f : α → β} {Sound : List α → Prop} {Refused : List α → α → ε → Prop}

/-- The induction is from the front, since what is sound with a member was sound before it. -/
theorem Settles.eq_ok_iff (h : Settles step f Sound Refused) :
    scan step [] as = .ok bs ↔ Sound as ∧ bs = as.map f := by
  induction as using List.reverseRecOn generalizing bs with
  | nil => simp [scan, h.nil, eq_comm]
  | append_singleton as a ih =>
    rw [scan_concat_eq_ok, h.concat]
    constructor
    · rintro ⟨front, b, hfront, hb, rfl⟩
      obtain ⟨hsound, rfl⟩ := ih.mp hfront
      obtain rfl := h.result _ a b hb
      exact ⟨⟨hsound, hb⟩, by simp⟩
    · rintro ⟨⟨hsound, hstep⟩, rfl⟩
      exact ⟨as.map f, f a, ih.mpr ⟨hsound, rfl⟩, hstep, by simp⟩

theorem Settles.eq_error_iff (h : Settles step f Sound Refused) : scan step [] as = .error e ↔
    ∃ before a after, as = before ++ a :: after ∧ Sound before ∧ Refused before a e := by
  rw [scan_eq_error_iff]
  constructor
  · rintro ⟨before, a, after, front, rfl, hfront, hfails⟩
    obtain ⟨hsound, rfl⟩ := h.eq_ok_iff.mp hfront
    rw [List.append_nil] at hfails
    exact ⟨before, a, after, rfl, hsound, (h.refused before a e hsound).mp hfails⟩
  · rintro ⟨before, a, after, rfl, hsound, hrefused⟩
    refine ⟨before, a, after, before.map f, rfl, h.eq_ok_iff.mpr ⟨hsound, rfl⟩, ?_⟩
    rw [List.append_nil]
    exact (h.refused before a e hsound).mpr hrefused

end Scan

/-! ## Lists under a function -/

section Mapped

variable {α β : Type} {f : α → β} {as : List α} {a : α}

theorem nodup_map_concat : ((as ++ [a]).map f).Nodup ↔ (as.map f).Nodup ∧ f a ∉ as.map f := by
  rw [List.map_append, List.map_singleton, List.nodup_append_comm, List.singleton_append,
    List.nodup_cons, and_comm]

/-- Where no two members have one image, the member with an image is found. -/
theorem find?_image_eq_some_iff [DecidableEq β] (apart : (as.map f).Nodup) {b : β} :
    (as.find? fun a => f a = b) = some a ↔ a ∈ as ∧ f a = b := by
  constructor
  · intro h
    exact ⟨List.mem_of_find?_eq_some h, by simpa using List.find?_some h⟩
  · rintro ⟨ha, hb⟩
    cases hfind : as.find? fun a => f a = b with
    | none => exact absurd hb (by simpa using List.find?_eq_none.mp hfind a ha)
    | some other =>
      have hother : f other = b := by simpa using List.find?_some hfind
      rw [List.inj_on_of_nodup_map apart (List.mem_of_find?_eq_some hfind) ha (hother.trans hb.symm)]

end Mapped

/-- The cause is reported as the fault of a key: the document is malformed by an empty one, and any
other one is in the report as the key that leads to no identifier. -/
structure Cause.Blames (c : Cause) (key : Text) : Prop where
  kind : c.kind = if key = [] then .malformedDocument else .invalidIdentifier
  own : key ≠ [] → ∀ time, (c.failure time []).own = [(Text.ofString "key", Json.text key)]

namespace Naming

open Text

variable {rules : Rules} {before keys : List Text} {key sectionKey : Text} {c : Cause}

/-! ## Sections -/

def namesOf (rules : Rules) (key : Text) : SectionNames :=
  ⟨key, typeOf rules key, (typeOf rules key).lowerFirst⟩

/-- A key that leads to a type and a field. -/
structure HasNames (rules : Rules) (key : Text) : Prop where
  nonempty : key ≠ []
  typeName : rules.isTypeName (typeOf rules key) = true
  fieldName : rules.isIdentifier (typeOf rules key).lowerFirst = true

/-- Keys that lead to names, no two of them to one type. -/
structure HaveNames (rules : Rules) (keys : List Text) : Prop where
  names : ∀ key ∈ keys, HasNames rules key
  apart : (keys.map (typeOf rules)).Nodup

/-- What is wrong with a section key behind others; what is said first comes first. -/
inductive SectionRefusal (rules : Rules) (before : List Text) : Text → Cause → Prop
  | empty : SectionRefusal rules before [] .emptySectionKey
  | typeName {key : Text} : key ≠ [] → rules.isTypeName (typeOf rules key) = false →
      SectionRefusal rules before key (.notIdentifier key (typeOf rules key))
  | fieldName {key : Text} : key ≠ [] → rules.isTypeName (typeOf rules key) = true →
      rules.isIdentifier (typeOf rules key).lowerFirst = false →
      SectionRefusal rules before key (.notIdentifier key (typeOf rules key).lowerFirst)
  | collision {first key : Text} :
      HasNames rules key → first ∈ before → typeOf rules first = typeOf rules key →
      SectionRefusal rules before key (.typeCollision first key (typeOf rules key))

/-- The names of a section behind others, whose names are given with the latest of them first. -/
def namesAfter (rules : Rules) (before : List SectionNames) (key : Text) :
    Except Cause SectionNames := do
  let names ← sectionNames rules key
  match before.find? fun earlier => earlier.typeName = names.typeName with
  | some earlier => .error (.typeCollision earlier.key key names.typeName)
  | none => .ok names

theorem resolveSectionsAfter_eq_scan (before : List SectionNames) :
    resolveSectionsAfter rules before keys = scan (namesAfter rules) before keys := by
  induction keys generalizing before with
  | nil => rfl
  | cons key rest ih =>
    rw [resolveSectionsAfter, scan, namesAfter]
    cases sectionNames rules key with
    | error c => rfl
    | ok names =>
      simp only [ok_bind, ih]
      cases before.find? _ <;> rfl

theorem typeOf_ne_nil (rules : Rules) (hne : key ≠ []) : typeOf rules key ≠ [] := by
  obtain ⟨h, rest, heq, -⟩ := exists_upper_typeOf rules hne
  rw [heq]
  exact List.cons_ne_nil _ _

theorem sectionNames_eq (hne : key ≠ []) : sectionNames rules key =
    if rules.isTypeName (typeOf rules key) = false then
      .error (.notIdentifier key (typeOf rules key))
    else if rules.isIdentifier (typeOf rules key).lowerFirst = false then
      .error (.notIdentifier key (typeOf rules key).lowerFirst)
    else .ok (namesOf rules key) := by
  have hlower : fieldName (typeOf rules key) = .ok (typeOf rules key).lowerFirst :=
    if_neg (typeOf_ne_nil rules hne)
  have htype : typeName rules.reserved key = .ok (typeOf rules key) := typeName_eq _ hne
  rw [sectionNames, htype, ok_bind, ensure]
  cases rules.isTypeName (typeOf rules key) with
  | false => rfl
  | true =>
    rw [if_pos rfl, ok_bind, hlower, ok_bind, ensure]
    cases rules.isIdentifier (typeOf rules key).lowerFirst <;> rfl

theorem HasNames.sectionNames (h : HasNames rules key) :
    sectionNames rules key = .ok (namesOf rules key) := by
  rw [sectionNames_eq h.nonempty, h.typeName, h.fieldName]
  rfl

theorem hasNames_of_sectionNames {n : SectionNames} (h : sectionNames rules key = .ok n) :
    HasNames rules key ∧ n = namesOf rules key := by
  obtain ⟨hne, rfl, htype, hfield⟩ := sectionNames_eq_ok h
  exact ⟨⟨hne, htype, hfield⟩, rfl⟩

/-- Behind other keys a name is looked for among the types that they lead to. -/
theorem namesAfter_of_hasNames (h : HasNames rules key) :
    namesAfter rules (before.map (namesOf rules)).reverse key =
    match before.reverse.find? fun first => typeOf rules first = typeOf rules key with
    | some first => .error (.typeCollision first key (typeOf rules key))
    | none => .ok (namesOf rules key) := by
  rw [namesAfter, h.sectionNames, ok_bind, ← List.map_reverse, List.find?_map]
  show (match Option.map (namesOf rules) (before.reverse.find?
      fun first => typeOf rules first = typeOf rules key) with
    | some earlier => _
    | none => _) = _
  cases before.reverse.find? fun first => typeOf rules first = typeOf rules key <;> rfl

theorem namesAfter_eq_ok_iff :
    namesAfter rules (before.map (namesOf rules)).reverse key = .ok (namesOf rules key) ↔
    HasNames rules key ∧ typeOf rules key ∉ before.map (typeOf rules) := by
  have hnone : (before.reverse.find? fun first => typeOf rules first = typeOf rules key) = none ↔
      typeOf rules key ∉ before.map (typeOf rules) := by
    simp [List.find?_eq_none]
  constructor
  · intro h
    obtain ⟨n, hn, -⟩ := bind_eq_ok.mp h
    have hnames := (hasNames_of_sectionNames hn).1
    refine ⟨hnames, hnone.mp ?_⟩
    rw [namesAfter_of_hasNames hnames] at h
    split at h
    · cases h
    · assumption
  · rintro ⟨hnames, hnew⟩
    rw [namesAfter_of_hasNames hnames, hnone.mpr hnew]

theorem namesAfter_eq_error_iff (apart : (before.map (typeOf rules)).Nodup) :
    namesAfter rules (before.map (namesOf rules)).reverse key = .error c ↔
    SectionRefusal rules before key c := by
  have apart' : (before.reverse.map (typeOf rules)).Nodup := by
    rw [List.map_reverse]
    exact List.nodup_reverse.mpr apart
  constructor
  · intro h
    rcases bind_eq_error.mp h with hnames | ⟨n, hn, -⟩
    · by_cases hne : key = []
      · subst hne
        cases hnames
        exact .empty
      · rw [sectionNames_eq hne] at hnames
        split_ifs at hnames with htype hfield
        · cases hnames
          exact .typeName hne htype
        · cases hnames
          exact .fieldName hne (Bool.not_eq_false _ ▸ htype) hfield
    · have hnames := (hasNames_of_sectionNames hn).1
      rw [namesAfter_of_hasNames hnames] at h
      split at h
      · next first hfound =>
        cases h
        obtain ⟨hfirst, hsame⟩ := (find?_image_eq_some_iff apart').mp hfound
        exact .collision hnames (List.mem_reverse.mp hfirst) hsame
      · cases h
  · intro h
    cases h with
    | empty => rfl
    | typeName hne htype =>
      rw [namesAfter, sectionNames_eq hne, if_pos htype]
      rfl
    | fieldName hne htype hfield =>
      rw [namesAfter, sectionNames_eq hne, if_neg (by simp [htype]), if_pos hfield]
      rfl
    | collision hnames hfirst hsame =>
      rw [namesAfter_of_hasNames hnames,
        (find?_image_eq_some_iff apart').mpr ⟨List.mem_reverse.mpr hfirst, hsame⟩]

theorem haveNames_concat : HaveNames rules (before ++ [key]) ↔
    HaveNames rules before ∧ HasNames rules key ∧ typeOf rules key ∉ before.map (typeOf rules) := by
  constructor
  · rintro ⟨hnames, hapart⟩
    rw [List.forall_mem_append, List.forall_mem_singleton] at hnames
    rw [nodup_map_concat] at hapart
    exact ⟨⟨hnames.1, hapart.1⟩, hnames.2, hapart.2⟩
  · rintro ⟨⟨hnames, hapart⟩, hkey, hnew⟩
    exact ⟨List.forall_mem_append.mpr ⟨hnames, List.forall_mem_singleton.mpr hkey⟩,
      nodup_map_concat.mpr ⟨hapart, hnew⟩⟩

theorem settles_namesAfter (rules : Rules) :
    Settles (namesAfter rules) (namesOf rules) (HaveNames rules) (SectionRefusal rules) where
  nil := ⟨List.forall_mem_nil _, List.nodup_nil⟩
  concat before key := by
    rw [namesAfter_eq_ok_iff, haveNames_concat]
  result earlier key n h := by
    obtain ⟨names, hnames, h⟩ := bind_eq_ok.mp h
    split at h
    · cases h
    · cases h
      exact (hasNames_of_sectionNames hnames).2
  refused before key c h := namesAfter_eq_error_iff h.apart

theorem SectionRefusal.blames (h : SectionRefusal rules before key c) : c.Blames key := by
  cases h with
  | empty => exact ⟨rfl, fun hne => absurd rfl hne⟩
  | typeName hne => exact ⟨(if_neg hne).symm, fun _ _ => rfl⟩
  | fieldName hne => exact ⟨(if_neg hne).symm, fun _ _ => rfl⟩
  | collision hnames => exact ⟨(if_neg hnames.nonempty).symm, fun _ _ => rfl⟩

/-- A second key for a type is refused with the first one in the message. -/
theorem SectionRefusal.collides {first other type : Text}
    (h : SectionRefusal rules before key (.typeCollision first other type)) :
    first ∈ before ∧ typeOf rules first = type ∧ typeOf rules key = type ∧
      first <:+: (Cause.typeCollision first other type).message := by
  cases h with
  | collision _ hfirst hsame =>
    refine ⟨hfirst, hsame, rfl, ?_⟩
    simp only [Cause.message, List.append_assoc]
    exact ⟨_, _, List.append_assoc _ _ _⟩

/-- Section keys are resolved just if all of them lead to names and no two to one type; then each
has its names, in their order. Otherwise they are refused for the first key that is at fault behind
those before it, and the report has that key. -/
theorem resolveSections_decides (rules : Rules) (keys : List Text) :
    ((∃ ns, resolveSections rules keys = .ok ns) ↔ HaveNames rules keys) ∧
    (∀ ns, resolveSections rules keys = .ok ns →
      ns = keys.map (namesOf rules) ∧ (ns.map SectionNames.typeName).Nodup) ∧
    (∀ c, resolveSections rules keys = .error c ↔
      ∃ before key after, keys = before ++ key :: after ∧
      HaveNames rules before ∧ SectionRefusal rules before key c) ∧
    ∀ before key c, SectionRefusal rules before key c → c.Blames key ∧
      ∀ first other type, c = .typeCollision first other type →
        first ∈ before ∧ typeOf rules first = type ∧ typeOf rules key = type ∧ first <:+: c.message := by
  have settles := settles_namesAfter rules
  rw [resolveSections, resolveSectionsAfter_eq_scan]
  refine ⟨⟨?_, fun h => ⟨_, settles.eq_ok_iff.mpr ⟨h, rfl⟩⟩⟩, fun ns h => ?_,
    fun c => settles.eq_error_iff,
    fun before key c h => ⟨h.blames, ?_⟩⟩
  · rintro ⟨ns, h⟩
    exact (settles.eq_ok_iff.mp h).1
  · obtain ⟨names, rfl⟩ := settles.eq_ok_iff.mp h
    refine ⟨rfl, ?_⟩
    rw [List.map_map]
    exact names.apart
  · rintro first other type rfl
    exact h.collides

/-! ## Phrases -/

/-- A key that leads to an accessor. -/
structure HasAccessor (rules : Rules) (key : Text) : Prop where
  nonempty : key ≠ []
  identifier : rules.isIdentifier (accessorOf rules key) = true

/-- Keys that lead to accessors, none of which is made of a reserved word while another key spells
it. -/
structure HaveAccessors (rules : Rules) (keys : List Text) : Prop where
  accessors : ∀ key ∈ keys, HasAccessor rules key
  unsuffixed : ∀ word ∈ rules.reserved, word ∈ keys → word ++ memberSuffix ∉ keys

/-- What is wrong with a phrase key behind others; what is said first comes first. -/
inductive PhraseRefusal (rules : Rules) (sectionKey : Text) (before : List Text) :
    Text → Cause → Prop
  | empty : PhraseRefusal rules sectionKey before [] .emptyPhraseKey
  | name {key : Text} : key ≠ [] → rules.isIdentifier (accessorOf rules key) = false →
      PhraseRefusal rules sectionKey before key (.notIdentifier key (accessorOf rules key))
  | collision {first key : Text} : HasAccessor rules key → first ∈ before →
      accessorOf rules first = accessorOf rules key →
      PhraseRefusal rules sectionKey before key (.memberCollision sectionKey key (accessorOf rules key))

def accessorAfter (rules : Rules) (sectionKey : Text) (before : List Text) (key : Text) :
    Except Cause Text := do
  let name ← accessorName rules key
  if name ∈ before then .error (.memberCollision sectionKey key name) else .ok name

theorem resolveMembersAfter_eq_scan (before : List Text) :
    resolveMembersAfter rules sectionKey before keys =
      scan (accessorAfter rules sectionKey) before keys := by
  induction keys generalizing before with
  | nil => rfl
  | cons key rest ih =>
    rw [resolveMembersAfter, scan, accessorAfter]
    cases accessorName rules key with
    | error c => rfl
    | ok name =>
      simp only [ok_bind, ih]
      split <;> rfl

theorem accessorName_eq (hne : key ≠ []) : accessorName rules key =
    if rules.isIdentifier (accessorOf rules key) = false then
      .error (.notIdentifier key (accessorOf rules key))
    else .ok (accessorOf rules key) := by
  rw [accessorName, memberName_eq rules hne, ok_bind, ensure]
  cases rules.isIdentifier (accessorOf rules key) <;> rfl

theorem HasAccessor.accessorName (h : HasAccessor rules key) :
    accessorName rules key = .ok (accessorOf rules key) := by
  rw [accessorName_eq h.nonempty, h.identifier]
  rfl

theorem hasAccessor_of_accessorName {name : Text} (h : accessorName rules key = .ok name) :
    HasAccessor rules key ∧ name = accessorOf rules key := by
  obtain ⟨hne, rfl, hidentifier⟩ := accessorName_eq_ok h
  exact ⟨⟨hne, hidentifier⟩, rfl⟩

theorem accessorAfter_of_hasAccessor (h : HasAccessor rules key) :
    accessorAfter rules sectionKey (before.map (accessorOf rules)).reverse key =
      if accessorOf rules key ∈ before.map (accessorOf rules) then
        .error (.memberCollision sectionKey key (accessorOf rules key))
      else .ok (accessorOf rules key) := by
  simp only [accessorAfter, h.accessorName, ok_bind, List.mem_reverse]

theorem accessorAfter_eq_ok_iff :
    accessorAfter rules sectionKey (before.map (accessorOf rules)).reverse key =
      .ok (accessorOf rules key) ↔
      HasAccessor rules key ∧ accessorOf rules key ∉ before.map (accessorOf rules) := by
  constructor
  · intro h
    obtain ⟨name, hname, -⟩ := bind_eq_ok.mp h
    have haccessor := (hasAccessor_of_accessorName hname).1
    rw [accessorAfter_of_hasAccessor haccessor] at h
    split_ifs at h with hmem
    exact ⟨haccessor, hmem⟩
  · rintro ⟨haccessor, hnew⟩
    rw [accessorAfter_of_hasAccessor haccessor, if_neg hnew]

theorem accessorAfter_eq_error_iff :
    accessorAfter rules sectionKey (before.map (accessorOf rules)).reverse key = .error c ↔
      PhraseRefusal rules sectionKey before key c := by
  constructor
  · intro h
    rcases bind_eq_error.mp h with hname | ⟨name, hname, -⟩
    · by_cases hne : key = []
      · subst hne
        cases hname
        exact .empty
      · rw [accessorName_eq hne] at hname
        split_ifs at hname with hnot
        cases hname
        exact .name hne hnot
    · have haccessor := (hasAccessor_of_accessorName hname).1
      rw [accessorAfter_of_hasAccessor haccessor] at h
      split_ifs at h with hmem
      cases h
      obtain ⟨first, hfirst, hsame⟩ := List.mem_map.mp hmem
      exact .collision haccessor hfirst hsame
  · intro h
    cases h with
    | empty => rfl
    | name hne hnot =>
      rw [accessorAfter, accessorName_eq hne, if_pos hnot]
      rfl
    | collision haccessor hfirst hsame =>
      rw [accessorAfter_of_hasAccessor haccessor, if_pos (hsame ▸ List.mem_map_of_mem hfirst)]

theorem settles_accessorAfter (rules : Rules) (sectionKey : Text) :
    Settles (accessorAfter rules sectionKey) (accessorOf rules)
      (fun keys => (∀ key ∈ keys, HasAccessor rules key) ∧ (keys.map (accessorOf rules)).Nodup)
      (PhraseRefusal rules sectionKey) where
  nil := ⟨List.forall_mem_nil _, List.nodup_nil⟩
  concat before key := by
    rw [accessorAfter_eq_ok_iff, List.forall_mem_append, List.forall_mem_singleton,
      nodup_map_concat, and_and_and_comm]
  result earlier key name h := by
    obtain ⟨_, hname, h⟩ := bind_eq_ok.mp h
    split_ifs at h
    cases h
    exact (hasAccessor_of_accessorName hname).2
  refused before key c _ := accessorAfter_eq_error_iff

/-! ### Accessors that are the same -/

def Suffixed (reserved : List Text) (word key : Text) : Prop :=
  word ∈ reserved ∧ key = word ++ memberSuffix

theorem areSuffixable_of_endings {reserved : List Text}
    (h : ∀ word ∈ reserved, (∀ c ∈ word, c.isAscii = true) ∧
      word.getLast? ≠ memberSuffix.getLast?) :
    AreSuffixable reserved := by
  refine fun word hword => ⟨(h word hword).1, fun hmem => (h _ hmem).2 ?_⟩
  rw [List.getLast?_append]
  rfl

theorem areSuffixable_target (target : Target) : AreSuffixable target.reserved := by
  cases target with
  | dart => exact areSuffixable_of_endings (by decide +kernel)
  | python => exact areSuffixable_reserved

/-- Two keys have one accessor just if one of them is what is made of the other. -/
theorem accessorOf_eq_iff (hwords : AreSuffixable rules.reserved) {k k' : Text} (hne : k ≠ k') :
    accessorOf rules k = accessorOf rules k' ↔
    Suffixed rules.reserved k k' ∨ Suffixed rules.reserved k' k := by
  by_cases hk : k ∈ rules.reserved <;> by_cases hk' : k' ∈ rules.reserved
  · rw [accessorOf_reserved hk, accessorOf_reserved hk']
    refine iff_of_false (fun heq => hne (List.append_cancel_right heq)) ?_
    -- what is made of a reserved word is not reserved itself
    rintro (⟨-, rfl⟩ | ⟨-, rfl⟩)
    · exact (hwords k hk).2 hk'
    · exact (hwords k' hk').2 hk
  · simp [Suffixed, hk, hk', eq_comm]
  · simp [Suffixed, hk, hk']
  · simp [Suffixed, hk, hk', hne]

theorem haveAccessors_iff (hwords : AreSuffixable rules.reserved) (distinct : keys.Nodup) :
    HaveAccessors rules keys ↔ (∀ key ∈ keys, HasAccessor rules key) ∧
    (keys.map (accessorOf rules)).Nodup := by
  have hsuffix (word : Text) : word ≠ word ++ memberSuffix := fun h => by
    simp [memberSuffix, ofString] at h
  constructor
  · rintro ⟨haccessors, hunsuffixed⟩
    refine ⟨haccessors, distinct.map_on fun k hk k' hk' hsame => ?_⟩
    by_contra hne
    rcases (accessorOf_eq_iff hwords hne).mp hsame with ⟨hword, rfl⟩ | ⟨hword, rfl⟩
    · exact hunsuffixed k hword hk hk'
    · exact hunsuffixed k' hword hk' hk
  · rintro ⟨haccessors, hapart⟩
    refine ⟨haccessors, fun word hword hmem hsuffixed => ?_⟩
    have hsame := (accessorOf_eq_iff hwords (hsuffix word)).mpr (.inl ⟨hword, rfl⟩)
    exact hsuffix word (List.inj_on_of_nodup_map hapart hmem hsuffixed hsame)

theorem PhraseRefusal.blames (h : PhraseRefusal rules sectionKey before key c) : c.Blames key := by
  cases h with
  | empty => exact ⟨rfl, fun hne => absurd rfl hne⟩
  | name hne => exact ⟨(if_neg hne).symm, fun _ _ => rfl⟩
  | collision haccessor => exact ⟨(if_neg haccessor.nonempty).symm, fun _ _ => rfl⟩

/-- Distinct keys have accessors just if each leads to one and none spells what is made of a
reserved word among them; then each has its own, in their order, none is a reserved word, and the
class of the section defines one for each phrase. Otherwise the keys are refused for the first one
that is at fault behind those before it, and the report has that key. -/
theorem resolveMembers_decides {keys : List Text} (distinct : keys.Nodup) (target : Target)
    (sectionKey : Text) :
    ((∃ names, resolveMembers target.namingRules sectionKey keys = .ok names) ↔
      HaveAccessors target.namingRules keys) ∧
    (∀ names, resolveMembers target.namingRules sectionKey keys = .ok names →
      names = keys.map (accessorOf target.namingRules) ∧ names.Nodup ∧
      (∀ name ∈ names, name ∉ target.reserved) ∧
      ∀ (phrases : Phrases) (type block : Text), phrases.keys = keys →
        Artifact.sectionBlock target type sectionKey phrases = .ok block →
        ∃ keyLiteral ms, block = target.spell (.sectionClass type keyLiteral ms) ∧
          List.Forall₂ (Artifact.IsMember target) phrases.entries ms ∧ ms.map Member.name = names) ∧
    (∀ c, resolveMembers target.namingRules sectionKey keys = .error c ↔
      ∃ before key after, keys = before ++ key :: after ∧ HaveAccessors target.namingRules before ∧
        PhraseRefusal target.namingRules sectionKey before key c) ∧
    (∀ before key c, PhraseRefusal target.namingRules sectionKey before key c → c.Blames key) ∧
    ∀ first ∈ keys, ∀ key ∈ keys, first ≠ key →
      (accessorOf target.namingRules first = accessorOf target.namingRules key ↔
        Suffixed target.reserved first key ∨ Suffixed target.reserved key first) := by
  have hwords : AreSuffixable target.namingRules.reserved := areSuffixable_target target
  have settles := settles_accessorAfter target.namingRules sectionKey
  rw [resolveMembers, resolveMembersAfter_eq_scan, haveAccessors_iff hwords distinct]
  refine ⟨⟨?_, fun h => ⟨_, settles.eq_ok_iff.mpr ⟨h, rfl⟩⟩⟩, fun names h => ?_, fun c => ?_,
    fun before key c h => h.blames, fun first _ key _ hne => accessorOf_eq_iff hwords hne⟩
  · rintro ⟨names, h⟩
    exact (settles.eq_ok_iff.mp h).1
  · obtain ⟨⟨-, hapart⟩, rfl⟩ := settles.eq_ok_iff.mp h
    refine ⟨rfl, hapart, ?_, ?_⟩
    · rw [List.forall_mem_map]
      exact fun key _ => accessorOf_notMem hwords key
    · rintro phrases type block rfl hblock
      obtain ⟨_, ms, keyLiteral, -, hmembers, -, rfl⟩ := Artifact.sectionBlock_eq_ok hblock
      exact ⟨keyLiteral, ms, rfl, hmembers, Artifact.names_of_members hmembers⟩
  · rw [settles.eq_error_iff]
    refine exists_congr fun before => exists_congr fun key => exists_congr fun after =>
      and_congr_right fun heq => ?_
    rw [haveAccessors_iff hwords (heq ▸ distinct).of_append_left]

/-- The keyword `class` has an accessor of its own, and is refused behind the key that spells it. -/
theorem resolveMembers_decides_class :
    (∃ names, resolveMembers Target.dart.namingRules "general" (words ["class", "ok"]) = .ok names ∧
      names = words ["class_", "ok"] ∧ names.Nodup) ∧
    ¬ ∃ names, resolveMembers Target.python.namingRules "general" (words ["class_", "ok",
      "class"]) = .ok names := by
  constructor
  · have hok : resolveMembers Target.dart.namingRules "general" (words ["class", "ok"]) =
        .ok (words ["class_", "ok"]) := by
      decide +kernel
    obtain ⟨-, hnames, -⟩ :=
      resolveMembers_decides (by decide : (words ["class", "ok"]).Nodup) .dart "general"
    exact ⟨_, hok, rfl, (hnames _ hok).2.1⟩
  · obtain ⟨hdecides, -⟩ :=
      resolveMembers_decides (by decide : (words ["class_", "ok", "class"]).Nodup) .python "general"
    rw [hdecides]
    rintro ⟨-, hunsuffixed⟩
    exact hunsuffixed "class" (by decide) (by decide) (by decide)

end Naming

end LocaleGen
