import LocaleGen.Proofs.Result
import LocaleGen.Settings.File
import Mathlib

/-!
# Settings that replace those of a file

Loading a file with values that replace some of its own is loading a file in which these values
stand (`Settings.load_eq`). The two differ in what the values look like far inside, where the one
comes from a file and the other one does not, but no setting stands there: what is decoded depends
on the kind of a value and on the kinds of its members only (`Json.SameMembers`).
-/

namespace LocaleGen

/-- The pairs of a dictionary are looked up like the list that it has been made from, where the last
pair with a key counts. -/
theorem Dict.lookup_ofList {α : Type} (pairs : List (Text × α)) (name : Text) :
    (Dict.ofList pairs).entries.lookup name = pairs.reverse.lookup name := by
  have same : instBEqOfDecidableEq = (inferInstance : BEq Text) := lawful_beq_subsingleton _ _
  have found := Dict.get?_ofList pairs name
  rw [Dict.get?, same] at found
  exact found

/-! ## Structured data in a file -/

namespace Yaml.Value

mutual

/-- The value of a file that structured data is written as. Of several members with a name the first
one counts, and in a file the last one. -/
def embed (v : Json) : Value :=
  match v with
  | .null => .null
  | .bool b => .bool b
  | .int i => .int i
  | .float x => .float x
  | .text t => .text t
  | .list items => .list (embedItems items)
  | .object members => .mapping (embedMembers members)

def embedItems (items : List Json) : List Value :=
  match items with
  | [] => []
  | v :: rest => embed v :: embedItems rest

def embedMembers (members : List (Text × Json)) : List (Value × Value) :=
  match members with
  | [] => []
  | (name, v) :: rest => embedMembers rest ++ [(.text name, embed v)]

end

theorem at?_cons (members : List (Value × Value)) (name : Text) (rest : List Text) :
    (mapping members).at? (name :: rest) = ((mapping members).at? [name]).bind fun v =>
      v.at? rest := by
  simp only [at?, Option.bind_assoc]
  rfl

theorem at?_append (members later : List (Value × Value)) (name : Text) :
    (mapping (members ++ later)).at? [name] =
      ((mapping later).at? [name]).or ((mapping members).at? [name]) := by
  simp only [at?, List.reverse_append, List.find?_append]
  cases List.find? _ later.reverse <;> rfl

@[simp] theorem at?_text (key name : Text) (v : Value) :
    (mapping [(.text key, v)]).at? [name] = if key = name then some v else none := by
  by_cases h : key = name <;> simp [at?, h]

@[simp] theorem at?_embedMembers (members : List (Text × Json)) (name : Text) :
    (mapping (embedMembers members)).at? [name] = (members.lookup name).map embed := by
  induction members with
  | nil => rfl
  | cons m rest ih =>
    obtain ⟨key, v⟩ := m
    rw [embedMembers, at?_append, at?_text, ih, List.lookup_cons]
    by_cases h : key = name
    · simp [h]
    · have hne : (name == key) = false := by simpa using Ne.symm h
      simp [h, hne]

/-- Structured data has structured data inside. -/
theorem at?_embed {path : List Text} {v : Json} {found : Value}
    (h : (embed v).at? path = some found) : ∃ w, found = embed w := by
  induction path generalizing v with
  | nil => exact ⟨v, (Option.some.inj h).symm⟩
  | cons name rest ih =>
    cases v with
    | object members =>
      rw [embed, at?_cons, at?_embedMembers] at h
      obtain ⟨_, hlookup, h⟩ := Option.bind_eq_some_iff.mp h
      obtain ⟨w, -, rfl⟩ := Option.map_eq_some_iff.mp hlookup
      exact ih h
    | _ => cases h

theorem isRaw_embed (v : Json) : (embed v).isRaw = false := by
  cases v <;> rfl

/-- What the members of a file give under a name. -/
theorem lookup_toMembers (depth : Nat) (members : List (Value × Value)) (name : Text) :
    (toMembers (depth + 1) members).reverse.lookup name =
      ((mapping members).at? [name]).map (toJson depth) := by
  induction members with
  | nil => rfl
  | cons m rest ih =>
    obtain ⟨key, v⟩ := m
    rw [← List.singleton_append, at?_append, Option.map_or, ← ih]
    cases key with
    | text key =>
      rw [List.singleton_append, toMembers, at?_text, List.reverse_cons, List.lookup_append]
      by_cases h : key = name
      · simp [h]
      · have hne : (name == key) = false := by simpa using Ne.symm h
        simp [h, List.lookup_cons, hne]
    | _ => simp [toMembers, at?]

end Yaml.Value

/-! ## What decoding depends on -/

namespace Json

/-- The same value, or two lists or two objects whatever is in them. -/
inductive SameKind : Json → Json → Prop
  | refl (v : Json) : SameKind v v
  | list (items items' : List Json) : SameKind (.list items) (.list items')
  | object (members members' : List (Text × Json)) : SameKind (.object members) (.object members')

/-- Values of one kind whose members are of one kind. -/
structure SameMembers (v w : Json) : Prop where
  kind : v.SameKind w
  members : ∀ name, Option.Rel SameKind (v.member? name) (w.member? name)

variable {v w : Json}

theorem sameKind_toJson (depth : Nat) (v : Json) :
    v.SameKind ((Yaml.Value.embed v).toJson depth) := by
  cases v with
  | list items => exact .list _ _
  | object members => exact .object _ _
  | _ => exact .refl _

theorem sameMembers_toJson (depth : Nat) (v : Json) :
    v.SameMembers ((Yaml.Value.embed v).toJson (depth + 1)) where
  kind := sameKind_toJson _ v
  members name := by
    cases v with
    | object members =>
      have found : ((Yaml.Value.embed (.object members)).toJson (depth + 1)).member? name =
          (members.lookup name).map fun w => (Yaml.Value.embed w).toJson depth := by
        rw [Yaml.Value.embed, Yaml.Value.toJson, member?, Dict.lookup_ofList,
          Yaml.Value.lookup_toMembers,
          Yaml.Value.at?_embedMembers, Option.map_map]
        rfl
      rw [found, member?]
      cases members.lookup name with
      | none => exact .none
      | some w => exact .some (sameKind_toJson depth w)
    | _ => exact .none

theorem SameMembers.refl (v : Json) : v.SameMembers v where
  kind := .refl v
  members name := by
    cases v.member? name with
    | none => exact .none
    | some w => exact .some (.refl w)

end Json

namespace Decoding

open Json (SameKind SameMembers)

variable {α : Type} {v w : Json}

theorem text_of_sameKind (h : v.SameKind w) : text v = text w := by
  cases h <;> rfl

theorem number_of_sameKind (h : v.SameKind w) : number v = number w := by
  cases h <;> rfl

theorem truth_of_sameKind (h : v.SameKind w) : truth v = truth w := by
  cases h <;> rfl

/-- A member that is a scalar depends on its kind. -/
theorem optional_scalar {decode : Json → Except Issue α}
    (same : ∀ {v w : Json}, v.SameKind w → decode v = decode w)
    {members members' : List (Text × Json)} {name : Text}
    (h : Option.Rel SameKind (members.lookup name) (members'.lookup name)) (default : α) :
    optional (scalar decode) members name default =
      optional (scalar decode) members' name default := by
  unfold optional
  generalize members.lookup name = found, members'.lookup name = found' at h
  cases h with
  | none => rfl
  | some h => simp only [scalar, same h]

/-- A member that is an object depends on its members. -/
theorem optional_nested {decode : Json → Decoded α}
    (same : ∀ {v w : Json}, v.SameMembers w → decode v = decode w)
    {members members' : List (Text × Json)} {name : Text}
    (h : Option.Rel SameMembers (members.lookup name) (members'.lookup name)) (default : α) :
    optional (nested decode) members name default =
      optional (nested decode) members' name default := by
  unfold optional
  generalize members.lookup name = found, members'.lookup name = found' at h
  cases h with
  | none => rfl
  | some h => simp only [nested, same h]

theorem object_bind {model : Text} {f : List (Text × Json) → Decoded α} (h : v.SameMembers w)
    (same : ∀ members members' : List (Text × Json),
      (∀ name, Option.Rel SameKind (members.lookup name) (members'.lookup name)) →
      f members = f members') :
    (object model v >>= f) = (object model w >>= f) := by
  obtain ⟨kind, inside⟩ := h
  cases kind with
  | refl | list => rfl
  | object members members' => exact same members members' inside

end Decoding

open Json (SameKind SameMembers)
open Decoding

theorem checkedText_of_sameKind {α : Type} {check : Text → Except Text α} {v w : Json}
    (h : v.SameKind w) : checkedText check v = checkedText check w := by
  rw [checkedText, checkedText, text_of_sameKind h]

theorem Settings.timeout_of_sameKind {v w : Json} (h : v.SameKind w) : timeout v = timeout w := by
  rw [timeout, timeout, number_of_sameKind h]

theorem ApiSettings.decode_of_sameMembers {v w : Json} (h : v.SameMembers w) :
    decode v = decode w :=
  object_bind h fun members members' same => by
    simp only [optional_scalar checkedText_of_sameKind (same _),
      optional_scalar Settings.timeout_of_sameKind (same _),
      optional_scalar truth_of_sameKind (same _)]

theorem LoggingSettings.decode_of_sameMembers {v w : Json} (h : v.SameMembers w) :
    decode v = decode w :=
  object_bind h fun members members' same => by
    simp only [optional_scalar checkedText_of_sameKind (same _),
      optional_scalar text_of_sameKind (same _)]

/-- What is decoded depends on the kinds of the values and of their members. -/
theorem Settings.decode_of_sameMembers {members members' : List (Text × Json)}
    (same : ∀ name, Option.Rel SameMembers (members.lookup name) (members'.lookup name)) :
    decode members = decode members' := by
  have kinds (name : Text) : Option.Rel SameKind (members.lookup name) (members'.lookup name) := by
    have h := same name
    generalize members.lookup name = found, members'.lookup name = found' at h
    cases h with
    | none => exact .none
    | some h => exact .some h.kind
  simp only [decode, optional_scalar checkedText_of_sameKind (kinds _),
    optional_nested ApiSettings.decode_of_sameMembers (same _),
      optional_nested LoggingSettings.decode_of_sameMembers (same _)]

/-! ## Replacing -/

namespace Settings

def replacement? (overrides : List (Text × Json)) (name : Text) : Option Json :=
  (overrides.filter fun m => !m.2.isNull).reverse.lookup name

def Replaces (overrides : List (Text × Json)) (members members' : List (Yaml.Value × Yaml.Value)) :
    Prop :=
  ∀ name, (Yaml.Value.mapping members').at? [name] =
    ((replacement? overrides name).map Yaml.Value.embed).or
      ((Yaml.Value.mapping members).at? [name])

theorem lookup_override (members overrides : List (Text × Json)) (name : Text) :
    (override members overrides).lookup name =
      (replacement? overrides name).or (members.reverse.lookup name) := by
  rw [override, Dict.lookup_ofList, List.reverse_append, List.lookup_append, replacement?]

theorem override_nil (members : List (Text × Json)) (name : Text) :
    (override members []).lookup name = members.reverse.lookup name := by
  rw [lookup_override]
  rfl

theorem isRaw_cons (members : List (Yaml.Value × Yaml.Value)) (overrides : List (Text × Json))
    (name : Text) (rest : List Text) : isRaw members overrides (name :: rest) =
      ((replacement? overrides name).isNone &&
        ((Yaml.Value.mapping members).at? (name :: rest)).any Yaml.Value.isRaw) := by
  have replaced : (overrides.any fun m => (name :: rest).head? = some m.1 && !m.2.isNull) =
      (replacement? overrides name).isSome := by
    rw [Bool.eq_iff_iff, List.any_eq_true, replacement?, List.lookup_isSome_iff]
    constructor
    · rintro ⟨m, hm, hreplaces⟩
      simp only [List.head?_cons, Bool.and_eq_true, decide_eq_true_eq,
        Option.some.injEq] at hreplaces
      exact ⟨m, List.mem_reverse.mpr (List.mem_filter.mpr ⟨hm, hreplaces.2⟩), by simpa using hreplaces.1⟩
    · rintro ⟨m, hm, hname⟩
      obtain ⟨hm, hnull⟩ := List.mem_filter.mp (List.mem_reverse.mp hm)
      exact ⟨m, hm, by simpa [hnull] using hname⟩
  show (!(overrides.any fun m => (name :: rest).head? = some m.1 && !m.2.isNull) && _) = _
  rw [replaced, Option.not_isSome]

variable {tree tree' : FileTree} {source : SettingsSource} {overrides : List (Text × Json)}
  {members members' : List (Yaml.Value × Yaml.Value)}

theorem decode_override (h : Replaces overrides members members') :
    decode (override (Yaml.Value.toMembers settingsDepth members) overrides) =
      decode (override (Yaml.Value.toMembers settingsDepth members') []) := by
  refine decode_of_sameMembers fun name => ?_
  rw [lookup_override, override_nil, settingsDepth, Yaml.Value.lookup_toMembers,
    Yaml.Value.lookup_toMembers, h name]
  cases replacement? overrides name with
  | none =>
    simp only [Option.none_or, Option.map_none]
    cases (Yaml.Value.mapping members).at? [name] with
    | none => exact .none
    | some v => exact .some (.refl _)
  | some v => exact .some (Json.sameMembers_toJson 0 v)

/-- Bytes that encode no text are where they were, unless they have been replaced. -/
theorem isRaw_override (h : Replaces overrides members members') (path : List Text) :
    isRaw members overrides path = isRaw members' [] path := by
  cases path with
  | nil => simp [isRaw, Yaml.Value.at?, Yaml.Value.isRaw]
  | cons name rest =>
    rw [isRaw_cons, isRaw_cons, Yaml.Value.at?_cons members', h name, Yaml.Value.at?_cons members]
    cases replacement? overrides name with
    | none => rfl
    | some v =>
      simp only [Option.isNone_some, Bool.false_and, Option.map_some, Option.some_or,
        Option.bind_some]
      cases hfound : (Yaml.Value.embed v).at? rest with
      | none => rfl
      | some found =>
        obtain ⟨w, rfl⟩ := Yaml.Value.at?_embed hfound
        exact (Yaml.Value.isRaw_embed w).symm

/-- Loading a file with values that replace some of its own is loading a file in which these values
stand. -/
theorem load_eq [NestingLimits] (hmembers : source.members tree = .ok members)
    (hmembers' : source.members tree' = .ok members')
    (unnamed : ∀ m ∈ overrides, m.1 ≠ Text.ofString "config_path")
    (h : Replaces overrides members members') :
    load tree source overrides = load tree' source [] := by
  have allowed : checkOverrides overrides = .ok () := by
    refine if_neg fun named => ?_
    obtain ⟨m, hm, hname⟩ := List.any_eq_true.mp named
    exact unnamed m hm (of_decide_eq_true hname)
  simp only [load, allowed, hmembers, hmembers', ok_bind, decode_override h]
  cases decode (override (Yaml.Value.toMembers settingsDepth members') []) with
  | ok s => rfl
  | error found =>
    cases found with
    | nil => rfl
    | cons first rest =>
      simp only [isRaw_override h first.path]
      rfl

end Settings

end LocaleGen
