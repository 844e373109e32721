import LocaleGen.Proofs.FileFrame
import LocaleGen.Settings.File
import Mathlib

/-!
# How settings fail to load

`SettingsSource.Fails` lists what may be wrong with a settings file and the fault that it ends in.
Loading ends in these faults and in no others: `Settings.load_eq_error_iff`. Some of them are
causes, which are reported; the others are not foreseen.
-/

namespace LocaleGen

def Finding.quoted? (f : Finding) : Option (Nat × Text) :=
  match f.issue with
  | .rejected reason => Utf8.firstSurrogates reason
  | _ => none

theorem Fault.ofFindings_eq (findings : List Finding) :
    Fault.ofFindings findings = (findings.findSome? Finding.quoted?).elim (.invalid findings)
    fun quote =>
      .unencodable .utf8 quote.1 quote.2 := by
  unfold Fault.ofFindings
  simp only
  split
  · next position run quoted =>
    have quoted : findings.findSome? Finding.quoted? = some (position, run) := quoted
    rw [quoted, Option.elim]
  · next unquoted =>
    have unquoted : findings.findSome? Finding.quoted? = none := unquoted
    rw [unquoted, Option.elim]

namespace SettingsSource

def document [NestingLimits] (bytes : Bytes) : Except Yaml.Problem Yaml.Value :=
  Yaml.Value.read (Incoming.pieces bytes).1 ((Incoming.pieces bytes).2.map .undecodable)

/-- What may be wrong with a settings file some of whose values are replaced, and the fault that it
ends in. -/
inductive Fails [NestingLimits] (source : SettingsSource) (tree : FileTree)
    (overrides : List (Text × Json)) : Fault → Prop
  | unreachable {shown : Text} : tree.lookup source.path = .error (.file (.nameTooLong shown)) →
      Fails source tree overrides (.file (.nameTooLong shown))
  | directory : tree.lookup source.path = .ok .directory →
      Fails source tree overrides (.file (.isDirectory source.shown))
  /-- The file cannot be read to its end, as with bytes that are no text. -/
  | brokenOff {bytes : Bytes} {f : Fault} : tree.lookup source.path = .ok (.file bytes) →
      document bytes = .error (.brokenOff f) → Fails source tree overrides f
  | meaningless {bytes : Bytes} {f : Fault} : tree.lookup source.path = .ok (.file bytes) →
      document bytes = .error (.meaningless f) → Fails source tree overrides f
  | malformed {bytes : Bytes} {detail : Text} {line column : Nat} :
      tree.lookup source.path = .ok (.file bytes) →
      document bytes = .error (.malformed detail line column) →
      Fails source tree overrides
        (.cause (.settingsNotYaml source.shown (Yaml.Problem.malformed detail line column).describe))
  /-- The file holds something else than a mapping, and not something empty. -/
  | notMapping {bytes : Bytes} {v : Yaml.Value} :
      tree.lookup source.path = .ok (.file bytes) → document bytes = .ok v →
      (∀ members, v ≠ .mapping members) → v.isTruthy = true →
      Fails source tree overrides (.cause (.settingsNotMapping source.shown))
  | keys {bytes : Bytes} {members : List (Yaml.Value × Yaml.Value)} :
      tree.lookup source.path = .ok (.file bytes) →
      document bytes = .ok (.mapping members) → Yaml.Value.hasTextKeys members = false →
      Fails source tree overrides (.type "keywords must be strings")
  | invalid {members : List (Yaml.Value × Yaml.Value)} {first : Finding} {rest : List Finding} :
      source.members tree = .ok members →
      Settings.decode (Settings.override (Yaml.Value.toMembers Settings.settingsDepth members) overrides) =
        .error (first :: rest) →
      (first :: rest).findSome? Finding.quoted? = none →
      Fails source tree overrides (.cause (.invalidSetting first.location
        (if Settings.isRaw members overrides first.path then first.issue.forBytes
          else first.issue).message source.shown))
  | quoting {members : List (Yaml.Value × Yaml.Value)} {findings : List Finding}
      {position : Nat} {run : Text} :
      source.members tree = .ok members →
      Settings.decode (Settings.override (Yaml.Value.toMembers Settings.settingsDepth members) overrides) =
        .error findings →
      findings.findSome? Finding.quoted? = some (position, run) →
      Fails source tree overrides (.unencodable .utf8 position run)

variable {source : SettingsSource} {tree : FileTree} {overrides : List (Text × Json)} {f : Fault}

theorem bytes?_of_lookup {bytes : Bytes} (h : tree.lookup source.path = .ok (.file bytes)) :
    source.bytes? tree = .ok (some bytes) := by
  rw [bytes?, FileTree.find?_eq_some_iff.mpr h, ok_bind]

theorem lookup_of_bytes? {bytes : Bytes} (h : source.bytes? tree = .ok (some bytes)) :
    tree.lookup source.path = .ok (.file bytes) := by
  obtain ⟨found, hfound, h⟩ := bind_eq_ok.mp h
  split at h
  · cases h
  · cases h
  · cases h
    exact FileTree.find?_eq_some_iff.mp hfound

variable [NestingLimits]

theorem members_of_lookup {bytes : Bytes} (h : tree.lookup source.path = .ok (.file bytes)) :
    source.members tree = (source.membersIn bytes).bind fun members =>
      if Yaml.Value.hasTextKeys members then .ok members
      else .error (.type "keywords must be strings") := by
  rw [members, bytes?_of_lookup h, ok_bind]
  rfl

theorem fails_of_membersIn {bytes : Bytes} (hbytes : tree.lookup source.path = .ok (.file bytes))
    (h : source.membersIn bytes = .error f) : source.Fails tree overrides f := by
  unfold membersIn at h
  simp only at h
  split at h
  · next hread =>
    cases h
    exact .meaningless hbytes hread
  · next hread =>
    cases h
    exact .brokenOff hbytes hread
  · next p meaningful unbroken hread =>
    cases h
    cases p with
    | malformed detail line column => exact .malformed hbytes hread
    | meaningless f => exact absurd rfl (meaningful f)
    | brokenOff f => exact absurd rfl (unbroken f)
  · cases h
  · next v other hread =>
    split at h
    · next truthy =>
      cases h
      exact .notMapping hbytes hread other truthy
    · cases h

theorem membersIn_mapping {bytes : Bytes} {members : List (Yaml.Value × Yaml.Value)}
    (h : source.membersIn bytes = .ok members) :
    document bytes = .ok (.mapping members) ∨ members = [] := by
  unfold membersIn at h
  simp only at h
  split at h
  · cases h
  · cases h
  · cases h
  · next hread =>
    cases h
    exact .inl hread
  · split at h
    · cases h
    · cases h
      exact .inr rfl

theorem membersIn_of_notMapping {bytes : Bytes} {v : Yaml.Value} (hread : document bytes = .ok v)
    (other : ∀ members, v ≠ .mapping members) (truthy : v.isTruthy = true) :
    source.membersIn bytes = .error (.cause (.settingsNotMapping source.shown)) := by
  unfold document at hread
  simp only [membersIn, hread]
  cases v with
  | mapping members => exact absurd rfl (other members)
  | _ => exact if_pos truthy

theorem fails_of_members (h : source.members tree = .error f) : source.Fails tree overrides f := by
  rcases bind_eq_error.mp h with hbytes | ⟨found, hfound, h⟩
  · rcases bind_eq_error.mp hbytes with hfind | ⟨entry, hentry, hbytes⟩
    · obtain ⟨shown, rfl, hlookup⟩ := FileTree.find?_eq_error_iff.mp hfind
      exact .unreachable hlookup
    · split at hbytes
      · cases hbytes
      · cases hbytes
        exact .directory (FileTree.find?_eq_some_iff.mp hentry)
      · cases hbytes
  · split at h
    · cases h
    · next bytes =>
      have hlookup := lookup_of_bytes? hfound
      rcases bind_eq_error.mp h with hmembers | ⟨members, hmembers, h⟩
      · exact fails_of_membersIn hlookup hmembers
      · split at h
        · cases h
        · next keys =>
          cases h
          rcases membersIn_mapping hmembers with hread | rfl
          · exact .keys hlookup hread (Bool.eq_false_iff.mpr keys)
          · exact absurd rfl keys

end SettingsSource

variable [NestingLimits]

namespace Settings

variable {source : SettingsSource} {tree : FileTree} {overrides : List (Text × Json)} {f : Fault}

theorem load_of_members (allowed : checkOverrides overrides = .ok ())
    (h : source.members tree = .error f) : load tree source overrides = .error f := by
  rw [load, allowed, ok_bind, h]
  rfl

theorem fails_of_load (allowed : checkOverrides overrides = .ok ())
    (h : load tree source overrides = .error f) : source.Fails tree overrides f := by
  rw [load, allowed, ok_bind] at h
  rcases bind_eq_error.mp h with hmembers | ⟨members, hmembers, h⟩
  · exact SettingsSource.fails_of_members hmembers
  · split at h
    · cases h
    · cases h
    · next first rest hdecode =>
      cases hquoted : (first :: rest).findSome? Finding.quoted? with
      | none =>
        rw [Fault.ofFindings_eq, hquoted] at h
        cases h
        exact .invalid hmembers hdecode hquoted
      | some quote =>
        rw [Fault.ofFindings_eq, hquoted] at h
        cases h
        exact .quoting hmembers hdecode hquoted

theorem load_of_fails (allowed : checkOverrides overrides = .ok ())
    (h : source.Fails tree overrides f) : load tree source overrides = .error f := by
  cases h with
  | unreachable hlookup =>
    have hfind := FileTree.find?_eq_error_iff.mpr ⟨_, rfl, hlookup⟩
    exact load_of_members allowed (by rw [SettingsSource.members, SettingsSource.bytes?, hfind]; rfl)
  | directory hlookup =>
    have hfind := FileTree.find?_eq_some_iff.mpr hlookup
    exact load_of_members allowed (by rw [SettingsSource.members, SettingsSource.bytes?, hfind]; rfl)
  | brokenOff hlookup hread | meaningless hlookup hread | malformed hlookup hread =>
    refine load_of_members allowed ?_
    unfold SettingsSource.document at hread
    simp only [SettingsSource.members_of_lookup hlookup, SettingsSource.membersIn, hread]
    rfl
  | notMapping hlookup hread other truthy =>
    refine load_of_members allowed ?_
    rw [SettingsSource.members_of_lookup hlookup,
      SettingsSource.membersIn_of_notMapping hread other truthy]
    rfl
  | keys hlookup hread keys =>
    refine load_of_members allowed ?_
    unfold SettingsSource.document at hread
    simp only [SettingsSource.members_of_lookup hlookup, SettingsSource.membersIn, hread]
    exact if_neg (Bool.eq_false_iff.mp keys)
  | invalid hmembers hdecode hquoted =>
    rw [load, allowed, ok_bind, hmembers, ok_bind, hdecode]
    simp only [Fault.ofFindings_eq, hquoted, Option.elim]
  | @quoting _ findings _ _ hmembers hdecode hquoted =>
    rw [load, allowed, ok_bind, hmembers, ok_bind, hdecode]
    cases findings with
    | nil => cases hquoted
    | cons first rest => simp only [Fault.ofFindings_eq, hquoted, Option.elim]

theorem load_eq_error_iff (allowed : checkOverrides overrides = .ok ()) :
    load tree source overrides = .error f ↔ source.Fails tree overrides f :=
  ⟨fails_of_load allowed, load_of_fails allowed⟩

end Settings

end LocaleGen
