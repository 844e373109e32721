import LocaleGen.Proofs.Result
import LocaleGen.Settings.Basic
import Mathlib

/-!
# What decoded settings are made of

Each part of settings that are decoded is the value of a member, if there is one and it passes its
check, and the default if there is none: `Settings.decode_eq_ok`. So a property of a part is one of
its default and of all that passes the check (`Decoding.of_optional`).
-/

namespace LocaleGen

open Decoding

/-! ## Decoding one value -/

namespace Decoding

variable {α : Type} {decode : Text → Json → Decoded α} {members : List (Text × Json)}
    {name : Text} {default a : α} {v : Json}

theorem optional_of_lookup (h : members.lookup name = some v) :
    Decoding.optional decode members name default = decode name v := by
  rw [Decoding.optional, h]

theorem optional_eq_ok : Decoding.optional decode members name default = .ok a ↔
    members.lookup name = none ∧ default = a ∨
    ∃ v, members.lookup name = some v ∧ decode name v = .ok a := by
  unfold Decoding.optional
  cases members.lookup name <;> simp

/-- What holds of a default and of all that is decoded holds of the value of a member. -/
theorem of_optional {P : α → Prop} (h : Decoding.optional decode members name default = .ok a)
    (hdefault : P default) (hdecoded : ∀ v, decode name v = .ok a → P a) : P a := by
  rcases optional_eq_ok.mp h with ⟨-, rfl⟩ | ⟨v, -, h⟩
  · exact hdefault
  · exact hdecoded v h

theorem scalar_eq_ok {decode : Json → Except Issue α} : scalar decode name v = .ok a ↔
    decode v = .ok a := by
  unfold scalar
  cases decode v <;> simp

theorem nested_eq_ok {decode : Json → Decoded α} : nested decode name v = .ok a ↔
    decode v = .ok a := by
  unfold nested
  cases decode v <;> simp

theorem object_eq_ok {model : Text} : object model v = .ok members ↔ v = .object members := by
  cases v <;> simp [object, Json.asObject?]

theorem andThen_eq_ok {β : Type} {field : Decoded α} {f : Decoded (α → β)} {b : β} :
    andThen field f = .ok b ↔ ∃ g a, f = .ok g ∧ field = .ok a ∧ g a = b := by
  unfold andThen
  cases f <;> cases field <;> simp

end Decoding

theorem checkedText_eq_ok {α : Type} {check : Text → Except Text α} {v : Json} {a : α} :
    checkedText check v = .ok a ↔ ∃ t, v = .text t ∧ check t = .ok a := by
  cases v <;> simp [checkedText, text]

/-! ## What is decoded -/

theorem ApiSettings.decode_eq_ok {v : Json} {s : ApiSettings} :
    decode v = .ok s ↔ ∃ members, v = .object members ∧
    Decoding.optional (scalar (checkedText Settings.checkBaseUrl)) members "base_url"
      default.baseUrl = .ok s.baseUrl ∧
    Decoding.optional (scalar Settings.timeout) members "timeout" default.timeout = .ok s.timeout ∧
    Decoding.optional (scalar truth) members "concurrent_fetch" default.concurrentFetch =
      .ok s.concurrentFetch := by
  simp only [decode, bind_eq_ok, object_eq_ok, andThen_eq_ok]
  refine exists_congr fun members => and_congr_right fun _ => ?_
  constructor
  · rintro ⟨_, c, ⟨_, b, ⟨_, a, hmk, ha, rfl⟩, hb, rfl⟩, hc, rfl⟩
    cases hmk
    exact ⟨ha, hb, hc⟩
  · rintro ⟨ha, hb, hc⟩
    exact ⟨_, _, ⟨_, _, ⟨_, _, rfl, ha, rfl⟩, hb, rfl⟩, hc, rfl⟩

theorem LoggingSettings.decode_eq_ok {v : Json} {s : LoggingSettings} :
    decode v = .ok s ↔ ∃ members, v = .object members ∧
    Decoding.optional (scalar (checkedText Settings.checkLevel)) members "level" default.level =
      .ok s.level ∧
    Decoding.optional (scalar text) members "directory" default.directory = .ok s.directory := by
  simp only [decode, bind_eq_ok, object_eq_ok, andThen_eq_ok]
  refine exists_congr fun members => and_congr_right fun _ => ?_
  constructor
  · rintro ⟨_, b, ⟨_, a, hmk, ha, rfl⟩, hb, rfl⟩
    cases hmk
    exact ⟨ha, hb⟩
  · rintro ⟨ha, hb⟩
    exact ⟨_, _, ⟨_, _, rfl, ha, rfl⟩, hb, rfl⟩

namespace Settings

theorem decode_eq_ok {members : List (Text × Json)} {s : Settings} : decode members = .ok s ↔
    Decoding.optional (scalar (checkedText checkTarget)) members "target" Settings.default.target =
      .ok s.target ∧
    Decoding.optional (scalar (checkedText checkTrigger)) members "trigger"
      Settings.default.trigger = .ok s.trigger ∧
    Decoding.optional (nested ApiSettings.decode) members "api" Settings.default.api = .ok s.api ∧
    Decoding.optional (nested LoggingSettings.decode) members "logging" Settings.default.logging =
      .ok s.logging := by
  simp only [decode, andThen_eq_ok]
  constructor
  · rintro ⟨_, d, ⟨_, c, ⟨_, b, ⟨_, a, hmk, ha, rfl⟩, hb, rfl⟩, hc, rfl⟩, hd, rfl⟩
    cases hmk
    exact ⟨ha, hb, hc, hd⟩
  · rintro ⟨ha, hb, hc, hd⟩
    exact ⟨_, _, ⟨_, _, ⟨_, _, ⟨_, _, rfl, ha, rfl⟩, hb, rfl⟩, hc, rfl⟩, hd, rfl⟩

end Settings

end LocaleGen
