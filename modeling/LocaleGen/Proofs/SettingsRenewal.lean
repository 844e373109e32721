import LocaleGen.Proofs.SettingsDecoding
import Mathlib

/-!
# Settings read again

Settings that have been decoded are written as members of an object (`Settings.members`) and decoded
once more. Every value of theirs passes its own check, whether it was given or stands for one that
was not (`Settings.Checked`), with one exception: the slashes at the end of an address are dropped
after its beginning has been looked at, so where nothing but slashes stood behind the scheme the
rest of the address is refused. `Settings.decode_members` says both.
-/

namespace LocaleGen

open Decoding

/-! ## Addresses -/

namespace Text

theorem trimEnd_append (p : CodePoint → Bool) (t u : Text) :
    trimEnd p (t ++ u) = if u.all p then trimEnd p t else t ++ trimEnd p u := by
  rw [trimEnd, List.reverse_append, List.dropWhile_append, trimEnd, trimEnd]
  have hempty : (List.dropWhile p u.reverse).isEmpty = u.all p := by
    rw [Bool.eq_iff_iff, List.isEmpty_iff, List.dropWhile_eq_nil_iff, List.all_eq_true]
    simp
  rw [hempty]
  split <;> simp

theorem getLast?_trimEnd (p : CodePoint → Bool) (t : Text) :
    ∀ c ∈ (trimEnd p t).getLast?, p c = false := by
  intro c hc
  rw [trimEnd, List.getLast?_reverse] at hc
  have h := List.head?_dropWhile_not p t.reverse
  rw [Option.mem_def.mp hc] at h
  simpa using h

theorem trimEnd_eq_self {p : CodePoint → Bool} {t : Text} (h : ∀ c ∈ t.getLast?, p c = false) :
    trimEnd p t = t := by
  rw [trimEnd]
  cases ht : t.reverse with
  | nil => rw [List.reverse_eq_nil_iff.mp ht]; rfl
  | cons c rest =>
    have hlast : t.getLast? = some c := by rw [← List.head?_reverse, ht, List.head?_cons]
    rw [List.dropWhile_cons_of_neg (by simp [h c hlast]), ← ht, List.reverse_reverse]

end Text

namespace Settings

def isSlash (c : CodePoint) : Bool := c = CodePoint.ofChar '/'

def IsAddress (t : Text) : Prop := ∃ start ∈ urlStarts, start <+: t

instance (t : Text) : Decidable (IsAddress t) := inferInstanceAs (Decidable (∃ _ ∈ _, _))

/-- An address with nothing but slashes behind its scheme. -/
def IsBare (t : Text) : Prop :=
  ∃ start ∈ urlStarts, ∃ slashes, slashes.all isSlash = true ∧ t = start ++ slashes

def schemes : List Text := Text.words ["http:", "https:"]

theorem checkBaseUrl_eq_ok {t u : Text} :
    checkBaseUrl t = .ok u ↔ IsAddress t ∧ t.trimEnd isSlash = u := by
  have hstarts : (urlStarts.any fun start => start.isPrefixOf t) = true ↔ IsAddress t := by
    simp [IsAddress]
  unfold checkBaseUrl
  split
  · next h =>
    rw [Except.ok.injEq]
    exact (and_iff_right (hstarts.mp h)).symm
  · next h =>
    exact iff_of_false (fun hok => by cases hok) fun haddress => h (hstarts.mpr haddress.1)

theorem checkBaseUrl_of_not {t : Text} (h : ¬ IsAddress t) :
    checkBaseUrl t = .error ("base_url must be an http(s) URL, got '" ++ t ++ "'") := by
  rw [checkBaseUrl, if_neg (by simpa [IsAddress] using h)]

theorem trimEnd_start : ∀ start ∈ urlStarts, start.trimEnd isSlash ∈ schemes := by decide

theorem not_isAddress_of_mem_schemes : ∀ t ∈ schemes, ¬ IsAddress t := by decide

theorem trimEnd_of_isBare {t : Text} (h : IsBare t) : t.trimEnd isSlash ∈ schemes := by
  obtain ⟨start, hstart, slashes, hslashes, rfl⟩ := h
  rw [Text.trimEnd_append, if_pos hslashes]
  exact trimEnd_start start hstart

theorem isAddress_trimEnd {t : Text} (h : IsAddress t) (hbare : ¬ IsBare t) :
    IsAddress (t.trimEnd isSlash) := by
  obtain ⟨start, hstart, rest, rfl⟩ := h
  have hrest : ¬ rest.all isSlash = true :=
    fun hslashes => hbare ⟨start, hstart, rest, hslashes, rfl⟩
  refine ⟨start, hstart, ?_⟩
  rw [Text.trimEnd_append, if_neg hrest]
  exact List.prefix_append _ _

theorem checkBaseUrl_of_isAddress {t : Text} (h : IsAddress (t.trimEnd isSlash)) :
    checkBaseUrl (t.trimEnd isSlash) = .ok (t.trimEnd isSlash) :=
  checkBaseUrl_eq_ok.mpr ⟨h, Text.trimEnd_eq_self (Text.getLast?_trimEnd isSlash t)⟩

/-! ## Values that pass their own checks -/

theorem checkTarget_name (target : Target) : checkTarget target.name = .ok target := by
  cases target <;> decide

theorem checkTrigger_of_eq_ok {t trigger : Text} (h : checkTrigger t = .ok trigger) :
    checkTrigger trigger = .ok trigger := by
  have hsame : trigger = t := by
    unfold checkTrigger at h
    split_ifs at h
    cases h
    rfl
  rw [← hsame] at h
  exact h

theorem upper_level : ∀ level ∈ levels, level.upper = level := by decide +kernel

theorem checkLevel_of_eq_ok {t level : Text} (h : checkLevel t = .ok level) :
    checkLevel level = .ok level := by
  unfold checkLevel at h
  split_ifs at h with hmem
  cases h
  rw [checkLevel, upper_level _ hmem, if_pos hmem]

theorem timeout_of_eq_ok {v : Json} {x : Binary64} (h : timeout v = .ok x) :
    timeout (.float x) = .ok x := by
  have hpositive : ¬ x.isNonpositive = true := by
    unfold timeout at h
    split at h
    · split_ifs at h with hpositive
      cases h
      exact hpositive
    · cases h
  exact if_neg hpositive

/-- Settings every value of which passes its own check, the address apart. -/
structure Checked (s : Settings) : Prop where
  trigger : checkTrigger s.trigger = .ok s.trigger
  timeout : Settings.timeout (.float s.api.timeout) = .ok s.api.timeout
  level : checkLevel s.logging.level = .ok s.logging.level

theorem checked_default : Settings.default.Checked where
  trigger := by decide +kernel
  timeout := by decide +kernel
  level := by decide +kernel

def addressIn (members : List (Text × Json)) : Text :=
  ((((Json.object members).member? "api").bind fun api => api.member? "base_url").bind Json.asText?).getD
    Settings.default.api.baseUrl

variable {given : List (Text × Json)} {s : Settings}

/-- Settings that are decoded, and those that stand for others, pass their checks. -/
theorem checked_of_decode (h : decode given = .ok s) : s.Checked := by
  obtain ⟨-, htrigger, hapi, hlogging⟩ := decode_eq_ok.mp h
  refine ⟨?_, ?_, ?_⟩
  · refine of_optional (P := fun trigger => checkTrigger trigger = .ok trigger) htrigger
      checked_default.trigger
      fun v hv => ?_
    obtain ⟨t, -, ht⟩ := checkedText_eq_ok.mp (scalar_eq_ok.mp hv)
    exact checkTrigger_of_eq_ok ht
  · refine of_optional (P := fun api => Settings.timeout (.float api.timeout) = .ok api.timeout)
      hapi checked_default.timeout
      fun v hv => ?_
    obtain ⟨members, -, -, htimeout, -⟩ := ApiSettings.decode_eq_ok.mp (nested_eq_ok.mp hv)
    exact of_optional (P := fun x => Settings.timeout (.float x) = .ok x) htimeout
      checked_default.timeout
      fun w hw => timeout_of_eq_ok (scalar_eq_ok.mp hw)
  · refine of_optional (P := fun logging => checkLevel logging.level = .ok logging.level) hlogging
      checked_default.level
      fun v hv => ?_
    obtain ⟨members, -, hlevel, -⟩ := LoggingSettings.decode_eq_ok.mp (nested_eq_ok.mp hv)
    refine of_optional (P := fun level => checkLevel level = .ok level) hlevel checked_default.level
      fun w hw => ?_
    obtain ⟨t, -, ht⟩ := checkedText_eq_ok.mp (scalar_eq_ok.mp hw)
    exact checkLevel_of_eq_ok ht

theorem address_of_decode (h : decode given = .ok s) :
    IsAddress (addressIn given) ∧ (addressIn given).trimEnd isSlash = s.api.baseUrl := by
  have hdefault : IsAddress Settings.default.api.baseUrl ∧
      Settings.default.api.baseUrl.trimEnd isSlash = Settings.default.api.baseUrl := by
        decide +kernel
  obtain ⟨-, -, hapi, -⟩ := decode_eq_ok.mp h
  rcases optional_eq_ok.mp hapi with ⟨hnone, heq⟩ | ⟨v, hsome, hv⟩
  · rw [addressIn, Json.member?, hnone, ← heq]
    exact hdefault
  · obtain ⟨members, rfl, haddress, -⟩ := ApiSettings.decode_eq_ok.mp (nested_eq_ok.mp hv)
    rcases optional_eq_ok.mp haddress with ⟨hnone, heq⟩ | ⟨w, hw, hchecked⟩
    · rw [addressIn, Json.member?, hsome, Option.bind_some, Json.member?, hnone, ← heq]
      exact hdefault
    · obtain ⟨t, rfl, ht⟩ := checkedText_eq_ok.mp (scalar_eq_ok.mp hchecked)
      rw [addressIn, Json.member?, hsome, Option.bind_some, Json.member?, hw]
      exact checkBaseUrl_eq_ok.mp ht

/-! ## Settings written and decoded -/

/-- Equality of settings as they are compared: timeouts are equal as numbers, so one that is no
number differs from itself. -/
def equals (s s' : Settings) : Bool :=
  s.target = s'.target && s.trigger = s'.trigger && s.api.baseUrl = s'.api.baseUrl &&
    s.api.timeout.equals s'.api.timeout && s.api.concurrentFetch =
      s'.api.concurrentFetch && s.logging = s'.logging

theorem equals_self_iff : s.equals s = true ↔ s.api.timeout ≠ .nan := by
  have htimeout (x : Binary64) : x.equals x = true ↔ x ≠ .nan := by
    cases x with
    | nan => simp [Binary64.equals]
    | infinite => simp [Binary64.equals]
    | finite negative m e => cases m <;> simp [Binary64.equals]
  simp [equals, htimeout]

def apiMembers (api : ApiSettings) : List (Text × Json) :=
  [("base_url", .text api.baseUrl), ("timeout", .float api.timeout),
    ("concurrent_fetch", .bool api.concurrentFetch)]

def loggingMembers (logging : LoggingSettings) : List (Text × Json) :=
  [("level", .text logging.level), ("directory", .text logging.directory)]

theorem scalar_checkedText {α : Type} (check : Text → Except Text α) (name t : Text) :
    scalar (checkedText check) name (.text t) =
      match check t with
      | .ok a => .ok a
      | .error reason => .error [⟨[name], .rejected reason⟩] := by
  simp only [scalar, checkedText, text]
  cases check t <;> rfl

theorem decode_apiMembers (api : ApiSettings)
    (htimeout : timeout (.float api.timeout) = .ok api.timeout) :
    ApiSettings.decode (.object (apiMembers api)) =
      match checkBaseUrl api.baseUrl with
      | .ok url => .ok { api with baseUrl := url }
      | .error reason => .error [⟨[Text.ofString "base_url"], .rejected reason⟩] := by
  have hurl : (apiMembers api).lookup (Text.ofString "base_url") = some (.text api.baseUrl) := rfl
  have hnumber : (apiMembers api).lookup (Text.ofString "timeout") =
    some (.float api.timeout) := rfl
  have htruth : (apiMembers api).lookup (Text.ofString "concurrent_fetch") =
    some (.bool api.concurrentFetch) := rfl
  simp only [ApiSettings.decode, object, Json.asObject?, ok_bind, optional_of_lookup hurl,
    optional_of_lookup hnumber,
    optional_of_lookup htruth, scalar_checkedText, scalar_eq_ok.mpr htimeout]
  cases checkBaseUrl api.baseUrl <;> rfl

theorem decode_loggingMembers (logging : LoggingSettings)
    (hlevel : checkLevel logging.level = .ok logging.level) :
    LoggingSettings.decode (.object (loggingMembers logging)) = .ok logging := by
  have hlevelOf : (loggingMembers logging).lookup (Text.ofString "level") =
    some (.text logging.level) := rfl
  have hdirectory : (loggingMembers logging).lookup (Text.ofString "directory") =
    some (.text logging.directory) := rfl
  simp only [LoggingSettings.decode, object, Json.asObject?, ok_bind, optional_of_lookup hlevelOf,
    optional_of_lookup hdirectory, scalar_checkedText, hlevel]
  rfl

/-- The settings that are decoded from what is written for others; nothing but the address can be
refused. -/
theorem decode_members_eq (c : s.Checked) : decode s.members =
    match checkBaseUrl s.api.baseUrl with
    | .ok url => .ok { s with api := { s.api with baseUrl := url } }
    | .error reason => .error [⟨Text.words ["api", "base_url"], .rejected reason⟩] := by
  have htarget : s.members.lookup (Text.ofString "target") = some (.text s.target.name) := rfl
  have htrigger : s.members.lookup (Text.ofString "trigger") = some (.text s.trigger) := rfl
  have hapi : s.members.lookup (Text.ofString "api") = some (.object (apiMembers s.api)) := rfl
  have hlogging : s.members.lookup (Text.ofString "logging") =
    some (.object (loggingMembers s.logging)) := rfl
  simp only [decode, optional_of_lookup htarget, optional_of_lookup htrigger,
    optional_of_lookup hapi,
    optional_of_lookup hlogging, scalar_checkedText, checkTarget_name, c.trigger, nested,
    decode_apiMembers s.api c.timeout, decode_loggingMembers s.logging c.level]
  cases checkBaseUrl s.api.baseUrl <;> rfl

/-- Settings that have been decoded have an address without a slash at its end. Written down and
decoded again they come back, equal to themselves if their timeout is a number at all, unless the
address that was given for them had nothing but slashes behind its scheme. Then no more than the
scheme is left of it, which is no address any more and is refused. -/
theorem decode_members (h : decode given = .ok s) :
    (∀ c ∈ s.api.baseUrl.getLast?, isSlash c = false) ∧
    (¬ IsBare (addressIn given) →
      IsAddress s.api.baseUrl ∧ decode s.members = .ok s ∧
      (s.equals s = true ↔ s.api.timeout ≠ .nan)) ∧
    (IsBare (addressIn given) → ¬ IsAddress s.api.baseUrl ∧ s.api.baseUrl ∈ schemes ∧
      decode s.members = .error [⟨Text.words ["api", "base_url"],
        .rejected ("base_url must be an http(s) URL, got '" ++ s.api.baseUrl ++ "'")⟩]) := by
  obtain ⟨haddress, hurl⟩ := address_of_decode h
  have hdecode := decode_members_eq (checked_of_decode h)
  refine ⟨?_, fun hnot => ?_, fun hbare => ?_⟩
  · rw [← hurl]
    exact Text.getLast?_trimEnd isSlash _
  · have hkept := isAddress_trimEnd haddress hnot
    rw [← hurl, checkBaseUrl_of_isAddress hkept, hurl] at hdecode
    exact ⟨hurl ▸ hkept, hdecode, equals_self_iff⟩
  · have hscheme := trimEnd_of_isBare hbare
    rw [hurl] at hscheme
    have hno : ¬ IsAddress s.api.baseUrl := not_isAddress_of_mem_schemes _ hscheme
    rw [checkBaseUrl_of_not hno] at hdecode
    exact ⟨hno, hscheme, hdecode⟩

/-- The members of a settings file with an address that ends with a slash and a level in small
letters. -/
def slashedMembers : List (Text × Json) :=
  [("api", .record [("base_url", .text "https://nstack.example/"), ("timeout", .int 5)]),
    ("logging", .record [("level", .text "debug")])]

theorem decode_members_slashed :
    ∃ s, decode slashedMembers = .ok s ∧ IsAddress s.api.baseUrl ∧ decode s.members = .ok s ∧
    s.api.baseUrl = "https://nstack.example" ∧ s.logging.level = "DEBUG" := by
  obtain ⟨s, hs⟩ : ∃ s, decode slashedMembers = .ok s := isOk_eq_true.mp (by decide +kernel)
  have hbare : ¬ IsBare (addressIn slashedMembers) :=
    fun h => absurd (trimEnd_of_isBare h) (by decide +kernel)
  obtain ⟨haddress, hdecode, -⟩ := (decode_members hs).2.1 hbare
  have hread : (decode slashedMembers).toOption.map (fun s => (s.api.baseUrl, s.logging.level)) =
      some (Text.ofString "https://nstack.example", Text.ofString "DEBUG") := by decide +kernel
  rw [hs] at hread
  obtain ⟨hurl, hlevel⟩ := Prod.mk.inj (Option.some.inj hread)
  exact ⟨s, hs, haddress, hdecode, hurl, hlevel⟩

def bareMembers : List (Text × Json) := [("api", .record [("base_url", .text "http://")])]

/-- A bare address is accepted, what is left of it is no address, and the settings are not accepted
a second time. -/
theorem bareAddress_is_lost : ∃ s, decode bareMembers = .ok s ∧ s.api.timeout.isFinite = true ∧
    s.api.baseUrl = "http:" ∧ ¬ IsAddress s.api.baseUrl ∧ (decode s.members).isOk = false := by
  refine ⟨{ Settings.default with api := ⟨"http:", .ofInt 30, true⟩ }, ?_⟩
  decide +kernel

end Settings

end LocaleGen
