import LocaleGen.Proofs.CommandEnd
import LocaleGen.Proofs.DocumentContent
import Mathlib

/-!
# Inputs that are accepted

An input is accepted if it is the text of an object in which the last value under each of two names
is a text that is not blank (`Credentials.AreIn`). Of the two names the first one without such a
value is the one that is reported (`Credentials.decides`).

A look at an input and a pass over it come to the same: `validate` returns 0 just if the pass gets
past the stage that takes the credentials, in any world, and then the pass connects with what
`validate` has seen.
-/

namespace LocaleGen

/-! ## Credentials in a value -/

namespace Credentials

/-- The last value under a name is a text with a character that is not white space. -/
def IsSet (members : List (Text × Json)) (name t : Text) : Prop :=
  IsLastOf members name (.text t) ∧ ∃ c ∈ t, c.isBlank = false

def AreIn (c : Credentials) (raw : Json) : Prop :=
  ∃ members, raw = .object members ∧ IsSet members projectIdField c.projectId ∧
    IsSet members apiKeyField c.apiKey

def RefusedFor [NestingLimits] (content : Text) (field : Json) : Prop :=
  ∃ cause, ofContent content = .error (.cause cause) ∧
    ∀ time, (cause.failure time []).kind = .config ∧
      (cause.failure time []).own = [(Text.ofString "field", field)]

variable {members : List (Text × Json)} {name t content : Text} {raw v : Json} {c : Credentials}

theorem field_eq_ok_iff :
    field v name = .ok t ↔ v.member? name = some (.text t) ∧ t.isBlank = false := by
  unfold field
  split
  · next found hfound =>
    rw [hfound, Option.some.injEq, Json.text.injEq]
    split
    · next hblank =>
      refine iff_of_false nofun ?_
      rintro ⟨rfl, hnot⟩
      cases hblank.symm.trans hnot
    · next hblank =>
      rw [Except.ok.injEq]
      refine (and_iff_left_of_imp ?_).symm
      rintro rfl
      exact Bool.eq_false_of_not_eq_true hblank
  · next hnone => exact iff_of_false nofun fun h => hnone t h.1

theorem field_eq_error {e : Cause} (h : field v name = .error e) : e = .credentialNotSet name := by
  unfold field at h
  split at h
  · split at h
    · exact (Except.error.inj h).symm
    · cases h
  · exact (Except.error.inj h).symm

theorem field_settle_eq_ok_iff : field (Json.object members).settle name = .ok t ↔
    IsSet members name t := by
  have htext (w : Json) : Json.text t = w.settle ↔ w = .text t := eq_comm.trans Json.settle_eq_text
  rw [field_eq_ok_iff, Document.member?_settle, IsSet, Text.isBlank, List.all_eq_false]
  simp only [htext, exists_eq_right, Bool.not_eq_true]

theorem field_settle_of_not (h : ¬ ∃ t, IsSet members name t) :
    field (Json.object members).settle name = .error (.credentialNotSet name) := by
  cases hfield : field (Json.object members).settle name with
  | ok t => exact absurd ⟨t, field_settle_eq_ok_iff.mp hfield⟩ h
  | error e => rw [field_eq_error hfield]

theorem ofJson_settle (members : List (Text × Json)) :
    ofJson (Json.object members).settle =
      (field (Json.object members).settle projectIdField).bind fun projectId =>
        (field (Json.object members).settle apiKeyField).bind fun apiKey =>
          .ok ⟨projectId, apiKey⟩ := rfl

theorem ofJson_settle_eq_ok_iff : ofJson raw.settle = .ok c ↔ c.AreIn raw := by
  cases raw with
  | object members =>
    rw [ofJson_settle]
    constructor
    · intro h
      obtain ⟨projectId, hprojectId, h⟩ := bind_eq_ok.mp h
      obtain ⟨apiKey, hapiKey, hc⟩ := bind_eq_ok.mp h
      cases hc
      exact ⟨members, rfl, field_settle_eq_ok_iff.mp hprojectId, field_settle_eq_ok_iff.mp hapiKey⟩
    · rintro ⟨_, hmembers, hprojectId, hapiKey⟩
      cases hmembers
      rw [field_settle_eq_ok_iff.mpr hprojectId, field_settle_eq_ok_iff.mpr hapiKey]
      rfl
  | _ => exact iff_of_false nofun fun ⟨_, hmembers, _⟩ => by cases hmembers

theorem ofJson_settle_noProjectId (h : ¬ ∃ t, IsSet members projectIdField t) :
    ofJson (Json.object members).settle = .error (.credentialNotSet projectIdField) := by
  rw [ofJson_settle, field_settle_of_not h]
  rfl

theorem ofJson_settle_noApiKey {projectId : Text}
    (hprojectId : IsSet members projectIdField projectId) (h : ¬ ∃ t, IsSet members apiKeyField t) :
    ofJson (Json.object members).settle = .error (.credentialNotSet apiKeyField) := by
  rw [ofJson_settle, field_settle_eq_ok_iff.mpr hprojectId, field_settle_of_not h]
  rfl

/-! ## Credentials in a text -/

variable [NestingLimits]

theorem ofContent_of_spells (hspells : Json.Spells content (.element raw))
    (hfits : Json.Fits Json.depthLimit raw) :
    ofContent content = (ofJson raw.settle).mapError .cause := by
  rw [ofContent, Json.read_eq_ok_iff.mpr ⟨raw, hspells, hfits, rfl⟩]

theorem exists_spells_of_ofContent (h : ofContent content = .ok c) :
    ∃ raw, Json.Spells content (.element raw) ∧ Json.Fits Json.depthLimit raw ∧ c.AreIn raw := by
  unfold ofContent at h
  split at h
  · cases h
  · cases h
  · next v hread =>
    obtain ⟨raw, hspells, hfits, rfl⟩ := Json.read_eq_ok_iff.mp hread
    exact ⟨raw, hspells, hfits, ofJson_settle_eq_ok_iff.mp (mapError_eq_ok.mp h)⟩

theorem refusedFor_of_notSet (h : ofContent content = .error (.cause (.credentialNotSet name))) :
    RefusedFor content (.text name) :=
  ⟨_, h, fun _ => ⟨rfl, rfl⟩⟩

/-- What is made of a text: its credentials, a complaint about a field, or, if no credentials are in
it for another reason, a complaint about the whole. -/
structure Decides (content : Text) : Prop where
  accepted : ∀ c, ofContent content = .ok c ↔
    ∃ raw, Json.Spells content (.element raw) ∧ Json.Fits Json.depthLimit raw ∧ c.AreIn raw
  noObject : ∀ raw, Json.Spells content (.element raw) → Json.Fits Json.depthLimit raw →
    (∀ members, raw ≠ .object members) →
    RefusedFor content .null
  noProjectId : ∀ members, Json.Spells content (.element (.object members)) →
    Json.Fits Json.depthLimit (.object members) →
    (¬ ∃ t, IsSet members projectIdField t) → RefusedFor content (.text projectIdField)
  noApiKey : ∀ members, Json.Spells content (.element (.object members)) →
    Json.Fits Json.depthLimit (.object members) →
    (∃ t, IsSet members projectIdField t) → (¬ ∃ t, IsSet members apiKeyField t) →
      RefusedFor content (.text apiKeyField)
  noJson : ¬ Json.IsTooLarge content →
    (¬ ∃ raw, Json.Spells content (.element raw) ∧ Json.Fits Json.depthLimit raw) →
    RefusedFor content .null

theorem decides (content : Text) : Decides content where
  accepted c := by
    refine ⟨exists_spells_of_ofContent, ?_⟩
    rintro ⟨raw, hspells, hfits, hin⟩
    rw [ofContent_of_spells hspells hfits, ofJson_settle_eq_ok_iff.mpr hin]
    rfl
  noObject raw hspells hfits hnot := by
    refine ⟨.credentialsNotObject, ?_, fun _ => ⟨rfl, rfl⟩⟩
    rw [ofContent_of_spells hspells hfits]
    cases raw with
    | object members => exact absurd rfl (hnot members)
    | _ => rfl
  noProjectId members hspells hfits hnot := by
    refine refusedFor_of_notSet ?_
    rw [ofContent_of_spells hspells hfits, ofJson_settle_noProjectId hnot]
    rfl
  noApiKey members hspells hfits hset hnot := by
    obtain ⟨projectId, hprojectId⟩ := hset
    refine refusedFor_of_notSet ?_
    rw [ofContent_of_spells hspells hfits, ofJson_settle_noApiKey hprojectId hnot]
    rfl
  noJson hsmall hnot := by
    cases hread : Json.read content with
    | ok v =>
      obtain ⟨raw, hspells, hfits, -⟩ := Json.read_eq_ok_iff.mp hread
      exact absurd ⟨raw, hspells, hfits⟩ hnot
    | error e =>
      cases e with
      | malformed problem place => exact ⟨_, by rw [ofContent, hread], fun _ => ⟨rfl, rfl⟩⟩
      | tooDeep | tooManyDigits => exact absurd (Json.isTooLarge_of_read hread (by simp)) hsmall

end Credentials

/-! ## Passes over an input -/

/-- A pass is run, and gets past the stage that takes the credentials. -/
def Outcome.GetsPast (o : Outcome) : Prop := o ≠ .skipped ∧ ∀ r, o ≠ .failed .parseConfig r

section Verdict

variable {w : World} {job : Job} {b : Bundling} {c : Credentials}
    {effects : List Effect} {o : Outcome}

theorem Conclusion.getsPast (h : Conclusion job w b effects o) : o.GetsPast := by
  cases h <;> exact ⟨nofun, nofun⟩

theorem Conclusion.connect_notMem (h : Conclusion job w b effects o) :
    Effect.connect c ∉ effects := by
  have requests (places : List Nat) : Effect.connect c ∉ b.requests places := by
    simp [Bundling.requests]
  cases h <;> simp [requests]

variable [NestingLimits]

theorem Verdict.getsPast_iff (h : Verdict job w effects o) :
    o.GetsPast ↔ job.isTriggered = true ∧ ∃ c, w.credentials = .ok c := by
  cases h with
  | skipped idle => exact iff_of_false (fun past => past.1 rfl) (by simp [idle])
  | parseConfig triggered failed => exact iff_of_false (fun past => past.2 _ rfl) (by simp [failed])
  | connect triggered credentials | index triggered credentials | noDefault triggered credentials
  | fetchDefault triggered credentials =>
    exact iff_of_true ⟨nofun, nofun⟩ ⟨triggered, _, credentials⟩
  | bundle triggered opens conclusion =>
    exact iff_of_true conclusion.getsPast ⟨triggered, _, opens.credentials⟩

/-- A pass connects with the credentials in its input. -/
theorem Verdict.credentials_of_connect (h : Verdict job w effects o)
    (hconnect : Effect.connect c ∈ effects) : w.credentials = .ok c := by
  cases h with
  | skipped | parseConfig => simp at hconnect
  | connect triggered credentials | index triggered credentials | noDefault triggered credentials
  | fetchDefault triggered credentials =>
    obtain rfl : c = _ := by simpa using hconnect
    exact credentials
  | bundle triggered opens conclusion =>
    obtain rfl : c = _ := by simpa [Bundling.opening, conclusion.connect_notMem] using hconnect
    exact opens.credentials

end Verdict

namespace CommandLine

/-! ## Lines about a pass -/

/-- The line of a pass over an input that got past the stage that takes the credentials. -/
def Line.GetsPast (input : Text) (l : Line) : Prop :=
  (∃ output duration, l = .completed input output duration) ∨
    ∃ stage failure, l = .failed input stage failure ∧ stage ≠ .parseConfig

theorem Line.getsPast_ofResult {input : Text} {r : PassResult} :
    (Line.ofResult r).GetsPast input ↔ r.job.inputId = input ∧ r.outcome.GetsPast := by
  obtain ⟨job, outcome⟩ := r
  cases outcome <;> simp [Line.ofResult, Line.GetsPast, Outcome.GetsPast]

theorem Line.ofResult_eq_failed_iff {input : Text} {stage : Stage}
    {failure : Failure} {r : PassResult} :
    Line.ofResult r = .failed input stage failure ↔
    r.job.inputId = input ∧ r.outcome = .failed stage failure := by
  obtain ⟨job, outcome⟩ := r
  cases outcome <;> simp [Line.ofResult]

/-! ## Looks and passes -/

section

variable [NestingLimits]

section Validate

variable {tree : FileTree} {input : Text} {c : Credentials}

theorem validate_of_ok (h : (tree.readText (Path.ofText input)).bind Credentials.ofContent = .ok c) :
    validate input tree = ⟨[.credentials (Path.ofText input).render c.projectId],
      .done 0, tree⟩ := by
  obtain ⟨content, hcontent, -⟩ := bind_eq_ok.mp h
  simp [validate, FileTree.isFile_of_readText hcontent, h]

theorem validate_eq_zero_iff :
    (validate input tree).ending = .done 0 ↔
    ∃ c, (tree.readText (Path.ofText input)).bind Credentials.ofContent = .ok c := by
  constructor
  · intro hend
    have looks := looks_validate input tree
    generalize validate input tree = report at hend looks
    cases looks with
    | accepted _ hcontent => exact ⟨_, hcontent⟩
    | lost | absent | refused | unread => cases hend
  · rintro ⟨c, h⟩
    rw [validate_of_ok h]

end Validate

section Build

variable {around : Surroundings} {settings : Settings} {inputs : List Text}
    {config target : Option Text} {tree : FileTree} {input : Text} {code : ℕ}

/-- A build has a line of a pass that got past the credentials of a triggered input just if the
input gives some, and otherwise it has one of a pass that did not. -/
theorem build_line_iff (hload : settingsOf around config target tree = .ok settings)
    (files : ∀ input ∈ inputs, tree.isFile (Path.ofText input) = .ok true) (hinput : input ∈ inputs)
    (triggered : (jobFor around settings input).isTriggered = true)
    (hend : (build around inputs config target tree).ending = .done code) :
    ((∃ line ∈ (build around inputs config target tree).lines, line.GetsPast input) ↔
      ∃ c, (tree.readText (Path.ofText input)).bind Credentials.ofContent = .ok c) ∧
    ((∃ failure, .failed input .parseConfig failure ∈ (build around inputs config target tree).lines) ↔
      ¬ ∃ c, (tree.readText (Path.ofText input)).bind Credentials.ofContent = .ok c) := by
  obtain ⟨results, hlines, -, jobs, verdicts⟩ := build_of_files hload files hend
  have past {r : PassResult} (hr : r ∈ results) (hid : r.job.inputId = input) : r.outcome.GetsPast ↔
      ∃ c, (tree.readText (Path.ofText input)).bind Credentials.ofContent = .ok c := by
    obtain ⟨fate, effects, verdict⟩ := verdicts r hr
    have hjob : r.job ∈ inputs.map (jobFor around settings) := jobs ▸ List.mem_map_of_mem hr
    obtain ⟨other, -, hother⟩ := List.mem_map.mp hjob
    obtain rfl : other = input := by rw [← hid, ← hother, jobFor]
    rw [verdict.getsPast_iff, ← hother, and_iff_right triggered]
    rfl
  have hjob : jobFor around settings input ∈ results.map PassResult.job :=
    jobs ▸ List.mem_map_of_mem hinput
  obtain ⟨r, hr, hjob⟩ := List.mem_map.mp hjob
  have hid : r.job.inputId = input := by rw [hjob, jobFor]
  constructor
  · rw [hlines]
    constructor
    · rintro ⟨line, hline, hpast⟩
      obtain ⟨r', hr', rfl⟩ := List.mem_map.mp hline
      obtain ⟨hid', houtcome⟩ := Line.getsPast_ofResult.mp hpast
      exact (past hr' hid').mp houtcome
    · intro hcredentials
      exact ⟨_, List.mem_map_of_mem hr,
        Line.getsPast_ofResult.mpr ⟨hid, (past hr hid).mpr hcredentials⟩⟩
  · constructor
    · rintro ⟨failure, hline⟩ hcredentials
      obtain ⟨r', hr', hfailed⟩ := List.mem_map.mp (hlines ▸ hline)
      obtain ⟨hid', houtcome⟩ := Line.ofResult_eq_failed_iff.mp hfailed
      exact ((past hr' hid').mpr hcredentials).2 _ houtcome
    · intro hnone
      cases hcontent : (tree.readText (Path.ofText input)).bind Credentials.ofContent with
      | ok c => exact absurd ⟨c, hcontent⟩ hnone
      | error f => exact ⟨_, (failed_mem_build hload files hend hinput triggered hcontent).2⟩

end Build

/-- A text gives credentials just if it is the text of an object with both of them, which are kept
as they stand; otherwise it is refused for the first one that is not there, or as a whole. A look at
an input that is triggered returns 0 just if a pass over it gets past its credentials, in any world
and in any build, and it shows the project that the pass connects with. -/
theorem credentials_accepted_alike :
    (∀ content, Credentials.Decides content) ∧
    (∀ (tree : FileTree) (w : World) (job : Job) (course : Course) (o : Outcome),
      w.content = tree.readText (Path.ofText job.inputId) → job.isTriggered = true →
      Course.Reaches w job (Course.start w job) course → course.state = .finished o →
        ((validate job.inputId tree).ending = .done 0 ↔ o.GetsPast) ∧
        ∀ c, Effect.connect c ∈ course.effects →
          (validate job.inputId tree).lines =
            [.credentials (Path.ofText job.inputId).render c.projectId]) ∧
    ∀ (around : Surroundings) (inputs : List Text) (config target : Option Text)
      (tree : FileTree) (settings : Settings) (input : Text) (code : ℕ),
      settingsOf around config target tree = .ok settings →
      (∀ input ∈ inputs, tree.isFile (Path.ofText input) = .ok true) → input ∈ inputs →
      (jobFor around settings input).isTriggered = true →
      (build around inputs config target tree).ending = .done code →
        ((validate input tree).ending = .done 0 ↔
          ∃ line ∈ (build around inputs config target tree).lines, line.GetsPast input) ∧
        ((validate input tree).ending ≠ .done 0 ↔
          ∃ failure, .failed input .parseConfig failure ∈
            (build around inputs config target tree).lines) := by
  refine ⟨Credentials.decides, ?_, ?_⟩
  · intro tree w job course o hcontent triggered reached hend
    have verdict := (Standing.of_reaches reached).verdict hend
    have hcredentials : w.credentials =
        (tree.readText (Path.ofText job.inputId)).bind Credentials.ofContent := by
      rw [World.credentials, hcontent]
    refine ⟨?_, fun c hconnect => ?_⟩
    · rw [validate_eq_zero_iff, verdict.getsPast_iff, and_iff_right triggered, hcredentials]
    · rw [validate_of_ok (hcredentials.symm.trans (verdict.credentials_of_connect hconnect))]
  · intro around inputs config target tree settings input code hload files hinput triggered hend
    obtain ⟨hpast, hfailed⟩ := build_line_iff hload files hinput triggered hend
    exact ⟨validate_eq_zero_iff.trans hpast.symm,
      (not_congr validate_eq_zero_iff).trans hfailed.symm⟩

end

/-- Of two inputs of one build the first is accepted, by itself, by the build and by a pass in a
world of its own, and the second, which is no JSON, is not. -/
theorem credentials_accepted_alike_renewal : ∃ settings code course o,
    settingsOf renewalSurroundings none none renewalTree = .ok settings ∧
    (build renewalSurroundings renewalInputs none none renewalTree).ending = .done code ∧
    (∃ line ∈ (build renewalSurroundings renewalInputs none none renewalTree).lines,
      line.GetsPast "nstack.json") ∧
    (∃ failure, .failed "lib/nstack.json" .parseConfig failure ∈
      (build renewalSurroundings renewalInputs none none renewalTree).lines) ∧
    Course.Reaches (worldOf renewalSurroundings settings renewalTree "nstack.json" none)
      (jobFor renewalSurroundings settings "nstack.json")
      (Course.start (worldOf renewalSurroundings settings renewalTree "nstack.json" none)
        (jobFor renewalSurroundings settings "nstack.json")) course ∧
    course.state = .finished o ∧ o.GetsPast := by
  obtain ⟨-, hpass, hbuild⟩ := credentials_accepted_alike
  have accepted :
        ((settingsOf renewalSurroundings none none renewalTree).toOption.any fun settings =>
      (checkLog renewalSurroundings settings).isOk && settings.trigger = "nstack.json") = true := by
    decide +kernel
  have present : (missing renewalInputs renewalTree).toOption = some [] := by decide +kernel
  obtain ⟨settings, hload, hsettings⟩ := (Option.any_eq_true _ _).mp accepted
  rw [Bool.and_eq_true, decide_eq_true_iff] at hsettings
  have hload := toOption_eq_some.mp hload
  have hfiles := toOption_eq_some.mp present
  obtain ⟨_, hlog⟩ := isOk_eq_true.mp hsettings.1
  obtain ⟨code, hend⟩ := exists_code englishRoutes_answers hload hfiles hlog
  have triggered {input : Text} (hname : (Path.ofText input).name = "nstack.json") :
      (jobFor renewalSurroundings settings input).isTriggered = true := by
    rw [Job.isTriggered, jobFor, hsettings.2]
    exact decide_eq_true hname
  have looked : (validate "nstack.json" renewalTree).ending = .done 0 :=
    validate_eq_zero_iff.mpr (isOk_eq_true.mp (by decide +kernel))
  have refused : (validate "lib/nstack.json" renewalTree).ending ≠ .done 0 := by
    rw [Ne, validate_eq_zero_iff, ← isOk_eq_true]
    decide +kernel
  have standing : Standing (worldOf renewalSurroundings settings renewalTree "nstack.json" none)
      (jobFor renewalSurroundings settings "nstack.json") _ := Standing.begin
  obtain ⟨course, reached, o, hfinished⟩ :=
    Course.exists_end Standing.step Standing.ends_or_steps standing
  refine ⟨settings, code, course, o, hload, hend, ?_, ?_, reached, hfinished, ?_⟩
  · exact (hbuild _ _ _ _ _ _ _ _ hload (files_of_missing hfiles) (by decide)
      (triggered rfl) hend).1.mp looked
  · exact (hbuild _ _ _ _ _ _ _ _ hload (files_of_missing hfiles) (by decide)
      (triggered rfl) hend).2.mp refused
  · exact (hpass renewalTree _ _ course o rfl (triggered rfl) reached hfinished).1.mp looked

end CommandLine

end LocaleGen
