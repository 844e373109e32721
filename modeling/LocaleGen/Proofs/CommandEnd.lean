import LocaleGen.Proofs.BuildCommand
import LocaleGen.Proofs.SettingsFault
import Mathlib

/-!
# How commands end

A command that the arguments give returns 0 or 1, unless the service is silent, a fault escapes, of
which `Escapes` gives the list, or a line cannot be printed. What a command has to say of files that
it cannot use is a line that it `Owes`. A build owes such a line for every input that a pass cannot
read, whatever the reason is, while the same bytes may end the look at a single input.
-/

namespace LocaleGen.CommandLine

/-! ## Lines -/

def errorMark : Text := "[ERROR] "

def Line.isError (l : Line) : Bool := errorMark.isPrefixOf l.render

@[simp] theorem Line.isError_settingsRefused (c : Cause) : (settingsRefused c).isError = true := rfl

@[simp] theorem Line.isError_inputNotFound (path : Text) :
    (inputNotFound path).isError = true := rfl

@[simp] theorem Line.isError_failed (input : Text) (stage : Stage) (failure : Failure) :
    (failed input stage failure).isError = true := rfl

@[simp] theorem Line.isError_credentials (path projectId : Text) :
    (credentials path projectId).isError = false := rfl

@[simp] theorem Line.isError_credentialsRefused (path : Text) (c : Cause) :
    (credentialsRefused path c).isError = true := rfl

theorem Line.isError_ofResult (r : PassResult) : (Line.ofResult r).isError = r.failure?.isSome := by
  obtain ⟨job, outcome⟩ := r
  cases outcome <;> rfl

/-! ## Faults that escape -/

/-- What a build has instead of the values in its settings file. -/
def replacements (target : Option Text) : List (Text × Json) :=
  target.toList.map fun t => (Text.ofString "target", .text t)

section

variable [NestingLimits]

/-- The faults that a command does not report but ends with. -/
inductive Escapes (around : Surroundings) (tree : FileTree) : Command → Fault → Prop
  | settings {inputs : List Text} {config target : Option Text} {f : Fault} :
      (SettingsSource.ofName around.root config).Fails tree (replacements target) f →
        (∀ c, f ≠ .cause c) →
      Escapes around tree (.build inputs config target) f
  | input {before after : List Text} {input shown : Text} {config target : Option Text}
      {settings : Settings} :
      settingsOf around config target tree = .ok settings →
      (∀ other ∈ before, ∃ found, tree.isFile (Path.ofText other) = .ok found) →
      tree.lookup (Path.ofText input) = .error (.file (.nameTooLong shown)) →
      Escapes around tree (.build (before ++ input :: after) config target)
        (.file (.nameTooLong shown))
  | log {inputs : List Text} {config target : Option Text} {settings : Settings}
      {log : BuildLog} {f : Fault} :
      settingsOf around config target tree = .ok settings →
      (∀ input ∈ inputs, tree.isFile (Path.ofText input) = .ok true) →
      logOf? settings = some log →
        FileTree.checkPath (log.file LogEntry.builds around.clock.today).parent = .error f →
      Escapes around tree (.build inputs config target) f
  | name {input shown : Text} :
      tree.lookup (Path.ofText input) = .error (.file (.nameTooLong shown)) →
      Escapes around tree (.validate input) (.file (.nameTooLong shown))
  | undecodable {input : Text} {bytes : Bytes} {f : Utf8.Fault} :
      tree.readBytes (Path.ofText input) = .ok bytes →
      Utf8.decode bytes = .error f → Escapes around tree (.validate input) (.undecodable f)
  | tooDeep {input content : Text} {inList : Bool} :
      tree.readText (Path.ofText input) = .ok content →
      Json.read content = .error (.tooDeep inList) →
        Escapes around tree (.validate input) (.tooDeep inList)
  | tooManyDigits {input content : Text} {count : Nat} :
      tree.readText (Path.ofText input) = .ok content →
      Json.read content = .error (.tooManyDigits count) →
        Escapes around tree (.validate input) (.tooManyDigits count)

/-! ## What is owed -/

/-- The lines that a command owes about files that are missing, unreadable or malformed. -/
inductive Owes (around : Surroundings) (tree : FileTree) : Command → Line → Prop
  | settings {inputs : List Text} {config target : Option Text} {c : Cause} :
      (SettingsSource.ofName around.root config).Fails tree (replacements target) (.cause c) →
      Owes around tree (.build inputs config target) (.settingsRefused c)
  | missing {inputs : List Text} {config target : Option Text}
      {settings : Settings} {input : Text} :
      settingsOf around config target tree = .ok settings → input ∈ inputs →
      tree.isFile (Path.ofText input) = .ok false →
      Owes around tree (.build inputs config target) (.inputNotFound input)
  /-- A pass over the input cannot read it, or there are no credentials in it. -/
  | content {inputs : List Text} {config target : Option Text} {settings : Settings}
      {input : Text} {f : Fault} :
      settingsOf around config target tree = .ok settings →
      (∀ input ∈ inputs, tree.isFile (Path.ofText input) = .ok true) → input ∈ inputs →
      (jobFor around settings input).isTriggered = true →
      (tree.readText (Path.ofText input)).bind Credentials.ofContent = .error f →
      Owes around tree (.build inputs config target)
        (.failed input .parseConfig ((jobFor around settings input).report .parseConfig f))
  | absent {input : Text} : tree.isFile (Path.ofText input) = .ok false →
      Owes around tree (.validate input) (.inputNotFound (Path.ofText input).render)
  | refused {input : Text} {c : Cause} : tree.isFile (Path.ofText input) = .ok true →
      (tree.readText (Path.ofText input)).bind Credentials.ofContent = .error (.cause c) →
      Owes around tree (.validate input) (.credentialsRefused (Path.ofText input).render c)

theorem Owes.isError {around : Surroundings} {tree : FileTree} {command : Command} {line : Line}
    (h : Owes around tree command line) : line.isError = true := by
  cases h <;> rfl

/-- The files that a command looks at are there, can be read and mean something. -/
def Usable (around : Surroundings) (tree : FileTree) (command : Command) : Prop :=
  match command with
  | .help => True
  | .build inputs config target => ∃ settings, settingsOf around config target tree = .ok settings ∧
      ∀ input ∈ inputs, tree.isFile (Path.ofText input) = .ok true ∧
        ((jobFor around settings input).isTriggered = true →
          ∃ c, (tree.readText (Path.ofText input)).bind Credentials.ofContent = .ok c)
  | .validate input => tree.isFile (Path.ofText input) = .ok true ∧
      ∃ c, (tree.readText (Path.ofText input)).bind Credentials.ofContent = .ok c

/-! ## Looking at an input -/

section Validate

variable {around : Surroundings} {tree : FileTree} {input : Text} {f : Fault}

/-- The content of an input that gives no credentials is refused for a cause, or else it is beyond
what can be read. -/
theorem content_eq_error_iff (hfile : tree.isFile (Path.ofText input) = .ok true)
    (unforeseen : ∀ c, f ≠ .cause c) :
    (tree.readText (Path.ofText input)).bind Credentials.ofContent = .error f ↔
      Escapes around tree (.validate input) f := by
  obtain ⟨names, bytes, held⟩ := FileTree.holds_of_isFile hfile
  have hread : tree.readText (Path.ofText input) =
        (Utf8.decode bytes).mapError .undecodable >>= fun t =>
      .ok t.normalizeNewlines := by
    rw [FileTree.readText, held.readBytes, ok_bind]
  constructor
  · intro h
    rcases bind_eq_error.mp h with hbroken | ⟨content, hcontent, h⟩
    · rcases bind_eq_error.mp (hread.symm.trans hbroken) with hdecode | ⟨t, -, hnever⟩
      · obtain ⟨flaw, hflaw, rfl⟩ := mapError_eq_error.mp hdecode
        exact .undecodable held.readBytes hflaw
      · cases hnever
    · unfold Credentials.ofContent at h
      split at h
      · cases h
        exact absurd rfl (unforeseen _)
      · next e reported hjson =>
        cases h
        cases e with
        | malformed problem place => exact absurd rfl (reported problem place)
        | tooDeep inList => exact .tooDeep hcontent hjson
        | tooManyDigits count => exact .tooManyDigits hcontent hjson
      · obtain ⟨c, -, rfl⟩ := mapError_eq_error.mp h
        exact absurd rfl (unforeseen c)
  · intro h
    cases h with
    | name hlong =>
      obtain ⟨content, hlookup⟩ := FileTree.isFile_eq_true_iff.mp hfile
      cases hlong.symm.trans hlookup
    | undecodable hbytes hdecode =>
      cases hbytes.symm.trans held.readBytes
      rw [hread, hdecode]
      rfl
    | tooDeep hcontent hjson | tooManyDigits hcontent hjson =>
      rw [hcontent]
      show Credentials.ofContent _ = _
      rw [Credentials.ofContent, hjson]
      rfl

/-- A fault that escapes while an input is looked at comes from a file, or there is no looking for
the file. -/
theorem isFile_of_escapes (h : Escapes around tree (.validate input) f) :
    tree.isFile (Path.ofText input) = .ok true ∨ tree.isFile (Path.ofText input) = .error f := by
  cases h with
  | name hlong => exact .inr (FileTree.isFile_eq_error_iff.mpr ⟨_, rfl, hlong⟩)
  | undecodable hbytes => exact .inl (FileTree.isFile_of_readBytes hbytes)
  | tooDeep hcontent | tooManyDigits hcontent => exact .inl (FileTree.isFile_of_readText hcontent)

/-- What looking at an input comes to. -/
inductive Looks (tree : FileTree) (input : Text) : Report → Prop
  | lost {f : Fault} :
      tree.isFile (Path.ofText input) = .error f → Looks tree input ⟨[], .raised f, tree⟩
  | absent : tree.isFile (Path.ofText input) = .ok false →
      Looks tree input ⟨[.inputNotFound (Path.ofText input).render], .done 1, tree⟩
  | accepted {c : Credentials} : tree.isFile (Path.ofText input) = .ok true →
      (tree.readText (Path.ofText input)).bind Credentials.ofContent = .ok c →
      Looks tree input ⟨[.credentials (Path.ofText input).render c.projectId], .done 0, tree⟩
  | refused {c : Cause} : tree.isFile (Path.ofText input) = .ok true →
      (tree.readText (Path.ofText input)).bind Credentials.ofContent = .error (.cause c) →
      Looks tree input ⟨[.credentialsRefused (Path.ofText input).render c], .done 1, tree⟩
  | unread {f : Fault} : tree.isFile (Path.ofText input) = .ok true →
      (tree.readText (Path.ofText input)).bind Credentials.ofContent = .error f →
        (∀ c, f ≠ .cause c) →
      Looks tree input ⟨[], .raised f, tree⟩

theorem looks_validate (input : Text) (tree : FileTree) :
    Looks tree input (validate input tree) := by
  unfold validate
  simp only
  split
  · next hfile => exact .lost hfile
  · next hfile => exact .absent hfile
  · next hfile =>
    split
    · next hcontent => exact .accepted hfile hcontent
    · next hcontent => exact .refused hfile hcontent
    · next unforeseen hcontent => exact .unread hfile hcontent unforeseen

theorem Looks.raised_iff {report : Report} (h : Looks tree input report) :
    report.ending = .raised f ↔ Escapes around tree (.validate input) f := by
  have unforeseen (escapes : Escapes around tree (.validate input) f) (c : Cause) :
      f ≠ .cause c := by
    cases escapes <;> simp
  cases h with
  | lost hfile =>
    rw [Ending.raised.injEq]
    constructor
    · rintro rfl
      obtain ⟨shown, rfl, hlong⟩ := FileTree.isFile_eq_error_iff.mp hfile
      exact .name hlong
    · intro escapes
      rcases isFile_of_escapes escapes with hthere | hlost
      · cases hfile.symm.trans hthere
      · exact Except.error.inj (hfile.symm.trans hlost)
  | absent hfile =>
    refine iff_of_false nofun fun escapes => ?_
    rcases isFile_of_escapes escapes with hthere | hlost
    · cases hfile.symm.trans hthere
    · cases hfile.symm.trans hlost
  | accepted hfile hcontent =>
    refine iff_of_false nofun fun escapes => ?_
    cases hcontent.symm.trans ((content_eq_error_iff hfile (unforeseen escapes)).mpr escapes)
  | refused hfile hcontent =>
    refine iff_of_false nofun fun escapes => ?_
    cases hcontent.symm.trans ((content_eq_error_iff hfile (unforeseen escapes)).mpr escapes)
    exact unforeseen escapes _ rfl
  | unread hfile hcontent hnot =>
    rw [Ending.raised.injEq]
    constructor
    · rintro rfl
      exact (content_eq_error_iff hfile hnot).mp hcontent
    · intro escapes
      have hcontent' := (content_eq_error_iff hfile (unforeseen escapes)).mpr escapes
      exact Except.error.inj (hcontent.symm.trans hcontent')

end Validate

end

/-! ## Building -/

section Build

variable {around : Surroundings} {tree : FileTree} {inputs : List Text}
    {config target : Option Text} {settings : Settings} {f : Fault}

theorem settingsOf_eq_error_iff [NestingLimits] :
    settingsOf around config target tree = .error f ↔
      (SettingsSource.ofName around.root config).Fails tree (replacements target) f := by
  have allowed : Settings.checkOverrides (replacements target) = .ok () := by
    cases target <;> rfl
  exact Settings.load_eq_error_iff allowed

/-- Looking for the inputs ends at the first one that cannot be looked for. -/
theorem missing_eq_error_iff :
    missing inputs tree = .error f ↔ ∃ before input after, inputs = before ++ input :: after ∧
      (∀ other ∈ before, ∃ found, tree.isFile (Path.ofText other) = .ok found) ∧
      tree.isFile (Path.ofText input) = .error f := by
  have tested (input : Text) :
      (∃ r, (do .ok (!(← tree.isFile (Path.ofText input))) : Except Fault Bool) = .ok r) ↔
        ∃ found, tree.isFile (Path.ofText input) = .ok found := by
    cases tree.isFile (Path.ofText input) <;> simp [bind, Except.bind]
  have failed (input : Text) :
      (do .ok (!(← tree.isFile (Path.ofText input))) : Except Fault Bool) = .error f ↔
        tree.isFile (Path.ofText input) = .error f := by
    cases tree.isFile (Path.ofText input) <;> simp [bind, Except.bind]
  unfold missing
  simp only [filterM_eq_error_iff, tested, failed]

theorem missing_of_files (h : ∀ input ∈ inputs, tree.isFile (Path.ofText input) = .ok true) :
    missing inputs tree = .ok [] := by
  cases habsent : missing inputs tree with
  | error f =>
    obtain ⟨before, input, after, rfl, -, hfails⟩ := missing_eq_error_iff.mp habsent
    cases hfails.symm.trans (h input (by simp))
  | ok absent =>
    obtain ⟨hsub, hfalse, -⟩ := missing_spec habsent
    cases absent with
    | nil => rfl
    | cons input rest => cases (hfalse input (by simp)).symm.trans (h input (hsub.subset (by simp)))

variable [NestingLimits]

theorem build_of_escapes (h : Escapes around tree (.build inputs config target) f) :
    build around inputs config target tree = ⟨[], .raised f, tree⟩ := by
  cases h with
  | settings hfails unforeseen =>
    have hload := settingsOf_eq_error_iff.mpr hfails
    unfold settingsOf at hload
    simp only [build, hload]
  | @input before after input _ _ _ _ hload found hlong =>
    have habsent := missing_eq_error_iff.mpr
      ⟨before, input, after, rfl, found, FileTree.isFile_eq_error_iff.mpr ⟨_, rfl, hlong⟩⟩
    unfold settingsOf at hload
    simp only [build, hload, habsent]
  | log hload files hlog hpath =>
    unfold settingsOf at hload
    simp only [build, hload, missing_of_files files, checkLog, hlog, hpath]

theorem runPasses_not_raised : (runPasses around settings inputs tree).ending ≠ .raised f := by
  unfold runPasses
  simp only
  split <;> nofun

theorem escapes_of_build (h : (build around inputs config target tree).ending = .raised f) :
    Escapes around tree (.build inputs config target) f := by
  have prepares := prepares_build around inputs config target tree
  generalize build around inputs config target tree = report at h prepares
  cases prepares with
  | refused | absent => cases h
  | unloaded hload unforeseen =>
    cases h
    exact .settings (settingsOf_eq_error_iff.mp hload) unforeseen
  | unfound hload habsent =>
    cases h
    obtain ⟨before, input, after, rfl, found, hlong⟩ := missing_eq_error_iff.mp habsent
    obtain ⟨shown, rfl, hlong⟩ := FileTree.isFile_eq_error_iff.mp hlong
    exact .input hload found hlong
  | unlogged hload hfiles hlog =>
    cases h
    unfold checkLog at hlog
    split at hlog
    · cases hlog
    · next log hwhere => exact .log hload (files_of_missing hfiles) hwhere hlog
  | runs => exact absurd h runPasses_not_raised

theorem build_of_files {code : ℕ} (hload : settingsOf around config target tree = .ok settings)
    (files : ∀ input ∈ inputs, tree.isFile (Path.ofText input) = .ok true)
    (hend : (build around inputs config target tree).ending = .done code) :
    ∃ results : List PassResult, (build around inputs config target tree).lines =
      results.map Line.ofResult ∧
      code = (if results.any fun r => r.failure?.isSome then 1 else 0) ∧
      results.map PassResult.job = inputs.map (jobFor around settings) ∧
      ∀ r ∈ results, ∃ fate effects,
        Verdict r.job (worldOf around settings tree r.job.inputId fate) effects r.outcome := by
  have hfiles := missing_of_files files
  have ready := ready_of_load hload hfiles
  have prepares := prepares_build around inputs config target tree
  generalize build around inputs config target tree = report at hend prepares ⊢
  cases prepares with
  | refused hother => cases hload.symm.trans hother
  | absent _ habsent some =>
    cases hfiles.symm.trans habsent
    exact absurd rfl some
  | unloaded | unfound | unlogged => cases hend
  | runs hother =>
    cases hload.symm.trans hother
    have reached := reaches_passes around settings inputs tree
    unfold runPasses at hend ⊢
    generalize Batch.run (host around settings inputs) tree (inputs.map (jobFor around settings)) =
      ended at hend reached ⊢
    obtain ⟨after, passes⟩ := ended
    cases hresults : Batch.results? passes with
    | none =>
      simp only [hresults] at hend
      cases hend
    | some results =>
      simp only [hresults] at hend ⊢
      exact ⟨results, rfl, (Ending.done.inj hend).symm, (built_of_reaches ready reached hresults).1,
        fun r hr => verdicts_of_reaches ready reached hresults hr⟩

/-- A triggered input without credentials has a line of its own, whatever keeps them from being
read. -/
theorem failed_mem_build {code : ℕ} {input : Text}
    (hload : settingsOf around config target tree = .ok settings)
    (files : ∀ input ∈ inputs, tree.isFile (Path.ofText input) = .ok true)
    (hend : (build around inputs config target tree).ending = .done code) (hinput : input ∈ inputs)
    (triggered : (jobFor around settings input).isTriggered = true)
    (failed : (tree.readText (Path.ofText input)).bind Credentials.ofContent = .error f) :
    code = 1 ∧ .failed input .parseConfig ((jobFor around settings input).report .parseConfig f) ∈
      (build around inputs config target tree).lines := by
  obtain ⟨results, hlines, rfl, jobs, verdicts⟩ := build_of_files hload files hend
  have hjob : jobFor around settings input ∈ results.map PassResult.job :=
    jobs ▸ List.mem_map_of_mem hinput
  obtain ⟨r, hr, hjob⟩ := List.mem_map.mp hjob
  obtain ⟨fate, effects, verdict⟩ := verdicts r hr
  rw [hjob] at verdict
  have outcome := verdict.of_credentials_error triggered failed
  have hline : Line.ofResult r =
      .failed input .parseConfig ((jobFor around settings input).report .parseConfig f) := by
    simp only [Line.ofResult, outcome, hjob, jobFor]
  have hmem := List.mem_map_of_mem hr (f := Line.ofResult)
  rw [hline] at hmem
  rw [hlines]
  exact ⟨if_pos (exists_failed_iff.mp ⟨_, _, _, hmem⟩), hmem⟩

theorem owed_build {code : ℕ} {line : Line}
    (hend : (build around inputs config target tree).ending = .done code)
    (owes : Owes around tree (.build inputs config target) line) :
    code = 1 ∧ line ∈ (build around inputs config target tree).lines := by
  have prepares := prepares_build around inputs config target tree
  cases owes with
  | settings hfails =>
    have hload := settingsOf_eq_error_iff.mpr hfails
    generalize build around inputs config target tree = report at hend prepares ⊢
    cases prepares with
    | refused hother =>
      cases hload.symm.trans hother
      cases hend
      simp
    | absent hother | runs hother => cases hload.symm.trans hother
    | unloaded | unfound | unlogged => cases hend
  | @missing _ _ _ _ input hload hinput hfile =>
    generalize build around inputs config target tree = report at hend prepares ⊢
    cases prepares with
    | refused hother => cases hload.symm.trans hother
    | absent _ habsent =>
      cases hend
      refine ⟨rfl, List.mem_map_of_mem ?_⟩
      by_contra hnot
      cases hfile.symm.trans ((missing_spec habsent).2.2 input hinput hnot)
    | unloaded | unfound | unlogged => cases hend
    | runs _ hfiles => cases hfile.symm.trans (files_of_missing hfiles input hinput)
  | content hload files hinput triggered failed =>
    exact failed_mem_build hload files hend hinput triggered failed

end Build

/-! ## What a command accounts for -/

section

variable [NestingLimits]

/-- Before its lines are printed, a command ends with a fault just if one escapes, and then it has
nothing to say and has not changed anything. Otherwise it returns 0 or 1, unless the service is
silent. It returns 1 just if it reports an error, and reports whatever it owes a line about, so it
returns 0 only if all files that it looks at can be used. -/
structure Plans (around : Surroundings) (tree : FileTree) (command : Command)
    (report : Report) : Prop where
  raised : ∀ f, report.ending = .raised f ↔ Escapes around tree command f
  silent : ∀ f, report.ending = .raised f → report.lines = [] ∧ report.tree = tree
  returns : around.routes.Answers →
    (∃ f, report.ending = .raised f) ∨ ∃ code, report.ending = .done code
  code : ∀ code, report.ending = .done code →
    (code = 0 ∨ code = 1) ∧ (code = 1 ↔ ∃ line ∈ report.lines, line.isError = true)
  owed : ∀ code line, report.ending = .done code → Owes around tree command line →
    code = 1 ∧ line.isError = true ∧ line ∈ report.lines
  usable : report.ending = .done 0 → Usable around tree command

theorem Looks.plans {tree : FileTree} {input : Text} {report : Report} (around : Surroundings)
    (h : Looks tree input report) : Plans around tree (.validate input) report where
  raised _ := h.raised_iff
  silent f hraised := by
    cases h with
    | lost | unread => exact ⟨rfl, rfl⟩
    | absent | accepted | refused => cases hraised
  returns _ := by
    cases h with
    | lost | unread => exact .inl ⟨_, rfl⟩
    | absent | accepted | refused => exact .inr ⟨_, rfl⟩
  code code hend := by
    cases h with
    | lost | unread => cases hend
    | absent | accepted | refused =>
      cases hend
      simp
  owed code line hend owes := by
    cases owes with
    | absent hfile =>
      cases h with
      | absent =>
        cases hend
        simp
      | lost hother | accepted hother | refused hother | unread hother =>
        cases hfile.symm.trans hother
    | refused hfile hcontent =>
      cases h with
      | lost hother | absent hother => cases hfile.symm.trans hother
      | accepted _ hother => cases hcontent.symm.trans hother
      | refused _ hother =>
        cases hcontent.symm.trans hother
        cases hend
        simp
      | unread _ hother unforeseen =>
        cases hcontent.symm.trans hother
        exact absurd rfl (unforeseen _)
  usable hend := by
    cases h with
    | lost | absent | refused | unread => cases hend
    | accepted hfile hcontent => exact ⟨hfile, _, hcontent⟩

theorem plans_build (around : Surroundings) (tree : FileTree) (inputs : List Text)
    (config target : Option Text) :
    Plans around tree (.build inputs config target) (build around inputs config target tree) where
  raised f := ⟨escapes_of_build, fun h => by rw [build_of_escapes h]⟩
  silent f h := by
    rw [build_of_escapes (escapes_of_build h)]
    exact ⟨rfl, rfl⟩
  returns answers := by
    have prepares := prepares_build around inputs config target tree
    generalize hreport : build around inputs config target tree = report at prepares
    cases prepares with
    | refused | absent => exact .inr ⟨1, rfl⟩
    | unloaded | unfound | unlogged => exact .inl ⟨_, rfl⟩
    | runs hload hfiles hlog =>
      rw [← hreport]
      exact .inr (exists_code answers hload hfiles hlog)
  code code h := by
    have ends := ends_of_build rfl h
    generalize build around inputs config target tree = report at h ends
    cases ends with
    | refused hload =>
      cases h
      simp
    | absent hload habsent some =>
      cases h
      obtain ⟨input, rest, rfl⟩ := List.exists_cons_of_ne_nil some
      simp
    | @passes _ results _ hload ready jobs built =>
      cases h
      simp only [List.mem_map, exists_exists_and_eq_and, Line.isError_ofResult, List.any_eq_true]
      split
      · next failed => exact ⟨.inr rfl, iff_of_true rfl failed⟩
      · next failed => exact ⟨.inl rfl, iff_of_false Nat.zero_ne_one failed⟩
  owed code line hend owes := by
    obtain ⟨hcode, hline⟩ := owed_build hend owes
    exact ⟨hcode, owes.isError, hline⟩
  usable hend := by
    have ends := ends_of_build rfl hend
    generalize hreport : build around inputs config target tree = report at hend ends
    cases ends with
    | refused | absent => cases hend
    | @passes settings _ _ hload ready _ _ =>
      refine ⟨settings, hload, fun input hinput => ⟨ready.files input hinput, fun triggered => ?_⟩⟩
      cases hcontent : (tree.readText (Path.ofText input)).bind Credentials.ofContent with
      | ok c => exact ⟨c, rfl⟩
      | error f =>
        rw [← hreport] at hend
        cases (failed_mem_build hload ready.files hend hinput triggered hcontent).1

theorem plans_help (around : Surroundings) (tree : FileTree) :
    Plans around tree .help ⟨[.help programHelp], .done 0, tree⟩ where
  raised f := iff_of_false (by simp) (by rintro ⟨⟩)
  silent f h := by cases h
  returns _ := .inr ⟨0, rfl⟩
  code code h := by
    cases h
    have plain : (Line.help programHelp).isError = false := by decide
    simp [plain]
  owed code line _ owes := by cases owes
  usable _ := trivial

theorem plans_report (around : Surroundings) (tree : FileTree) (command : Command) :
    Plans around tree command (report around command tree) := by
  cases command with
  | help => exact plans_help around tree
  | build inputs config target => exact plans_build around tree inputs config target
  | validate input => exact (looks_validate input tree).plans around

/-- A command that comes to `planned` if all of its lines can be printed ends with a fault just if
one escapes, or there is a line that the stream refuses. A fault that escapes leaves everything as
it was, and nothing is printed; a line that is refused comes after those before it, and after all
that the command does to the files. Otherwise the command returns 0 or 1, unless the service is
silent: 1 just if it has printed a line about an error. Whatever it owes a line about it prints one,
so it returns 0 only if all files that it looks at can be used. -/
structure Accounts (around : Surroundings) (tree : FileTree) (command : Command)
    (planned report : Report) : Prop where
  raised : ∀ f, report.ending = .raised f ↔
    Escapes around tree command f ∨ ∃ printed, Refuses around.stream planned.lines printed f
  silent : ∀ f, Escapes around tree command f → report.lines = [] ∧ report.tree = tree
  cut : ∀ printed f, Refuses around.stream planned.lines printed f →
    report.lines = printed ∧ report.tree = planned.tree
  returns : around.routes.Answers →
    (∃ f, report.ending = .raised f) ∨ ∃ code, report.ending = .done code
  code : ∀ code, report.ending = .done code →
    (code = 0 ∨ code = 1) ∧ (code = 1 ↔ ∃ line ∈ report.lines, line.isError = true)
  owed : ∀ code line, report.ending = .done code → Owes around tree command line →
    code = 1 ∧ line.isError = true ∧ line ∈ report.lines
  usable : report.ending = .done 0 → Usable around tree command

end

theorem not_refuses_nil {stream : Stream} {printed : List Line} {f : Fault} :
    ¬ Refuses stream [] printed f := by
  rintro ⟨line, rest, hlines, -⟩
  simp at hlines

theorem Plans.accounts [NestingLimits] {around : Surroundings} {tree : FileTree}
    {command : Command} {planned : Report} (plans : Plans around tree command planned) :
    Accounts around tree command planned (planned.printed around.stream) := by
  have unprinted {f : Fault} (h : Escapes around tree command f) :
      planned.lines = [] ∧ planned.tree = tree :=
    plans.silent f ((plans.raised f).mpr h)
  rcases print_cases around.stream planned.lines with ⟨taken, -⟩ | ⟨printed, f, refused⟩
  · rw [Report.printed_of_forall taken]
    have none {printed : List Line} {f : Fault} :
        ¬ Refuses around.stream planned.lines printed f := by
      rintro ⟨line, rest, hlines, -, refused⟩
      cases refused.symm.trans (taken line (by simp [hlines]))
    exact {
      plans with
      raised := fun f => (plans.raised f).trans (or_iff_left fun ⟨_, refused⟩ => none refused).symm
      silent := fun f h => unprinted h
      cut := fun _ _ refused => absurd refused none }
  · -- a line is refused, so no fault has escaped
    have spared {f : Fault} (h : Escapes around tree command f) : False :=
      not_refuses_nil ((unprinted h).1 ▸ refused)
    have only {printed' : List Line} {f' : Fault}
      (h : Refuses around.stream planned.lines printed' f') :
        printed' = printed ∧ f' = f := by
      have same := (print_of_refuses h).symm.trans (print_of_refuses refused)
      exact ⟨(Prod.mk.inj same).1, Option.some.inj (Prod.mk.inj same).2⟩
    rw [Report.printed_of_refuses refused]
    exact {
      raised := fun f' => by
        rw [or_iff_right spared, Ending.raised.injEq]
        constructor
        · rintro rfl
          exact ⟨printed, refused⟩
        · rintro ⟨printed', h⟩
          exact (only h).2.symm
      silent := fun _ h => (spared h).elim
      cut := fun _ _ h => ⟨(only h).1.symm, rfl⟩
      returns := fun _ => .inl ⟨f, rfl⟩
      code := fun _ h => by cases h
      owed := fun _ _ h => by cases h
      usable := fun h => by cases h }

/-- Whatever the arguments ask for, the command accounts for it. -/
theorem run_accounts [NestingLimits] {around : Surroundings} {args : List Text}
    {command : Command} {tree : FileTree} (hparse : Command.parse args = .ok command) :
    Accounts around tree command (report around command tree) (run around args tree) := by
  have hrun : run around args tree = (report around command tree).printed around.stream := by
    rw [run, hparse]
  rw [hrun]
  exact (plans_report around tree command).accounts

def Ending.fault? (ending : Ending) : Option Fault :=
  match ending with
  | .raised f => some f
  | _ => none

/-! An input whose only byte begins no character, a directory in the place of the settings, and an
input that names a project by half of a character. -/

def undecodableTree : FileTree :=
  ⟨.ofList [(Text.words ["home", "nstack.json"], .file [0xFF])], Text.words ["home"]⟩

def directoryTree : FileTree :=
  ⟨.ofList [(Text.words ["home", "nstackgen.yaml"], .directory)], Text.words ["home"]⟩

def halfCharacterTree : FileTree := ⟨.ofList
  [(Text.words ["home", "nstack.json"],
    .file (Utf8.encodeAll r#"{"nstack_project_id": "\ud800", "nstack_api_key": "key"}"#))],
      Text.words ["home"]⟩

/-- A build reports that it cannot read the input, and returns 1. -/
theorem run_accounts_undecodable : ∃ settings f,
    (run renewalSurroundings (Text.words ["build"]) undecodableTree).ending = .done 1 ∧
      .failed usualInput .parseConfig
          ((jobFor renewalSurroundings settings usualInput).report .parseConfig (.undecodable f)) ∈
        (run renewalSurroundings (Text.words ["build"]) undecodableTree).lines := by
  have accounts : Accounts renewalSurroundings undecodableTree (.build [usualInput] none none)
      (report renewalSurroundings (.build [usualInput] none none) undecodableTree)
      (run renewalSurroundings (Text.words ["build"]) undecodableTree) := run_accounts rfl
  have hload : settingsOf renewalSurroundings none none undecodableTree = .ok .default := rfl
  have hfile : undecodableTree.isFile (Path.ofText usualInput) = .ok true := rfl
  have spared (f : Fault) :
      ¬ Escapes renewalSurroundings undecodableTree (.build [usualInput] none none) f := by
    intro h
    generalize hinputs : [usualInput] = inputs at h
    cases h with
    | settings hfails => cases (settingsOf_eq_error_iff.mpr hfails).symm.trans hload
    | @input _ _ input _ _ _ _ _ _ hlong =>
      obtain rfl : input = usualInput := List.mem_singleton.mp (hinputs ▸ by simp)
      cases (FileTree.isFile_eq_error_iff.mpr ⟨_, rfl, hlong⟩).symm.trans hfile
    | log hload' _ hlog =>
      cases hload'.symm.trans hload
      cases hlog
  have owes : Owes renewalSurroundings undecodableTree (.build [usualInput] none none) _ :=
    .content hload (List.forall_mem_singleton.mpr hfile) List.mem_cons_self rfl rfl
  rcases accounts.returns englishRoutes_answers with ⟨f, hraised⟩ | ⟨code, hend⟩
  · rcases (accounts.raised f).mp hraised with escapes | ⟨_, _, _, _, _, refused⟩
    · exact absurd escapes (spared f)
    · cases refused
  · obtain ⟨rfl, -, hline⟩ := accounts.owed code _ hend owes
    exact ⟨_, _, hend, hline⟩

theorem exists_raised {ending : Ending} {name : Text}
    (h : ending.fault?.map Fault.name = some name) : ∃ f, ending = .raised f ∧ f.name = name := by
  cases ending with
  | raised f => exact ⟨f, rfl, Option.some.inj h⟩
  | done | refused | waiting => cases h

/-- The same input ends `validate` with a fault, the directory ends a build with one, and so does a
stream of bytes the look at an input that has to be printed with half of a character. -/
theorem undecodable_input_escapes :
    Command.parse (Text.words ["validate"]) = .ok (.validate usualInput) ∧
    (∃ f, (run renewalSurroundings (Text.words ["validate"]) undecodableTree).ending = .raised f ∧
      f.name = Text.ofString "UnicodeDecodeError") ∧
    (∃ f, (run { renewalSurroundings with stream := .utf8 } (Text.words ["validate"])
      halfCharacterTree).ending = .raised f ∧
      f.name = Text.ofString "UnicodeEncodeError") ∧
    Command.parse (Text.words ["build"]) = .ok (.build [usualInput] none none) ∧
    ∃ f, (run renewalSurroundings (Text.words ["build"]) directoryTree).ending = .raised f ∧
      f.name = Text.ofString "IsADirectoryError" :=
  ⟨rfl, ⟨_, rfl, rfl⟩, exists_raised (by decide +kernel), rfl, _, rfl, rfl⟩

end LocaleGen.CommandLine
