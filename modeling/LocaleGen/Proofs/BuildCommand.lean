import LocaleGen.Proofs.Building
import Mathlib

/-!
# Builds touch what they report

`Ends` lists the ways in which a build may return an exit code. What it leaves behind in each of
them is `build_touches_reported`.
-/

namespace LocaleGen.CommandLine

def settingsOf [NestingLimits] (around : Surroundings) (config target : Option Text)
    (tree : FileTree) : Except Fault Settings :=
  Settings.load tree (.ofName around.root config) (target.toList.map fun t =>
    (Text.ofString "target", .text t))

theorem missing_spec {inputs absent : List Text} {tree : FileTree}
    (h : missing inputs tree = .ok absent) :
    absent.Sublist inputs ∧ (∀ input ∈ absent, tree.isFile (Path.ofText input) = .ok false) ∧
      ∀ input ∈ inputs, input ∉ absent → tree.isFile (Path.ofText input) = .ok true := by
  have isFile_of {input : Text} {b : Bool}
      (hb : (do .ok (!(← tree.isFile (Path.ofText input))) : Except Fault Bool) = .ok b) :
      tree.isFile (Path.ofText input) = .ok !b := by
    obtain ⟨found, hfound, hb⟩ := bind_eq_ok.mp hb
    cases hb
    rw [hfound, Bool.not_not]
  obtain ⟨hsub, habsent, hrest⟩ := filterM_eq_ok h
  exact ⟨hsub, fun input hinput => isFile_of (habsent input hinput),
    fun input hinput hnot => isFile_of (hrest input hinput hnot)⟩

theorem files_of_missing {inputs : List Text} {tree : FileTree} (h : missing inputs tree = .ok []) :
    ∀ input ∈ inputs, tree.isFile (Path.ofText input) = .ok true :=
  fun input hinput => (missing_spec h).2.2 input hinput List.not_mem_nil

section

variable [NestingLimits]

/-- What a build comes to before its passes, or that it runs them. -/
inductive Prepares (around : Surroundings) (inputs : List Text) (config target : Option Text)
    (tree : FileTree) : Report → Prop
  | refused {c : Cause} : settingsOf around config target tree = .error (.cause c) →
      Prepares around inputs config target tree ⟨[.settingsRefused c], .done 1, tree⟩
  | unloaded {f : Fault} : settingsOf around config target tree = .error f → (∀ c, f ≠ .cause c) →
      Prepares around inputs config target tree ⟨[], .raised f, tree⟩
  | absent {settings : Settings} {absent : List Text} :
      settingsOf around config target tree = .ok settings →
      missing inputs tree = .ok absent → absent ≠ [] →
      Prepares around inputs config target tree ⟨absent.map .inputNotFound, .done 1, tree⟩
  | unfound {settings : Settings} {f : Fault} :
      settingsOf around config target tree = .ok settings →
      missing inputs tree = .error f →
        Prepares around inputs config target tree ⟨[], .raised f, tree⟩
  | unlogged {settings : Settings} {f : Fault} :
      settingsOf around config target tree = .ok settings →
      missing inputs tree = .ok [] → checkLog around settings = .error f →
      Prepares around inputs config target tree ⟨[], .raised f, tree⟩
  | runs {settings : Settings} : settingsOf around config target tree = .ok settings →
      missing inputs tree = .ok [] →
      checkLog around settings = .ok () →
      Prepares around inputs config target tree (runPasses around settings inputs tree)

theorem prepares_build (around : Surroundings) (inputs : List Text) (config target : Option Text)
    (tree : FileTree) :
    Prepares around inputs config target tree (build around inputs config target tree) := by
  unfold build
  simp only
  split
  · next hload => exact .refused hload
  · next unforeseen hload => exact .unloaded hload unforeseen
  · next hload =>
    split
    · next habsent => exact .unfound hload habsent
    · next input rest habsent => exact .absent hload habsent (List.cons_ne_nil input rest)
    · next hfiles =>
      split
      · next hlog => exact .unlogged hload hfiles hlog
      · next hlog => exact .runs hload hfiles hlog

/-- How a build may end with an exit code: its settings are refused, inputs are missing, or every
pass has a result. -/
inductive Ends (around : Surroundings) (inputs : List Text) (config target : Option Text)
    (tree : FileTree) : Report → Prop
  | refused {c : Cause} : settingsOf around config target tree = .error (.cause c) →
      Ends around inputs config target tree ⟨[.settingsRefused c], .done 1, tree⟩
  | absent {settings : Settings} {absent : List Text} :
      settingsOf around config target tree = .ok settings →
      missing inputs tree = .ok absent → absent ≠ [] →
      Ends around inputs config target tree ⟨absent.map .inputNotFound, .done 1, tree⟩
  | passes {settings : Settings} {results : List PassResult} {after : FileTree} :
      settingsOf around config target tree = .ok settings → Ready settings inputs tree →
      results.map PassResult.job = inputs.map (jobFor around settings) →
        Built around settings results tree after →
      Ends around inputs config target tree
        ⟨results.map Line.ofResult, .done (if results.any fun r => r.failure?.isSome then 1 else 0),
          after⟩

section Run

variable {around : Surroundings} {settings : Settings} {inputs : List Text}
    {config target : Option Text} {tree : FileTree} {report : Report} {code : ℕ}

theorem ready_of_load (hload : settingsOf around config target tree = .ok settings)
    (hfiles : missing inputs tree = .ok []) : Ready settings inputs tree :=
  ⟨Settings.isSuffix_of_load hload, files_of_missing hfiles⟩

/-- The passes of a build take turns, which is one of the orders in which they can go on. -/
theorem reaches_passes (around : Surroundings) (settings : Settings)
    (inputs : List Text) (tree : FileTree) :
    Batch.Reaches (host around settings inputs)
      (tree, inputs.map fun input => .waiting (jobFor around settings input))
      ((Batch.run (host around settings inputs) tree (inputs.map (jobFor around settings))).1,
        (Batch.run (host around settings inputs) tree (inputs.map (jobFor around settings))).2.map
          .begun) := by
  have reached : Batch.Reaches (host around settings inputs) _ _ :=
    Batch.reaches_run tree (inputs.map (jobFor around settings))
  rwa [List.map_map] at reached

theorem ends_of_runPasses (hload : settingsOf around config target tree = .ok settings)
    (ready : Ready settings inputs tree) (h : runPasses around settings inputs tree = report)
    (hend : report.ending = .done code) : Ends around inputs config target tree report := by
  have reached := reaches_passes around settings inputs tree
  unfold runPasses at h
  generalize Batch.run (host around settings inputs) tree (inputs.map (jobFor around settings)) =
    ended at h reached
  obtain ⟨after, passes⟩ := ended
  simp only at h
  split at h
  · subst h
    cases hend
  · next results hresults =>
    subst h
    obtain ⟨jobs, built⟩ := built_of_reaches ready reached hresults
    exact .passes hload ready jobs built

/-- A build that gets to its passes returns an exit code, unless the service is silent. -/
theorem exists_code (answers : around.routes.Answers)
    (hload : settingsOf around config target tree = .ok settings)
    (hfiles : missing inputs tree = .ok []) (hlog : checkLog around settings = .ok ()) :
    ∃ code, (build around inputs config target tree).ending = .done code := by
  obtain ⟨results, hresults⟩ := exists_results_of_reaches (ready_of_load hload hfiles) answers
    (reaches_passes around settings inputs tree) (Batch.inbox_run _ _)
  have hbuild : build around inputs config target tree = runPasses around settings inputs tree := by
    unfold settingsOf at hload
    simp only [build, hload, hfiles, hlog]
  rw [hbuild, runPasses]
  simp only [hresults]
  exact ⟨_, rfl⟩

theorem ends_of_build (h : build around inputs config target tree = report)
    (hend : report.ending = .done code) : Ends around inputs config target tree report := by
  have prepares := prepares_build around inputs config target tree
  rw [h] at prepares
  cases prepares with
  | refused hload => exact .refused hload
  | absent hload habsent some => exact .absent hload habsent some
  | unloaded | unfound | unlogged => cases hend
  | runs hload hfiles => exact ends_of_runPasses hload (ready_of_load hload hfiles) rfl hend

end Run

end

theorem exists_failed_iff {results : List PassResult} :
    (∃ input stage failure, .failed input stage failure ∈ results.map Line.ofResult) ↔
      (results.any fun r => r.failure?.isSome) = true := by
  rw [List.any_eq_true]
  constructor
  · rintro ⟨input, stage, failure, hmem⟩
    obtain ⟨⟨job, outcome⟩, hr, hline⟩ := List.mem_map.mp hmem
    refine ⟨_, hr, ?_⟩
    cases outcome with
    | failed => rfl
    | completed | skipped => cases hline
  · rintro ⟨⟨job, outcome⟩, hr, hfailure⟩
    cases outcome with
    | failed stage failure => exact ⟨job.inputId, stage, failure, List.mem_map_of_mem hr⟩
    | completed | skipped => cases hfailure

/-! ## Printing -/

def Refuses (stream : Stream) (lines printed : List Line) (f : Fault) : Prop :=
  ∃ line rest, lines = printed ++ line :: rest ∧
    (∀ earlier ∈ printed, stream earlier.render = .ok ()) ∧
    stream line.render = .error f

theorem print_of_refuses {stream : Stream} {lines printed : List Line} {f : Fault}
    (h : Refuses stream lines printed f) : print stream lines = (printed, some f) := by
  obtain ⟨line, rest, rfl, taken, refused⟩ := h
  induction printed with
  | nil => simp only [List.nil_append, print, refused]
  | cons earlier printed ih =>
    obtain ⟨first, others⟩ := List.forall_mem_cons.mp taken
    simp only [List.cons_append, print, first, ih others]

theorem print_cases (stream : Stream) (lines : List Line) :
    (∀ line ∈ lines, stream line.render = .ok ()) ∧ print stream lines = (lines, none) ∨
      ∃ printed f, Refuses stream lines printed f := by
  induction lines with
  | nil => exact .inl ⟨List.forall_mem_nil _, rfl⟩
  | cons line rest ih =>
    cases hline : stream line.render with
    | error f => exact .inr ⟨[], f, line, rest, rfl, List.forall_mem_nil _, hline⟩
    | ok =>
      rcases ih with ⟨taken, hprint⟩ | ⟨printed, f, next, later, rfl, taken, refused⟩
      · exact .inl ⟨List.forall_mem_cons.mpr ⟨hline, taken⟩, by simp only [print, hline, hprint]⟩
      · exact .inr ⟨line :: printed, f, next, later, rfl, List.forall_mem_cons.mpr ⟨hline, taken⟩,
          refused⟩

theorem Report.printed_of_refuses {stream : Stream} {report : Report}
    {printed : List Line} {f : Fault} (h : Refuses stream report.lines printed f) :
    report.printed stream = ⟨printed, .raised f, report.tree⟩ := by
  rw [Report.printed, print_of_refuses h]

/-- A command whose lines are all taken comes to what it would come to anyway. -/
theorem Report.printed_of_forall {stream : Stream} {report : Report}
    (h : ∀ line ∈ report.lines, stream line.render = .ok ()) : report.printed stream = report := by
  rcases print_cases stream report.lines with
    ⟨-, hprint⟩ | ⟨before, f, line, rest, hlines, -, refused⟩
  · rw [printed, hprint]
  · cases refused.symm.trans (h line (by simp [hlines]))

def englishRoutes : RouteTable := .ofList
  [("https://nstack.io/api/v2/content/localize/resources/platforms/mobile?dev=true",
    .reply ⟨200, Utf8.encodeAll
      (r#"{"data": [{"id": 1, "url": "https://cdn.nstack.io/en.json", "# ++
        r#""language": {"id": 1, "locale": "en-GB", "is_default": true}}]}"# : String),
          none, none⟩),
   ("https://cdn.nstack.io/en.json", .reply ⟨200, Utf8.encodeAll
      r#"{"data": {"general": {"ok": "OK"}}}"#, none, none⟩)]

def renewalSurroundings : Surroundings :=
  ⟨"/home", ⟨"2026-01-01T00:00:00+00:00", ⟨739617, by decide, by decide⟩⟩, .ofInt 0,
    englishRoutes, .ofText⟩

/-- Two inputs, the second of which is no JSON and has an output of an earlier build beside it. -/
def renewalTree : FileTree := ⟨.ofList
  [(Text.words ["home", "nstackgen.yaml"], .file (Utf8.encodeAll "logging:\n  directory: logs\n")),
   (Text.words ["home", "nstack.json"],
    .file (Utf8.encodeAll r#"{"nstack_project_id": "project", "nstack_api_key": "key"}"#)),
   (Text.words ["home", "lib"], .directory),
   (Text.words ["home", "lib", "nstack.json"], .file (Utf8.encodeAll r"{")),
   (Text.words ["home", "lib", "nstack.dart"], .file (Utf8.encodeAll "// old"))],
     Text.words ["home"]⟩

def renewalInputs : List Text := Text.words ["nstack.json", "lib/nstack.json"]

theorem englishRoutes_answers : englishRoutes.Answers := by
  intro url hsilent
  unfold RouteTable.find at hsilent
  cases hfound : englishRoutes.get? url with
  | none =>
    rw [hfound] at hsilent
    cases hsilent
  | some route =>
    rw [hfound] at hsilent
    obtain rfl : route = .silent := hsilent
    have hmem := Dict.mem_of_get?_ofList hfound
    simp at hmem

end LocaleGen.CommandLine
