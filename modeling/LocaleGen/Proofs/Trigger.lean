import LocaleGen.Proofs.Places
import LocaleGen.Proofs.Verdict
import LocaleGen.Proofs.Ways
import Mathlib

/-!
# Triggers that fire

The name of an input is compared with the trigger as a whole, and a name holds no separator
(`Path.separator_notMem_name`). So a trigger without one fires for every file of that name, in
whatever directory, and one with a separator fires for no input at all, although the settings that
give it are accepted: `Settings.fires_or_idles_of_decode`.
-/

namespace LocaleGen

/-! ## Names of files -/

theorem Text.notMem_of_mem_splitOn {t piece : Text} {c : CodePoint} (h : piece ∈ splitOn t c) :
    c ∉ piece := by
  induction t generalizing piece with
  | nil =>
    rw [splitOn, List.mem_singleton] at h
    rw [h]
    exact List.not_mem_nil
  | cons d t ih =>
    obtain ⟨first, pieces, hrest⟩ := List.exists_cons_of_ne_nil (splitOn_ne_nil t c)
    rw [hrest] at ih
    simp only [splitOn, hrest] at h
    split_ifs at h with hd
    · rcases List.mem_cons.mp h with rfl | hmem
      · exact List.not_mem_nil
      · exact ih hmem
    · rcases List.mem_cons.mp h with rfl | hmem
      · exact List.not_mem_cons_of_ne_of_not_mem (Ne.symm hd) (ih List.mem_cons_self)
      · exact ih (List.mem_cons_of_mem _ hmem)

namespace Path

def separator : CodePoint := CodePoint.ofChar '/'

theorem separator_notMem_name (t : Text) : separator ∉ (ofText t).name := by
  cases hlast : (ofText t).names.getLast? with
  | none =>
    rw [name, hlast]
    exact List.not_mem_nil
  | some last =>
    have hpiece : last ∈ t.splitOn '/' := (List.mem_filter.mp (List.mem_of_getLast? hlast)).1
    rw [name, hlast]
    exact Text.notMem_of_mem_splitOn hpiece

section Names

variable {name : Text} (hname : isName name = true) (hseparator : separator ∉ name)

include hname hseparator

theorem name_ofText : (ofText name).name = name := by
  have hsplit : name.splitOn '/' = [name] := Text.splitOn_of_notMem hseparator
  rw [Path.name, ofText, hsplit, List.filter_cons_of_pos hname]
  rfl

theorem name_ofText_append (directory : Text) :
    (ofText (directory ++ "/" ++ name)).name = name := by
  have hsplit : (directory ++ Text.ofString "/" ++ name).splitOn '/' =
      directory.splitOn '/' ++ [name] := by
    rw [List.append_assoc, ← Text.splitOn_of_notMem hseparator]
    exact Text.splitOn_append_cons directory name '/'
  rw [Path.name, ofText, hsplit, List.filter_append, List.filter_cons_of_pos hname, List.filter_nil,
    List.getLast?_concat,
    Option.getD_some]

end Names

/-- The texts that name a file, by itself or in a directory that is given as a text or as a path. -/
inductive IsFileNamed (name : Text) : Text → Prop
  | alone : IsFileNamed name name
  | inside (directory : Text) : IsFileNamed name (directory ++ "/" ++ name)
  | below (directory : Path) : IsFileNamed name (directory.child name).render

/-- A path with one more name is that name or has it behind a separator. -/
theorem render_child_cases (p : Path) (name : Text) :
    (p.child name).render = name ∨ ∃ directory,
    (p.child name).render = directory ++ "/" ++ name := by
  rw [render_child_eq]
  by_cases hnames : p.names = []
  · rw [hnames]
    cases p.root with
    | relative => exact .inl rfl
    | slash => exact .inr ⟨[], rfl⟩
    | doubleSlash => exact .inr ⟨"/", rfl⟩
  · refine .inr ⟨PathRoot.text p.root ++ Text.join "/" p.names, ?_⟩
    rw [FileTree.join_concat hnames]
    simp only [List.append_assoc]

theorem name_of_isFileNamed {name t : Text} (hname : isName name = true)
    (hseparator : separator ∉ name) (h : IsFileNamed name t) : (ofText t).name = name := by
  cases h with
  | alone => exact name_ofText hname hseparator
  | inside directory => exact name_ofText_append hname hseparator directory
  | below directory =>
    obtain h | ⟨front, h⟩ := render_child_cases directory name
    · rw [h]
      exact name_ofText hname hseparator
    · rw [h]
      exact name_ofText_append hname hseparator front

end Path

/-! ## Passes that are run and passes that are not -/

section

variable [NestingLimits]

namespace Job

def Fires (job : Job) : Prop :=
  job.isTriggered = true ∧
    ∀ w c, Course.Reaches w job (Course.start w job) c → c.state ≠ .finished .skipped

/-- The input is not one that the trigger names, and in every world its pass is over before it has
asked for anything. -/
def Idles (job : Job) : Prop :=
  job.isTriggered = false ∧
    ∀ w c, Course.Reaches w job (Course.start w job) c →
      c.state = .finished .skipped ∧ c.effects = []

variable {job : Job}

theorem fires_of_isTriggered (h : job.isTriggered = true) : job.Fires := by
  refine ⟨h, fun w c hreaches hend => ?_⟩
  have verdict := (Standing.of_reaches hreaches).verdict hend
  rw [verdict.skipped_iff.mp rfl] at h
  cases h

theorem idles_of_not_isTriggered (h : job.isTriggered = false) : job.Idles := by
  have hne : ¬ job.isTriggered = true := by simp [h]
  refine ⟨h, fun w c hreaches => ?_⟩
  have standing := Standing.of_reaches hreaches
  cases standing with
  | reading triggered | connecting triggered | resolving triggered
  | fetchingDefault triggered | bundling triggered =>
    exact absurd triggered hne
  | finished verdict _ trail =>
    cases verdict with
    | skipped => exact ⟨rfl, trail.effects⟩
    | parseConfig triggered | connect triggered | index triggered | noDefault triggered
    | fetchDefault triggered | bundle triggered => exact absurd triggered hne

end Job

end

/-! ## Triggers that are accepted -/

namespace Settings

variable {given : List (Text × Json)} {s : Settings}

theorem isName_trigger (h : decode given = .ok s) : Path.isName s.trigger = true := by
  have hsuffix := isSuffix_of_decode h
  have hnonempty : s.trigger ≠ [] := by
    intro heq
    rw [heq, List.suffix_nil] at hsuffix
    exact absurd hsuffix (by decide)
  have hpoint : s.trigger ≠ Text.ofString "." := by
    intro heq
    rw [heq] at hsuffix
    exact absurd hsuffix (by decide)
  simp [Path.isName, hnonempty, hpoint]

/-- An accepted trigger without a separator fires for every file of that name. One with a separator
is accepted as well and fires for no input. -/
theorem fires_or_idles_of_decode [NestingLimits] (h : decode given = .ok s) :
    (Path.separator ∉ s.trigger →
      ∀ job : Job, job.settings = s → Path.IsFileNamed s.trigger job.inputId → job.Fires) ∧
    (Path.separator ∈ s.trigger → ∀ job : Job, job.settings = s → job.Idles) := by
  refine ⟨fun hnone job hjob hinput => ?_, fun hsome job hjob => ?_⟩
  · have hname := Path.name_of_isFileNamed (isName_trigger h) hnone hinput
    refine Job.fires_of_isTriggered ?_
    rw [Job.isTriggered, hjob, hname, decide_eq_true rfl]
  · refine Job.idles_of_not_isTriggered (decide_eq_false fun heq => ?_)
    rw [hjob] at heq
    exact Path.separator_notMem_name job.inputId (heq ▸ hsome)

def triggerMembers (trigger : Text) : List (Text × Json) := [("trigger", .text trigger)]

def passOver (inputId : Text) (s : Settings) : Job := ⟨inputId, s, "12:00:00", .ofInt 0⟩

theorem fires_localization : ∃ s, decode (triggerMembers "localization.json") = .ok s ∧
    (passOver "lib/src/localization.json" s).Fires ∧
    ∃ s', decode (triggerMembers "src/localization.json") = .ok s' ∧
    (passOver "lib/src/localization.json" s').Idles := by
  have hplain : decode (triggerMembers "localization.json") =
      .ok { Settings.default with trigger := "localization.json" } := by decide +kernel
  have hslashed : decode (triggerMembers "src/localization.json") =
      .ok { Settings.default with trigger := "src/localization.json" } := by decide +kernel
  refine ⟨_, hplain, ?_, _, hslashed, ?_⟩
  · exact (fires_or_idles_of_decode hplain).1 (by decide) _ rfl (.inside "lib/src")
  · exact (fires_or_idles_of_decode hslashed).2 (by decide) _ rfl

/-- A trigger with a directory in it is accepted, and the file that it names in a directory is not
one that it fires for. -/
theorem separatedTrigger_is_dead : ∃ s, decode (triggerMembers "config/nstack.json") = .ok s ∧
    Path.IsFileNamed s.trigger "lib/config/nstack.json" ∧
    (passOver "lib/config/nstack.json" s).isTriggered = false ∧
    (passOver "config/nstack.json" s).isTriggered = false := by
  refine ⟨{ Settings.default with trigger := "config/nstack.json" }, ?_, .inside "lib", ?_, ?_⟩ <;>
    decide +kernel

end Settings

end LocaleGen
