import LocaleGen.Proofs.SettingsOverride
import LocaleGen.Settings.Use
import Mathlib

/-!
# What is kept of settings

Every action leaves behind what the record says was loaded last
(`Settings.Workplace.stored_perform`), so after any actions, with files that change in between, the
cache keeps just that (`stored_serve`), and what is answered depends on it and on the files of the
moment only (`exists_of_split`). Together with what it means to replace values of a file:
`settings_cache_tracks_loads`.
-/

namespace LocaleGen

namespace Settings

section

variable [NestingLimits]

namespace Workplace

variable {root : Text} {w : Workplace} {action : Action} {f : Fault}

/-! ## One action -/

/-- An action leaves behind what was loaded last. -/
theorem stored_perform (root : Text) (w : Workplace) (action : Action) :
    (w.perform root action).1.cache.stored =
      Incident.update w.cache.stored ⟨w.files, action, (w.perform root action).2⟩ := by
  cases action with
  | edit | reset => rfl
  | load name overrides =>
    simp only [perform, SettingsCache.load]
    cases Settings.load w.files (.ofName root name) overrides <;> rfl
  | get =>
    simp only [perform, SettingsCache.get]
    cases hstored : w.cache.stored with
    | some s => exact hstored
    | none =>
      simp only [SettingsCache.load]
      cases Settings.load w.files (.ofName root none) [] with
      | ok s => rfl
      | error f => exact hstored

/-- An action that fails changes nothing. -/
theorem perform_of_error (h : (w.perform root action).2 = some (.error f)) :
    (w.perform root action).1 = w := by
  obtain ⟨files, stored⟩ := w
  cases action with
  | edit | reset => cases h
  | load name overrides =>
    simp only [perform, SettingsCache.load] at h ⊢
    cases hload : Settings.load files (.ofName root name) overrides with
    | ok s => simp [hload] at h
    | error f => rfl
  | get =>
    obtain ⟨_ | s⟩ := stored
    · simp only [perform, SettingsCache.get, SettingsCache.load] at h ⊢
      cases hload : Settings.load files (.ofName root none) [] with
      | ok s => simp [hload] at h
      | error f => rfl
    · cases h

theorem answer_load (root : Text) (w : Workplace) (name : Option Text)
    (overrides : List (Text × Json)) :
    (w.perform root (.load name overrides)).2 =
      some (Settings.load w.files (.ofName root name) overrides) := by
  simp only [perform, SettingsCache.load]
  cases Settings.load w.files (.ofName root name) overrides <;> rfl

theorem answer_get (root : Text) (w : Workplace) :
    (w.perform root .get).2 =
      some (match w.cache.stored with
        | some s => .ok s
        | none => Settings.load w.files (.ofName root none) []) := by
  simp only [perform, SettingsCache.get]
  cases w.cache.stored with
  | some s => rfl
  | none =>
    simp only [SettingsCache.load]
    cases Settings.load w.files (.ofName root none) [] <;> rfl

/-! ## Many actions -/

theorem stored_serve (root : Text) (w : Workplace) (actions : List Action) :
    (w.serve root actions).1.cache.stored =
      (w.serve root actions).2.foldl Incident.update w.cache.stored := by
  induction actions generalizing w with
  | nil => rfl
  | cons action rest ih =>
    rw [serve, ih, List.foldl_cons, ← stored_perform]

/-- Every incident of the record is what its action led to when the cache kept what had been loaded
last by then. -/
theorem exists_of_split {actions : List Action} {earlier later : List Incident} {i : Incident}
    (h : (w.serve root actions).2 = earlier ++ i :: later) :
    ∃ w' : Workplace, w'.cache.stored = earlier.foldl Incident.update w.cache.stored ∧
    w'.files = i.files ∧
      i.answer = (w'.perform root i.action).2 := by
  induction actions generalizing w earlier with
  | nil => simp [serve] at h
  | cons action rest ih =>
    rw [serve] at h
    cases earlier with
    | nil =>
      obtain ⟨rfl, -⟩ := List.cons.inj h
      exact ⟨w, rfl, rfl, rfl⟩
    | cons first earlier =>
      obtain ⟨rfl, hrest⟩ := List.cons.inj h
      obtain ⟨w', hstored, hfiles, hanswer⟩ := ih hrest
      exact ⟨w', by rw [hstored, List.foldl_cons, stored_perform], hfiles, hanswer⟩

end Workplace

/-- What is kept of settings is what was loaded last. Whatever happens, files that are written and
deleted included, the cache keeps the settings of the last load that succeeded since it was dropped,
and settings that are asked for count as loaded if none were kept. Explicit loads depend on the
files of the moment only; settings that are asked for are those that are kept, whatever the files
hold, or else are loaded from the usual file with nothing replaced. What fails changes nothing. And
loading a file with values that replace some of its own is loading a file in which these values
stand. -/
theorem settings_cache_tracks_loads :
    -- after any actions
    (∀ (root : Text) (files : FileTree) (actions : List Action),
      let run := Workplace.serve root ⟨files, .empty⟩ actions
      run.1.cache.stored = Incident.latest? run.2 ∧
      ∀ (earlier later : List Incident) (i : Incident), run.2 = earlier ++ i :: later →
        (∀ name overrides, i.action = .load name overrides →
          i.answer = some (load i.files (.ofName root name) overrides)) ∧
        (i.action = .get → ∀ s, Incident.latest? earlier = some s → i.answer = some (.ok s)) ∧
        (i.action = .get → Incident.latest? earlier = none →
          i.answer = some (load i.files (.ofName root none) []))) ∧
    -- an action that fails
    (∀ (root : Text) (w : Workplace) (action : Action) (f : Fault),
      (w.perform root action).2 = some (.error f) →
      (w.perform root action).1 = w) ∧
    -- values that are replaced
    ∀ (source : SettingsSource) (tree tree' : FileTree) (members members' : List (Yaml.Value × Yaml.Value))
      (overrides : List (Text × Json)), source.members tree = .ok members →
      source.members tree' = .ok members' →
      (∀ m ∈ overrides, m.1 ≠ Text.ofString "config_path") → Replaces overrides members members' →
      load tree source overrides = load tree' source [] := by
  refine ⟨fun root files actions => ⟨Workplace.stored_serve root _ actions,
    fun earlier later i hsplit => ?_⟩,
    fun _ _ _ _ => Workplace.perform_of_error, fun _ _ _ _ _ _ => load_eq⟩
  obtain ⟨w, hstored, hfiles, hanswer⟩ := Workplace.exists_of_split hsplit
  have kept : w.cache.stored = Incident.latest? earlier := hstored
  rw [hanswer, ← hfiles, ← kept]
  refine ⟨fun name overrides hload => ?_, fun hget s hsome => ?_, fun hget hnone => ?_⟩
  · rw [hload, Workplace.answer_load]
  · rw [hget, Workplace.answer_get, hsome]
  · rw [hget, Workplace.answer_get, hnone]

end

def targetTree (target : String) : FileTree :=
  FileTree.empty.put (Text.words ["nstackgen.yaml"])
    (.file (Utf8.encodeAll ("target: " ++ target ++ "\n" : String)))

def isSingle (r : Except Fault (List (Yaml.Value × Yaml.Value))) (key t : Text) : Bool :=
  match r with
  | .ok [(.text k, .text u)] => k = key && u = t
  | _ => false

theorem eq_of_isSingle {r : Except Fault (List (Yaml.Value × Yaml.Value))} {key t : Text}
    (h : isSingle r key t = true) : r = .ok [(.text key, .text t)] := by
  unfold isSingle at h
  split at h
  · simp only [Bool.and_eq_true, decide_eq_true_eq] at h
    rw [h.1, h.2]
  · cases h

def reloading : List Action :=
  [.load none [], .edit fun _ => targetTree "ruby", .load none [], .get]

/-- A target that is none does not matter if it is replaced, and settings that have been loaded stay
if a later load fails. -/
theorem settings_cache_tracks_loads_target :
    load (targetTree "ruby") (.ofName "/home" none)
    [("target", .text "python"), ("trigger", .null)] =
      load (targetTree "python") (.ofName "/home" none) [] ∧
    (load (targetTree "ruby") (.ofName "/home" none) []).isOk = false ∧
    (Workplace.serve "/home" ⟨targetTree "python", .empty⟩ reloading).1.cache.stored =
      some { Settings.default with target := .python } := by
  obtain ⟨tracks, -, replaces⟩ := settings_cache_tracks_loads
  have ruby : (SettingsSource.ofName "/home" none).members (targetTree "ruby") =
      .ok [(.text "target", .text "ruby")] :=
    eq_of_isSingle (by decide +kernel)
  have python : (SettingsSource.ofName "/home" none).members (targetTree "python") =
      .ok [(.text "target", .text "python")] :=
    eq_of_isSingle (by decide +kernel)
  refine ⟨replaces _ _ _ _ _ _ ruby python (by decide) fun name => ?_, by decide +kernel, ?_⟩
  · rw [Yaml.Value.at?_text, Yaml.Value.at?_text]
    by_cases h : Text.ofString "target" = name
    · subst h
      rfl
    · have hne : (name == Text.ofString "target") = false := by simpa using Ne.symm h
      simp [replacement?, Json.isNull, h, hne, List.lookup_cons]
  · rw [(tracks "/home" (targetTree "python") reloading).1]
    decide +kernel

end Settings

end LocaleGen
