import LocaleGen.CommandLine.Run
import LocaleGen.Proofs.FileFrame
import LocaleGen.Proofs.SettingsDecoding
import Mathlib

/-!
# Places of a build

The input of a pass is named as the trigger says, a JSON file (`Settings.isSuffix_of_load`), its
output has the extension of the target, and the build log has one of its own. So these files are
never mixed up, however the paths to them are written, and passes with one output have one input
(`CommandLine.place_of_output`).
-/

namespace LocaleGen

/-! ## Settings that are loaded -/

namespace Settings

theorem isSuffix_of_checkTrigger {t trigger : Text} (h : checkTrigger t = .ok trigger) :
    jsonExtension <:+ trigger := by
  unfold checkTrigger at h
  split_ifs at h with hblank hsuffix
  cases h
  simpa using hsuffix

theorem isSuffix_of_decode {members : List (Text × Json)} {s : Settings}
    (h : decode members = .ok s) : jsonExtension <:+ s.trigger := by
  obtain ⟨-, htrigger, -⟩ := decode_eq_ok.mp h
  refine Decoding.of_optional (P := fun trigger => jsonExtension <:+ trigger) htrigger (by decide)
    fun v hv => ?_
  obtain ⟨t, -, ht⟩ := checkedText_eq_ok.mp (Decoding.scalar_eq_ok.mp hv)
  exact isSuffix_of_checkTrigger ht

theorem isSuffix_of_load [NestingLimits] {tree : FileTree} {source : SettingsSource}
    {overrides : List (Text × Json)} {s : Settings} (h : load tree source overrides = .ok s) :
    jsonExtension <:+ s.trigger := by
  obtain ⟨-, -, h⟩ := bind_eq_ok.mp h
  obtain ⟨members, -, h⟩ := bind_eq_ok.mp h
  split at h
  · next hdecode =>
    cases h
    exact isSuffix_of_decode hdecode
  · cases h
    decide
  · split at h <;> cases h

end Settings

/-! ## Places of inputs, outputs and the build log -/

namespace Path

theorem child_parent {p : Path} (h : p.name ≠ []) : p.parent.child p.name = p := by
  cases hlast : p.names.getLast? with
  | none => simp [name, hlast] at h
  | some last =>
    have hname : p.name = last := by simp [name, hlast]
    rw [hname, parent, child, List.dropLast_append_getLast? last hlast]

def lastCharacter? (names : List Text) : Option CodePoint := names.getLast?.bind List.getLast?

theorem append_ne_up {ending : Text} {c : CodePoint} (hlast : ending.getLast? = some c)
    (hc : c ≠ CodePoint.ofChar '.') (front : Text) : front ++ ending ≠ FileTree.up := by
  intro heq
  have hup : (front ++ ending).getLast? = some c := by
    rw [List.getLast?_append, hlast, Option.some_or]
  rw [heq] at hup
  exact hc (Option.some.inj hup).symm

theorem place_child_append {ending : Text} {c : CodePoint} (hlast : ending.getLast? = some c)
    (hc : c ≠ CodePoint.ofChar '.') (parent : Path) (front : Text) (here : List Text) :
    (parent.child (front ++ ending)).place here = parent.place here ++ [front ++ ending] := by
  rw [place_child, FileTree.next_of_ne (append_ne_up hlast hc front)]

theorem lastCharacter?_place {ending : Text} {c : CodePoint} (hlast : ending.getLast? = some c)
    (hc : c ≠ CodePoint.ofChar '.') (parent : Path) (front : Text) (here : List Text) :
    lastCharacter? ((parent.child (front ++ ending)).place here) = some c := by
  rw [place_child_append hlast hc, lastCharacter?, List.getLast?_concat, Option.bind_some,
    List.getLast?_append, hlast,
    Option.some_or]

end Path

theorem Target.getLast?_extension (target : Target) :
    ∃ c, target.extension.getLast? = some c ∧
      c ≠ CodePoint.ofChar '.' ∧ c ≠ CodePoint.ofChar 'l' ∧ c ≠ CodePoint.ofChar 'n' := by
  cases target with
  | dart => exact ⟨CodePoint.ofChar 't', by decide⟩
  | python => exact ⟨CodePoint.ofChar 'y', by decide⟩

namespace CommandLine

def logPlaces (around : Surroundings) (here : List Text) (settings : Settings) : Set (List Text) :=
  {place | ∃ log ∈ logOf? settings, (log.file LogEntry.builds around.clock.today).place here = place}

section Places

variable {around : Surroundings} {settings : Settings} {input input' : Text}
    {here place : List Text}

theorem lastCharacter?_of_logPlaces (h : place ∈ logPlaces around here settings) :
    Path.lastCharacter? place = some (CodePoint.ofChar 'l') := by
  obtain ⟨log, -, rfl⟩ := h
  exact Path.lastCharacter?_place rfl (by decide) _ _ here

theorem lastCharacter?_output (around : Surroundings) (settings : Settings) (input : Text)
    (here : List Text) :
    ∃ c, Path.lastCharacter? ((jobFor around settings input).output.place here) = some c ∧
      c ≠ CodePoint.ofChar 'l' ∧ c ≠ CodePoint.ofChar 'n' := by
  obtain ⟨c, hlast, hpoint, hother⟩ := settings.target.getLast?_extension
  exact ⟨c, Path.lastCharacter?_place hlast hpoint _ _ here, hother⟩

theorem output_notMem_logPlaces :
    (jobFor around settings input).output.place here ∉ logPlaces around here settings := by
  intro hlog
  obtain ⟨c, houtput, hl, -⟩ := lastCharacter?_output around settings input here
  exact hl (Option.some.inj (houtput.symm.trans (lastCharacter?_of_logPlaces hlog)))

variable (triggered : (jobFor around settings input).isTriggered = true)
    (json : Settings.jsonExtension <:+ settings.trigger)

include triggered json

/-- An input that triggers a pass is a file below the directory that it is in. -/
theorem eq_child_of_triggered :
    (Path.ofText input).parent.child settings.trigger = Path.ofText input := by
  have hname : (Path.ofText input).name = settings.trigger := of_decide_eq_true triggered
  obtain ⟨stem, hstem⟩ := json
  have hsome : (Path.ofText input).name ≠ [] := by
    rw [hname, ← hstem]
    exact List.append_ne_nil_of_right_ne_nil _ (by decide)
  rw [← hname, Path.child_parent hsome]

theorem lastCharacter?_input (here : List Text) :
    Path.lastCharacter? ((Path.ofText input).place here) = some (CodePoint.ofChar 'n') := by
  rw [← eq_child_of_triggered triggered json]
  obtain ⟨stem, hstem⟩ := json
  rw [← hstem]
  exact Path.lastCharacter?_place rfl (by decide) _ _ here

/-- Two inputs with one output are one file. -/
theorem place_of_output (triggered' : (jobFor around settings input').isTriggered = true)
    (h : (jobFor around settings input).output.place here =
      (jobFor around settings input').output.place here) :
    (Path.ofText input).place here = (Path.ofText input').place here := by
  obtain ⟨c, hlast, hpoint, -⟩ := settings.target.getLast?_extension
  have split (input : Text) : (jobFor around settings input).output.place here =
      (Path.ofText input).parent.place here ++
        [Path.stem (Path.ofText input).name ++ settings.target.extension] :=
    Path.place_child_append hlast hpoint _ _ here
  rw [split, split] at h
  have same : (Path.ofText input).parent.place here = (Path.ofText input').parent.place here :=
    (List.append_inj' h rfl).1
  rw [← eq_child_of_triggered triggered json, ← eq_child_of_triggered triggered' json,
    Path.place_child, Path.place_child,
    same]

end Places

end CommandLine
end LocaleGen
