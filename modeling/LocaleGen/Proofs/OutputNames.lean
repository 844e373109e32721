import LocaleGen.Proofs.Trigger
import Mathlib

/-!
# Names of outputs

A path that has been read is written as a text that is read as the same path (`Path.ofText_render`),
so paths are as different as their texts. The output of a pass stands beside its input, under a name
that hangs on the trigger and the target alone. So two passes have one output just if they have one
input, and no output is an input of a pass: `Settings.outputs_never_clash`.
-/

namespace LocaleGen

namespace Path

/-! ## Paths that have been read -/

def IsRead (p : Path) : Prop := ∀ name ∈ p.names, isName name = true ∧ separator ∉ name

theorem isRead_ofText (t : Text) : (ofText t).IsRead := by
  intro name hname
  obtain ⟨hpiece, hname⟩ := List.mem_filter.mp hname
  exact ⟨hname, Text.notMem_of_mem_splitOn hpiece⟩

variable {p q : Path} {name t : Text} {names : List Text}

theorem IsRead.parent (h : p.IsRead) : p.parent.IsRead :=
  fun name hname => h name (List.dropLast_subset _ hname)

theorem IsRead.child (h : p.IsRead) (hname : isName name = true) (hseparator : separator ∉ name) :
    (p.child name).IsRead :=
  List.forall_mem_append.mpr ⟨h, List.forall_mem_singleton.mpr ⟨hname, hseparator⟩⟩

theorem splitOn_join (hne : names ≠ []) (h : ∀ name ∈ names, separator ∉ name) :
    (Text.join "/" names).splitOn separator = names := by
  induction names with
  | nil => exact absurd rfl hne
  | cons first rest ih =>
    obtain ⟨hfirst, hrest⟩ := List.forall_mem_cons.mp h
    cases rest with
    | nil => exact Text.splitOn_of_notMem hfirst
    | cons second rest =>
      have hjoin : Text.join "/" (first :: second :: rest) =
          first ++ separator :: Text.join "/" (second :: rest) := by
        show first ++ Text.ofString "/" ++ Text.join "/" (second :: rest) = _
        rw [List.append_assoc]
        rfl
      rw [hjoin, Text.splitOn_append_cons, Text.splitOn_of_notMem hfirst]
      exact congrArg (first :: ·) (ih (List.cons_ne_nil _ _) hrest)

@[simp] theorem names_ofText_root (root : PathRoot) (t : Text) :
    (ofText (PathRoot.text root ++ t)).names = (ofText t).names := by
  have slash (t : Text) : (ofText (Text.ofString "/" ++ t)).names = (ofText t).names := by
    show (Text.splitOn ([] ++ separator :: t) separator).filter isName = _
    rw [Text.splitOn_append_cons, List.filter_append]
    rfl
  cases root with
  | relative => rfl
  | slash => exact slash t
  | doubleSlash => exact (slash (Text.ofString "/" ++ t)).trans (slash t)

theorem rootOf_root (root : PathRoot) (h : t.head? ≠ some separator) :
    rootOf (PathRoot.text root ++ t) = root := by
  have hnone : t.takeWhile (· = CodePoint.ofChar '/') = [] := by
    cases t with
    | nil => rfl
    | cons c t =>
      have hc : ¬ c = CodePoint.ofChar '/' := fun heq => h (by rw [heq]; rfl)
      rw [List.takeWhile_cons, if_neg (by simpa using hc)]
  have hcons (u : Text) : (separator :: u).takeWhile (· = CodePoint.ofChar '/') =
      separator :: u.takeWhile (· = CodePoint.ofChar '/') :=
    List.takeWhile_cons_of_pos (decide_eq_true rfl)
  cases root with
  | relative =>
    show rootOf t = _
    rw [rootOf, hnone]
    rfl
  | slash =>
    show rootOf (separator :: t) = _
    rw [rootOf, hcons, hnone]
    rfl
  | doubleSlash =>
    show rootOf (separator :: separator :: t) = _
    rw [rootOf, hcons, hcons, hnone]
    rfl

theorem head?_join (h : ∀ name ∈ names, isName name = true ∧ separator ∉ name) :
    (Text.join "/" names).head? ≠ some separator := by
  cases names with
  | nil => exact nofun
  | cons first rest =>
    obtain ⟨hname, hseparator⟩ := h first List.mem_cons_self
    cases first with
    | nil => cases hname
    | cons c first =>
      have hhead : (Text.join "/" ((c :: first) :: rest)).head? = some c := by cases rest <;> rfl
      rw [hhead]
      intro heq
      exact hseparator (Option.some.inj heq ▸ List.mem_cons_self)

theorem ofText_render (h : p.IsRead) : ofText p.render = p := by
  obtain ⟨root, names⟩ := p
  by_cases hempty : root = .relative ∧ names = []
  · obtain ⟨rfl, rfl⟩ := hempty
    rfl
  · have hrender : render ⟨root, names⟩ = PathRoot.text root ++ Text.join "/" names := if_neg hempty
    have hroot : rootOf (PathRoot.text root ++ Text.join "/" names) = root :=
      rootOf_root root (head?_join h)
    have hnames : (ofText (Text.join "/" names)).names = names := by
      by_cases hne : names = []
      · rw [hne]
        rfl
      · show (Text.splitOn (Text.join "/" names) separator).filter isName = names
        rw [splitOn_join hne fun name hname => (h name hname).2]
        exact List.filter_eq_self.mpr fun name hname => (h name hname).1
    rw [hrender]
    show Path.mk (rootOf _) (ofText _).names = ⟨root, names⟩
    rw [hroot, names_ofText_root, hnames]

theorem render_inj (hp : p.IsRead) (hq : q.IsRead) : p.render = q.render ↔ p = q := by
  refine ⟨fun h => ?_, congrArg render⟩
  rw [← ofText_render hp, ← ofText_render hq, h]

@[simp] theorem name_child (p : Path) (name : Text) : (p.child name).name = name := by
  show ((p.names ++ [name]).getLast?).getD [] = name
  rw [List.getLast?_concat, Option.getD_some]

theorem ne_nil_of_isName (h : isName name = true) : name ≠ [] := by
  rintro rfl
  cases h

theorem eq_of_parent (hparent : p.parent = q.parent) (hname : p.name = q.name)
    (hne : p.name ≠ []) : p = q :=
  calc p = p.parent.child p.name := (child_parent hne).symm
    _ = q.parent.child q.name := by rw [hparent, hname]
    _ = q := child_parent (hname ▸ hne)

/-! ## Names with another end -/

theorem subset_stem (name : Text) : stem name ⊆ name := by
  unfold stem
  dsimp only
  split_ifs
  · exact List.Subset.refl name
  · exact List.take_subset _ name

def outputName (target : Target) (trigger : Text) : Text := stem trigger ++ target.extension

@[simp] theorem isName_outputName (target : Target) (trigger : Text) :
    isName (outputName target trigger) = true := by
  have hlength : 2 ≤ (outputName target trigger).length := by
    rw [outputName, List.length_append]
    cases target <;> exact Nat.le_add_left_of_le (by decide)
  have hnonempty : outputName target trigger ≠ [] := fun h => by simp [h] at hlength
  have hpoint : outputName target trigger ≠ Text.ofString "." := fun h => by
    simp [h, Text.ofString] at hlength
  simp [isName, hnonempty, hpoint]

theorem separator_notMem_outputName {trigger : Text} (h : separator ∉ trigger) (target : Target) :
    separator ∉ outputName target trigger := by
  rw [outputName, List.mem_append, not_or]
  refine ⟨fun hmem => h (subset_stem trigger hmem), ?_⟩
  cases target <;> decide

end Path

/-! ## Outputs of passes -/

namespace Job

variable {job : Job}

theorem name_of_isTriggered (h : job.isTriggered = true) :
    (Path.ofText job.inputId).name = job.settings.trigger :=
  of_decide_eq_true h

theorem output_eq (h : job.isTriggered = true) :
    job.output = (Path.ofText job.inputId).parent.child
      (Path.outputName job.settings.target job.settings.trigger) := by
  rw [output, Path.replaceExtension, name_of_isTriggered h]
  rfl

theorem isRead_output (h : job.isTriggered = true) : job.output.IsRead := by
  rw [output_eq h]
  refine (Path.isRead_ofText job.inputId).parent.child (Path.isName_outputName _ _)
    (Path.separator_notMem_outputName ?_ _)
  rw [← name_of_isTriggered h]
  exact Path.separator_notMem_name job.inputId

theorem ofText_outputId (h : job.isTriggered = true) : Path.ofText job.outputId = job.output :=
  Path.ofText_render (isRead_output h)

end Job

namespace Settings

variable {given : List (Text × Json)} {s : Settings}

/-- The name of an output ends as the target says, and a trigger does not. -/
theorem outputName_ne_trigger (h : decode given = .ok s) :
    Path.outputName s.target s.trigger ≠ s.trigger := by
  obtain ⟨c, hextension, -, -, hc⟩ := s.target.getLast?_extension
  obtain ⟨front, htrigger⟩ := isSuffix_of_decode h
  have hend : s.trigger.getLast? = some (CodePoint.ofChar 'n') := by
    rw [← htrigger, List.getLast?_append]
    rfl
  intro heq
  rw [← heq, Path.outputName, List.getLast?_append, hextension, Option.some_or] at hend
  exact hc (Option.some.inj hend)

/-- With accepted settings, the passes whose inputs the trigger names have outputs, each beside its
input and under one name, which ends as the target says. No output is what the trigger names, so
none is an input of a pass, and two passes have one output just if they have one input. -/
theorem outputs_never_clash (h : decode given = .ok s) {a b : Job} (ha : a.settings = s)
    (hb : b.settings = s) (triggered : a.isTriggered = true) (triggered' : b.isTriggered = true) :
    (Path.ofText a.inputId).withExtension s.target.extension = .ok a.output ∧
    (Path.ofText a.outputId).parent = (Path.ofText a.inputId).parent ∧
    (Path.ofText a.outputId).name = Path.outputName s.target s.trigger ∧
    s.target.extension <:+ Path.outputName s.target s.trigger ∧
    ({ a with inputId := a.outputId } : Job).isTriggered = false ∧
    Path.ofText a.outputId ≠ Path.ofText b.inputId ∧
    (a.outputId = b.outputId ↔ Path.ofText a.inputId = Path.ofText b.inputId) := by
  subst ha
  have hname := Job.name_of_isTriggered triggered
  have hname' := (Job.name_of_isTriggered triggered').trans (congrArg Settings.trigger hb)
  have hread := Job.ofText_outputId triggered
  have hnamed : (Path.ofText a.outputId).name =
      Path.outputName a.settings.target a.settings.trigger := by
    rw [hread, Job.output_eq triggered, Path.name_child]
  have hother := outputName_ne_trigger h
  have hnonempty : (Path.ofText a.inputId).name ≠ [] :=
    hname ▸ Path.ne_nil_of_isName (isName_trigger h)
  refine ⟨if_neg hnonempty, ?_, hnamed, List.suffix_append _ _, ?_, ?_, ?_⟩
  · rw [hread, Job.output_eq triggered, Path.parent_child]
  · exact decide_eq_false fun heq => hother (hnamed.symm.trans heq)
  · intro heq
    rw [heq, hname'] at hnamed
    exact hother hnamed.symm
  · have houtput' := Job.output_eq triggered'
    rw [hb] at houtput'
    rw [Job.outputId, Job.outputId, Path.render_inj (Job.isRead_output triggered)
      (Job.isRead_output triggered'),
      Job.output_eq triggered, houtput']
    refine ⟨fun heq => ?_, fun heq => by rw [heq]⟩
    have hparent : (Path.ofText a.inputId).parent = (Path.ofText b.inputId).parent := by
      rw [← Path.parent_child (Path.ofText a.inputId).parent, heq, Path.parent_child]
    exact Path.eq_of_parent hparent (hname.trans hname'.symm) hnonempty

/-- A trigger that is nothing but an extension, in directories that are written in two ways. -/
theorem outputs_never_clash_hidden : ∃ s, decode (triggerMembers ".json") = .ok s ∧
    (passOver "/lib//./.json" s).isTriggered = true ∧
    (passOver "/lib/.json/" s).isTriggered = true ∧
    (passOver "/lib//./.json" s).outputId = (passOver "/lib/.json/" s).outputId ∧
    (Path.ofText (passOver "/lib//./.json" s).outputId).name = ".json.dart" := by
  have hdecode : decode (triggerMembers ".json") =
    .ok { Settings.default with trigger := ".json" } := by decide +kernel
  refine ⟨_, hdecode, by decide, by decide, ?_⟩
  obtain ⟨-, -, hname, -, -, -, hiff⟩ := outputs_never_clash hdecode
    (a := passOver "/lib//./.json" { Settings.default with trigger := ".json" })
    (b := passOver "/lib/.json/" { Settings.default with trigger := ".json" }) rfl rfl
      (by decide) (by decide)
  exact ⟨hiff.mpr (by decide), hname⟩

end Settings

end LocaleGen
