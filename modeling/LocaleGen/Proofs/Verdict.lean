import LocaleGen.Pass.Verdict
import LocaleGen.Proofs.Fetching
import Mathlib

/-!
# Verdicts

In every world and every order of arrival a pass ends, and it ends as its verdict says:
`pass_ends_with_verdict`. The proof follows the states of the pass, of which `Standing` says what
has been asked for and what is to arrive, up to the fetching of the payloads, where the phase takes
over.
-/

namespace LocaleGen

/-! ## Reports of failed stages

Filling in the context of a failure changes no value that is there, unless it is null
(`get?_addContext`). So the report of a fault keeps what a failure of the generator's own says:
`reported_report`. -/

namespace Failure

theorem get?_addContext (context : Dict Text Json) (key name : Text) (v : Json) :
    (addContext context (key, v)).get? name =
      if name = key then some ((valueIn context key).orElse v) else context.get? name := by
  by_cases hnull : (valueIn context key).isNull
  · simp [addContext, hnull, Json.orElse]
  · simp only [addContext, hnull, Json.orElse, Bool.false_eq_true, if_false]
    split
    · next h =>
      -- a key that is not there has the value null
      subst h
      cases h : context.get? name with
      | some found => simp [valueIn, h]
      | none => simp [valueIn, h, Json.isNull] at hnull
    · rfl

def placeOf (job : Job) (stage : Stage) : List (Text × Json) :=
  [(assetName, .text job.inputId), (stageName, .text stage.name)]

theorem assetName_ne_stageName : assetName ≠ stageName := by decide

theorem get?_withContext_placeOf (f : Failure) (job : Job) (stage : Stage) (name : Text) :
    (f.withContext (placeOf job stage)).context.get? name =
      if name = stageName then some (f.stage.orElse (.text stage.name))
      else if name = assetName then some (f.asset.orElse (.text job.inputId))
      else f.context.get? name := by
  have entries : (Dict.ofList (placeOf job stage)).entries = placeOf job stage := rfl
  have kept : valueIn (addContext f.context (assetName, .text job.inputId)) stageName =
      f.stage := by
    simp [valueIn, get?_addContext, Failure.stage, assetName_ne_stageName.symm]
  rw [withContext, entries]
  simp only [placeOf, List.foldl_cons, List.foldl_nil, get?_addContext, kept]
  rfl

end Failure

namespace Job

theorem report_eq (job : Job) (stage : Stage) (f : Fault) :
    job.report stage f =
      ((f.failure? job.time).map fun own => own.withContext (Failure.placeOf job stage)).getD
        ((Cause.unexpected f.name f.message).failure job.time (Failure.placeOf job stage)) := by
  cases f <;> rfl

/-- The report of a fault says what it should. -/
theorem reported_report (job : Job) (stage : Stage) (f : Fault) :
    Reported job stage f (job.report stage f) := by
  rw [report_eq]
  constructor
  · intro own howned
    rw [howned]
    refine ⟨rfl, rfl, rfl, rfl, ?_, ?_, ?_⟩
    · simp [Failure.asset, Failure.valueIn, Failure.get?_withContext_placeOf,
        Failure.assetName_ne_stageName]
    · simp [Failure.stage, Failure.valueIn, Failure.get?_withContext_placeOf]
    · intro name hasset hstage
      simp [Failure.get?_withContext_placeOf, hasset, hstage]
  · intro hforeign
    rw [hforeign]
    refine ⟨rfl, rfl, rfl, rfl, ?_⟩
    intro name hasset hstage
    show ((Dict.empty.insert Failure.assetName (Json.text job.inputId)).insert Failure.stageName
      (Json.text stage.name)).get? name = none
    simp only [Dict.get?_insert, if_neg hstage, if_neg hasset]
    rfl

end Job

variable [NestingLimits]

/-! ## Standings -/

/-- Where a pass may stand, with what it has asked for and what is to arrive. -/
inductive Standing (w : World) (job : Job) : Course → Prop
  | reading {inbox : List Signal} {history : List Event} :
      job.isTriggered = true → inbox = [.content w.content] → Trail [.read] [] history →
      Standing w job ⟨.reading, inbox, history⟩
  | connecting {c : Credentials} {inbox : List Signal} {history : List Event} :
      job.isTriggered = true → w.credentials = .ok c → inbox = [.connected (w.connected c)] →
      Trail [.read, .connect c] [] history →
      Standing w job ⟨.connecting c, inbox, history⟩
  | resolving {c : Credentials} {inbox : List Signal} {history : List Event} :
      job.isTriggered = true → w.credentials = .ok c → w.connected c = .ok () →
        inbox = [.index (w.index c)] →
      Trail [.read, .connect c, .requestIndex c] [] history →
      Standing w job ⟨.resolving c, inbox, history⟩
  | fetchingDefault {c : Credentials} {languages : List IndexEntry} {place : Nat} {e : IndexEntry}
      {inbox : List Signal} {history : List Event} :
      job.isTriggered = true → w.credentials = .ok c → w.connected c = .ok () →
        w.index c = .ok languages →
      IndexEntry.findDefault languages = .ok (place, e) →
        inbox = [.payload place (w.payload c place e)] →
      Trail [.read, .connect c, .requestIndex c, .requestPayload c place e] [place] history →
      Standing w job ⟨.fetchingDefault c languages place, inbox, history⟩
  | bundling {b : Bundling} {e : IndexEntry} {c : Course} :
      job.isTriggered = true → w.Opens b e → Phase w job b (b.opening e) c → Standing w job c
  | finished {effects : List Effect} {o : Outcome} {inbox : List Signal} {history : List Event} :
      Verdict job w effects o → inbox = [] → Trail effects [] history →
        Standing w job ⟨.finished o, inbox, history⟩

namespace Standing

variable {w : World} {job : Job}

/-! ## Steps -/

theorem begin : Standing w job (Course.start w job) := by
  unfold Course.start Job.begin
  split
  · next triggered =>
    refine .reading triggered rfl ?_
    have asked := Trail.nil.asked job.begin.2 (by simp [Job.begin, triggered])
    simpa [Job.begin, triggered, Course.effectsOf, Effect.begun?, List.filterMap_cons] using asked
  · next idle =>
    have idle : job.isTriggered = false := by simpa using idle
    refine .finished (.skipped idle) (by simp [World.reply]) ?_
    have asked := Trail.nil.asked job.begin.2 (by simp [Job.begin, idle])
    simpa [Job.begin, idle, Course.effectsOf, Effect.begun?, List.filterMap_cons] using asked

variable {c : Credentials} {history : List Event}

theorem fail {effects : List Effect} {stage : Stage} {f : Fault}
    (verdict : Verdict job w effects (.failed stage (job.report stage f)))
    (t : Trail effects [] history) :
    Standing w job (Course.moved w [] history (job.fail stage f)) :=
  .finished verdict (by simp [Job.fail, World.reply]) (t.fail job stage f)

theorem failConnected {effects : List Effect} {stage : Stage} {f : Fault}
    (verdict : Verdict job w (effects ++ [.disconnect]) (.failed stage (job.report stage f)))
    (t : Trail effects [] history) :
    Standing w job (Course.moved w [] history (job.failConnected stage f)) := by
  rw [Course.moved_failConnected]
  exact .finished verdict rfl (t.failConnected job stage f)

theorem content (triggered : job.isTriggered = true) (t : Trail [.read] [] history) :
    Standing w job (Course.moved w [] (history ++ [.told (.content w.content)])
      (job.step .reading (.content w.content))) := by
  have told := t.told_other (rfl : (Signal.content w.content).ended? = none)
  simp only [Job.step]
  split
  · next f failed => exact fail (.parseConfig triggered failed) told
  · next c credentials =>
    refine .connecting triggered credentials (by simp [World.reply]) ?_
    simpa [Course.effectsOf, Effect.begun?, List.filterMap_cons]
      using told.asked [.connect c] (by simp)

theorem connected (triggered : job.isTriggered = true) (credentials : w.credentials = .ok c)
    (t : Trail [.read, .connect c] [] history) :
    Standing w job (Course.moved w [] (history ++ [.told (.connected (w.connected c))])
      (job.step (.connecting c) (.connected (w.connected c)))) := by
  have told := t.told_other (rfl : (Signal.connected (w.connected c)).ended? = none)
  simp only [Job.step]
  split
  · next f failed => exact fail (.connect triggered credentials failed) told
  · next connected =>
    refine .resolving triggered credentials connected (by simp [World.reply]) ?_
    simpa [Course.effectsOf, Effect.begun?, List.filterMap_cons]
      using told.asked [.requestIndex c] (by simp)

theorem index (triggered : job.isTriggered = true) (credentials : w.credentials = .ok c)
    (connected : w.connected c = .ok ())
    (t : Trail [.read, .connect c, .requestIndex c] [] history) :
    Standing w job (Course.moved w [] (history ++ [.told (.index (w.index c))])
      (job.step (.resolving c) (.index (w.index c)))) := by
  have told := t.told_other (rfl : (Signal.index (w.index c)).ended? = none)
  simp only [Job.step, Job.resolve]
  split
  · next f failed =>
    exact failConnected (.index triggered credentials connected failed) told
  · next languages listed =>
    split
    · next cause failed =>
      exact failConnected (.noDefault triggered credentials connected listed failed) told
    · next place e found =>
      refine .fetchingDefault triggered credentials connected listed found
        (by simp [World.reply]) ?_
      simpa [Course.effectsOf, Effect.begun?, List.filterMap_cons] using
        told.asked [.requestPayload c place e] (by simp)

theorem payload {languages : List IndexEntry} {place : Nat} {e : IndexEntry}
    (triggered : job.isTriggered = true) (credentials : w.credentials = .ok c)
    (connected : w.connected c = .ok ()) (listed : w.index c = .ok languages)
    (found : IndexEntry.findDefault languages = .ok (place, e))
    (t : Trail [.read, .connect c, .requestIndex c, .requestPayload c place e] [place] history) :
    Standing w job (Course.moved w [] (history ++ [.told (.payload place (w.payload c place e))])
      (job.step (.fetchingDefault c languages place) (.payload place (w.payload c place e)))) := by
  have told := t.told_end (rfl : (Signal.payload place (w.payload c place e)).ended? = some place)
  rw [List.erase_cons_head] at told
  have failed {f : Fault} (h : (w.payload c place e).bind Document.ofContent = .error f) :
      Standing w job (Course.moved w [] (history ++ [.told (.payload place (w.payload c place e))])
        (job.failConnected .fetchDefault f)) :=
    failConnected (.fetchDefault triggered credentials connected listed found h) told
  simp only [Job.step, if_true, Job.decodeDefault]
  split
  · next f hpayload => exact failed (by rw [hpayload]; rfl)
  · next content hpayload =>
    split
    · next f hdocument => exact failed (by rw [hpayload]; exact hdocument)
    · next document hdocument =>
      exact .bundling triggered ⟨credentials, connected, listed, found, hpayload,
        hdocument⟩ (.start told)

/-- Every step of a pass leads to where a pass may stand. -/
theorem step {before after : Course} (h : Standing w job before)
    (s : Course.Step w job before after) : Standing w job after := by
  cases h with
  | reading triggered only t =>
    subst only
    rw [s.of_single]
    exact content triggered t
  | connecting triggered credentials only t =>
    subst only
    rw [s.of_single]
    exact connected triggered credentials t
  | resolving triggered credentials connected only t =>
    subst only
    rw [s.of_single]
    exact index triggered credentials connected t
  | fetchingDefault triggered credentials connected listed found only t =>
    subst only
    rw [s.of_single]
    exact payload triggered credentials connected listed found t
  | bundling triggered opens phase => exact .bundling triggered opens (phase.step s)
  | finished verdict only t =>
    -- nothing is left to be answered
    subst only
    generalize hc : (⟨_, [], _⟩ : Course) = c at s
    cases s with
    | answer => simp at hc

/-! ## Runs -/

variable {c : Course}

theorem of_reaches (h : Course.Reaches w job (Course.start w job) c) : Standing w job c :=
  h.invariant step begin

theorem ends_or_steps (h : Standing w job c) :
    (∃ o, c.state = .finished o) ∨ ∃ next, Course.Step w job c next := by
  cases h with
  | reading _ only | connecting _ _ only | resolving _ _ _ only | fetchingDefault _ _ _ _ _ only =>
    exact .inr (Course.exists_step (by simp [only]))
  | bundling _ _ phase => exact phase.ends_or_steps
  | finished => exact .inl ⟨_, rfl⟩

theorem drained (h : Standing w job c) : Course.Drained c.history := by
  cases h with
  | reading _ _ t | connecting _ _ _ t | resolving _ _ _ _ t
  | fetchingDefault _ _ _ _ _ _ t | finished _ _ t =>
    exact t.drained
  | bundling _ _ phase => exact phase.drained

theorem verdict (h : Standing w job c) {o : Outcome} (hend : c.state = .finished o) :
    Verdict job w c.effects o := by
  cases h with
  | reading => cases hend
  | connecting => cases hend
  | resolving => cases hend
  | fetchingDefault => cases hend
  | bundling triggered opens phase =>
    obtain ⟨effects, conclusion, heffects⟩ := phase.conclusion hend
    rw [heffects]
    exact .bundle triggered opens conclusion
  | finished verdict _ t =>
    cases hend
    rwa [Course.effects, t.effects]

end Standing

/-! ## Verdicts -/

namespace Verdict

variable {w : World} {job : Job} {effects : List Effect} {o : Outcome}

theorem skipped_iff (h : Verdict job w effects o) : o = .skipped ↔ job.isTriggered = false := by
  cases h with
  | skipped idle => simp [idle]
  | bundle triggered _ conclusion => cases conclusion <;> simp [triggered]
  | parseConfig triggered | connect triggered | index triggered | noDefault triggered
  | fetchDefault triggered =>
    simp [triggered]

theorem outputs (h : Verdict job w effects o) :
    (∀ stage r, o = .failed stage r → effects.filterMap w.output? = []) ∧
      (o = .completed → ∃ b e text, w.Opens b e ∧ w.Delivers b ∧
        Artifact.generate job.settings.target (w.inputs b) = .ok text ∧
        effects.filterMap w.output? = [(job.outputId, text)]) := by
  cases h with
  | @bundle b e effects o triggered opens conclusion =>
    have opening : (b.opening e).filterMap w.output? = [] := rfl
    rw [List.filterMap_append, opening, List.nil_append]
    refine ⟨conclusion.outputs.1, fun completed => ?_⟩
    obtain ⟨delivers, text, generated, written⟩ := conclusion.outputs.2 completed
    exact ⟨b, e, text, opens, delivers, generated, written⟩
  | skipped => exact ⟨fun _ _ eq => (by cases eq), fun eq => (by cases eq)⟩
  | parseConfig | connect | index | noDefault | fetchDefault =>
    exact ⟨fun _ _ _ => rfl, fun eq => by cases eq⟩

end Verdict

/-- What the stages before the fetching of the payloads come to. -/
def World.opened (w : World) (job : Job) : Except Outcome Bundling :=
  if job.isTriggered = false then .error .skipped
  else
    match w.credentials with
    | .error f => .error (.failed .parseConfig (job.report .parseConfig f))
    | .ok c =>
      match w.connected c with
      | .error f => .error (.failed .resolve (job.report .resolve f))
      | .ok () =>
        match w.index c with
        | .error f => .error (.failed .resolve (job.report .resolve f))
        | .ok languages =>
          match IndexEntry.findDefault languages with
          | .error cause => .error (.failed .resolve (job.report .resolve (.cause cause)))
          | .ok (place, e) =>
            match w.payload c place e with
            | .error f => .error (.failed .fetchDefault (job.report .fetchDefault f))
            | .ok content =>
              match Document.ofContent content with
              | .error f => .error (.failed .fetchDefault (job.report .fetchDefault f))
              | .ok document => .ok ⟨c, languages, place, content, document⟩

namespace Verdict

variable {w : World} {job : Job} {effects effects' : List Effect} {o o' : Outcome}

/-- A pass ends before the payloads are fetched, or with the conclusion of fetching them. -/
theorem of_opened (h : Verdict job w effects o) :
    w.opened job = .error o ∧ effects.filterMap w.output? = [] ∨
      ∃ b e rest, w.opened job = .ok b ∧ w.Opens b e ∧ Conclusion job w b rest o ∧
        effects.filterMap w.output? = rest.filterMap w.output? := by
  cases h with
  | skipped idle => exact .inl ⟨by simp [World.opened, idle], rfl⟩
  | parseConfig triggered failed => exact .inl ⟨by simp [World.opened, triggered, failed], rfl⟩
  | connect triggered credentials failed =>
    exact .inl ⟨by simp [World.opened, triggered, credentials, failed], rfl⟩
  | index triggered credentials connected failed =>
    exact .inl ⟨by simp [World.opened, triggered, credentials, connected, failed], rfl⟩
  | noDefault triggered credentials connected listed failed =>
    exact .inl ⟨by simp [World.opened, triggered, credentials, connected, listed, failed], rfl⟩
  | @fetchDefault c languages place e f triggered credentials connected listed found failed =>
    refine .inl ⟨?_, rfl⟩
    cases hpayload : w.payload c place e with
    | error f =>
      rw [hpayload] at failed
      cases failed
      simp [World.opened, triggered, credentials, connected, listed, found, hpayload]
    | ok content =>
      rw [hpayload] at failed
      have hdocument : Document.ofContent content = .error f := failed
      simp [World.opened, triggered, credentials, connected, listed, found, hpayload, hdocument]
  | @bundle b e rest o triggered opens conclusion =>
    refine .inr ⟨b, e, rest, ?_, opens, conclusion, ?_⟩
    · simp [World.opened, triggered, opens.credentials, opens.connected, opens.languages,
        opens.default, opens.payload,
        opens.document]
    · have opening : (b.opening e).filterMap w.output? = [] := rfl
      rw [List.filterMap_append, opening, List.nil_append]

/-- A pass whose input cannot be read, or gives no credentials, has failed with the report of it. -/
theorem of_credentials_error (h : Verdict job w effects o)
    (triggered : job.isTriggered = true) {f : Fault} (failed : w.credentials = .error f) :
    o = .failed .parseConfig (job.report .parseConfig f) := by
  have hopened : w.opened job = .error (.failed .parseConfig (job.report .parseConfig f)) := by
    simp [World.opened, triggered, failed]
  rcases h.of_opened with ⟨opened, -⟩ | ⟨_, _, _, opened, -⟩
  · exact Except.error.inj (opened.symm.trans hopened)
  · cases opened.symm.trans hopened

theorem determined (h : Verdict job w effects o) (h' : Verdict job w effects' o')
    (alone : w.Determines job) :
    o = o' ∧ effects.filterMap w.output? = effects'.filterMap w.output? := by
  rcases h.of_opened with ⟨opened, none⟩ | ⟨b, e, rest, opened, opens, conclusion, written⟩ <;>
    rcases h'.of_opened with ⟨opened', none'⟩ | ⟨b', e', rest', opened', opens',
      conclusion', written'⟩
  · cases opened.symm.trans opened'
    exact ⟨rfl, none.trans none'.symm⟩
  · cases opened.symm.trans opened'
  · cases opened.symm.trans opened'
  · cases opened.symm.trans opened'
    rw [written, written']
    exact conclusion.determined conclusion' (alone.imp_right fun few => few b e opens)

end Verdict

/-- A pass ends in every world, whichever order it is told things in, and it ends as its verdict
says. -/
theorem pass_ends_with_verdict (w : World) (job : Job) :
    (WellFounded fun next c => Course.Step w job c next) ∧
    (∀ stage f, Reported job stage f (job.report stage f)) ∧
    ∀ c, Course.Reaches w job (Course.start w job) c →
      ((∃ o, c.state = .finished o) ∨ ∃ next, Course.Step w job c next) ∧
      Course.Drained c.history ∧
      ∀ o, c.state = .finished o →
        Verdict job w c.effects o ∧
        (o = .skipped ↔ (Path.ofText job.inputId).name ≠ job.settings.trigger) ∧
        (∀ stage r, o = .failed stage r → c.outputs w = []) ∧
        (o = .completed → ∃ b e text, w.Opens b e ∧ w.Delivers b ∧
          Artifact.generate job.settings.target (w.inputs b) = .ok text ∧
          c.outputs w = [(job.outputId, text)]) := by
  refine ⟨Course.wellFounded_step w job, job.reported_report, fun c h => ?_⟩
  have standing := Standing.of_reaches h
  refine ⟨standing.ends_or_steps, standing.drained, fun o hend => ?_⟩
  have verdict := standing.verdict hend
  refine ⟨verdict, ?_, verdict.outputs⟩
  rw [verdict.skipped_iff]
  simp [Job.isTriggered]

end LocaleGen
