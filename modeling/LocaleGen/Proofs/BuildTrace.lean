import LocaleGen.Proofs.BuildCommand
import LocaleGen.Proofs.Chronicle
import LocaleGen.Proofs.LogLine
import Mathlib

/-!
# The build log is a faithful trace

`Host.KeepsLog` says of what is done in a run that the entries get into the files of a build log and
that nothing else touches these. Then the files grow by the entries of the run, each of them one
line, and the entries tell of every pass what came of it: `build_log_is_faithful`. The passes of a
command keep the log as long as it can be written (`CommandLine.keepsLog_of_reaches`), because no
output is a file of the log.
-/

namespace LocaleGen

open FileTree (Spares grown grown_append)

section Runs

variable {σ : Type} {host : Host σ} {files : σ → FileTree} {here : List Text}
    {log : BuildLog} {day : σ → Date}

/-! ## Entries in files -/

def Deed.entriesAt (here : List Text) (log : BuildLog) (day : σ → Date) (place : List Text)
    (history : List (Deed σ)) : List LogEntry :=
  history.filterMap fun d =>
    d.effect.entry?.filter fun entry => (log.file entry.category (day d.before)).place here = place

theorem Deed.entriesAt_append (place : List Text) (history later : List (Deed σ)) :
    entriesAt here log day place (history ++ later) =
      entriesAt here log day place history ++ entriesAt here log day place later :=
  List.filterMap_append

theorem Deed.entriesAt_singleton (place : List Text) (d : Deed σ) :
    entriesAt here log day place [d] =
      (d.effect.entry?.filter fun entry => (log.file entry.category (day d.before)).place here =
        place).toList := by
  rw [entriesAt, List.filterMap_cons]
  cases Option.filter _ _ <;> rfl

variable [NestingLimits]

/-- By these deeds every entry gets into the file of its day and none is refused, nothing else is
done to the files of the build log, and the working directory is always `here`. -/
structure Host.KeepsLog (host : Host σ) (files : σ → FileTree) (here : List Text)
    (log : BuildLog) (day : σ → Date)
    (history : List (Deed σ)) : Prop where
  stays : ∀ d ∈ history, (files d.before).here = here
  writes : ∀ d ∈ history, ∀ entry, d.effect = .log entry →
    log.write (day d.before) entry (files d.before) =
      (files (host.perform d.before d.number d.effect).1, .ok ())
  spares : ∀ d ∈ history, d.effect.entry? = none → ∀ today,
    (files (host.perform d.before d.number d.effect).1).file?
      ((log.file LogEntry.builds today).place here) =
      (files d.before).file? ((log.file LogEntry.builds today).place here)

namespace BuildLog

/-- Only an entry that can be written is not refused. -/
theorem refusal?_of_write {today : Date} {entry : LogEntry} {tree tree' : FileTree}
    (h : log.write today entry tree = (tree', .ok ())) : entry.refusal? = none := by
  unfold write at h
  simp only at h
  split at h
  · cases h
  · split at h
    · cases h
    · cases h
    · assumption

theorem added_of_write {today : Date} {entry : LogEntry} {tree tree' : FileTree}
    (h : log.write today entry tree = (tree', .ok ())) : added entry = line entry := by
  simp [added, refusal?_of_write h]

/-- An entry that is not refused is the last line of its file, and no other file has changed. -/
theorem write_ok {today : Date} {entry : LogEntry} {tree tree' : FileTree}
    (h : log.write today entry tree = (tree', .ok ())) :
    Spares {(log.file entry.category today).place tree.here} tree tree' ∧
      tree'.file? ((log.file entry.category today).place tree.here) =
        grown (tree.file? ((log.file entry.category today).place tree.here)) [entry] := by
  have cases := log.write_cases today entry tree
  rw [h] at cases
  rcases cases with ⟨-, refused⟩ | ⟨spares, hfile⟩
  · cases refused
  · refine ⟨spares, ?_⟩
    rw [hfile, grown, if_neg (List.cons_ne_nil entry []), List.flatMap_singleton]

end BuildLog

namespace Host.KeepsLog

variable {history : List (Deed σ)} {d : Deed σ}

theorem of_append {later : List (Deed σ)}
    (h : host.KeepsLog files here log day (history ++ later)) :
    host.KeepsLog files here log day history where
  stays d hd := h.stays d (List.mem_append_left _ hd)
  writes d hd := h.writes d (List.mem_append_left _ hd)
  spares d hd := h.spares d (List.mem_append_left _ hd)

theorem file?_perform (h : host.KeepsLog files here log day (history ++ [d])) (today : Date) :
    (files (host.perform d.before d.number d.effect).1).file?
      ((log.file LogEntry.builds today).place here) =
      grown ((files d.before).file? ((log.file LogEntry.builds today).place here))
        (Deed.entriesAt here log day ((log.file LogEntry.builds today).place here) [d]) := by
  have hd : d ∈ history ++ [d] := List.mem_concat_self
  rw [Deed.entriesAt_singleton]
  cases hentry : d.effect.entry? with
  | none => exact h.spares d hd hentry today
  | some entry =>
    obtain ⟨spares, hfile⟩ :=
      BuildLog.write_ok (h.writes d hd entry (Effect.eq_log_of_entry? hentry))
    rw [h.stays d hd] at spares hfile
    by_cases same : (log.file entry.category (day d.before)).place here =
      (log.file LogEntry.builds today).place here
    · rw [← same, hfile, Option.filter_some, if_pos (by simp)]
      rfl
    · rw [spares.files _ (by simpa using Ne.symm same)]
      simp [same, grown]

end Host.KeepsLog

theorem Batch.grown_of_reaches {s₀ s : σ} {seats₀ seats : List Seat} {history : List (Deed σ)}
    (h : Reaches host.chronicled ((s₀, []), seats₀) ((s, history), seats))
    (keeps : host.KeepsLog files here log day history) (today : Date) :
    (files s).file? ((log.file LogEntry.builds today).place here) =
      grown ((files s₀).file? ((log.file LogEntry.builds today).place here))
        (Deed.entriesAt here log day ((log.file LogEntry.builds today).place here) history) := by
  generalize hplace : (log.file LogEntry.builds today).place here = place
  refine invariant_of_reaches (P := fun s : σ × List (Deed σ) =>
    host.KeepsLog files here log day s.2 →
    (files s.1).file? place = grown ((files s₀).file? place)
      (Deed.entriesAt here log day place s.2)) ?_ h (fun _ => rfl) keeps
  rintro ⟨s, history⟩ n e ih keeps
  calc (files (host.perform s n e).1).file? place
      = grown ((files s).file? place) (Deed.entriesAt here log day place [⟨s, n, e⟩]) :=
        hplace ▸ keeps.file?_perform today
    _ = grown ((files s₀).file? place) (Deed.entriesAt here log day place (history ++ [⟨s, n, e⟩])) := by
      rw [ih keeps.of_append, grown_append, Deed.entriesAt_append]

/-! ## The log of a run -/

/-- The build log of a run tells what happened. When all passes have ended, of every pass there are
just the entries that tell its result: one if it was skipped, one for its beginning and a later one
for its end otherwise. They are the entries by which the files of the log have grown, in the order
in which the passes made them, and each is one line. -/
theorem build_log_is_faithful {s₀ s : σ} {jobs : List Job} {history : List (Deed σ)}
    {passes : List Running} {results : List PassResult}
    (reached : Batch.Reaches host.chronicled ((s₀, []), jobs.map .waiting) ((s, history),
      passes.map .begun))
    (keeps : host.KeepsLog files here log day history)
    (ended : Batch.results? passes = some results) :
    -- every pass is told of
    results.map PassResult.job = jobs ∧
    (∀ (n : ℕ) (r : PassResult), results[n]? = some r →
      r.IsTold (Deed.outputsOf history n) (Deed.entriesOf history n)) ∧
    (∀ d ∈ history, d.number < jobs.length) ∧
    -- in the files
    (∀ d ∈ history, ∀ entry, d.effect = .log entry →
      entry.category = LogEntry.builds ∧ BuildLog.added entry = BuildLog.line entry) ∧
    (∀ today, (files s).file? ((log.file LogEntry.builds today).place here) =
      grown ((files s₀).file? ((log.file LogEntry.builds today).place here))
        (Deed.entriesAt here log day ((log.file LogEntry.builds today).place here) history)) ∧
    -- in lines
    ∀ entry, ∃ body, BuildLog.line entry = body ++ [BuildLog.lineEnd] ∧ ∀ b ∈ body,
    0x20 ≤ b ∧ b ≤ 0x7E := by
  have hjobs : results.map PassResult.job = jobs :=
    Batch.jobs_of_results (Batch.reaches_of_chronicled reached) ended
  obtain ⟨numbers, told⟩ := Batch.told_of_reaches reached ended
  have length : results.length = jobs.length := by rw [← hjobs, List.length_map]
  refine ⟨hjobs, told, fun d hd => length ▸ numbers d hd, fun d hd entry hentry => ?_,
    Batch.grown_of_reaches reached keeps, BuildLog.exists_line⟩
  have hnumber := numbers d hd
  have hmem : entry ∈ Deed.entriesOf history d.number :=
    List.mem_filterMap.mpr ⟨d.effect, Deed.mem_effectsOf hd, by rw [hentry]; rfl⟩
  exact ⟨(told d.number _ (List.getElem?_eq_getElem hnumber)).category entry hmem,
    BuildLog.added_of_write (keeps.writes d hd entry hentry)⟩

/-! ## Runs in a given order -/

def Seat.result? (seat : Seat) : Option PassResult :=
  match seat with
  | .waiting _ => none
  | .begun p => p.result?

namespace Batch

omit [NestingLimits] in
theorem exists_begun_of_results {seats : List Seat} {results : List PassResult}
    (h : seats.mapM Seat.result? = some results) :
    ∃ passes : List Running, seats = passes.map .begun ∧ results? passes = some results := by
  induction seats generalizing results with
  | nil => exact ⟨[], rfl, h⟩
  | cons seat rest ih =>
    rw [List.mapM_cons] at h
    obtain ⟨r, hr, h⟩ := Option.bind_eq_some_iff.mp h
    obtain ⟨later, hlater, h⟩ := Option.bind_eq_some_iff.mp h
    cases h
    obtain ⟨passes, rfl, hpasses⟩ := ih hlater
    cases seat with
    | waiting => cases hr
    | begun p =>
      refine ⟨p :: passes, rfl, ?_⟩
      rw [results?, List.mapM_cons]
      exact Option.bind_eq_some_iff.mpr ⟨r, hr, Option.bind_eq_some_iff.mpr ⟨later, hpasses, rfl⟩⟩

/-- The batch after the pass with a number has begun or has answered its first signal, if it can do
either. -/
def advance (host : Host σ) (b : σ × List Seat) (n : Nat) : σ × List Seat :=
  match b.2[n]? with
  | some (.waiting job) =>
    let (s, p) := Running.start host n b.1 job
    (s, b.2.set n (.begun p))
  | some (.begun ⟨job, state, signal :: rest⟩) =>
    let (s, p) := Running.moved host n b.1 job (job.step state signal) rest
    (s, b.2.set n (.begun p))
  | _ => b

theorem reaches_advance (b : σ × List Seat) (n : Nat) : Reaches host b (advance host b n) := by
  obtain ⟨s, seats⟩ := b
  unfold advance
  split
  · next job hseat => exact .single (.start hseat)
  · next job state signal rest hseat =>
    have first : seats[n]? = some (.begun ⟨job, state, [] ++ signal :: rest⟩) := hseat
    exact .single (.answer first)
  · exact .refl

theorem reaches_advances (b : σ × List Seat) (order : List Nat) :
    Reaches host b (order.foldl (advance host) b) := by
  induction order generalizing b with
  | nil => exact .refl
  | cons n rest ih => exact (reaches_advance b n).trans (ih _)

end Batch

end Runs

/-! ## The log of a command -/

namespace CommandLine

variable {around : Surroundings} {settings : Settings} {inputs : List Text} {log : BuildLog}

section

variable [NestingLimits]

/-- Whatever is done for a pass, the working directory stays. -/
theorem here_perform (tree : FileTree) (n : Nat) (e : Effect) :
    ((host around settings inputs).perform tree n e).1.here = tree.here := by
  cases e with
  | read | connect | disconnect | requestIndex | requestPayload | stop => rfl
  | write output text => exact (FileTree.spares_writeText tree around.root output text).here
  | log entry =>
    simp only [host, perform, record]
    split
    · rfl
    · next log _ => exact (log.logged_write around.clock.today entry tree).spares.here

/-- In a run of the passes the working directory is always the same. -/
theorem here_of_reaches {tree tree' : FileTree} {history : List (Deed FileTree)}
    {seats₀ seats : List Seat}
    (h : Batch.Reaches (host around settings inputs).chronicled ((tree, []),
      seats₀) ((tree', history), seats)) :
    ∀ d ∈ history, d.before.here = tree.here := by
  have start : tree.here = tree.here ∧ ∀ d ∈ ([] : List (Deed FileTree)),
      d.before.here = tree.here :=
    ⟨rfl, List.forall_mem_nil _⟩
  refine (Batch.invariant_of_reaches (P := fun s : FileTree × List (Deed FileTree) =>
    s.1.here = tree.here ∧ ∀ d ∈ s.2, d.before.here = tree.here) ?_ h start).2
  rintro ⟨s, history⟩ n e ⟨here, all⟩
  exact ⟨(here_perform s n e).trans here,
    List.forall_mem_append.mpr ⟨all, List.forall_mem_singleton.mpr here⟩⟩

/-- The passes of a command keep the build log if none of its entries is refused. -/
theorem keepsLog_of_reaches (hlog : logOf? settings = some log) {tree tree' : FileTree}
    {history : List (Deed FileTree)} {seats : List Seat}
    (h : Batch.Reaches (host around settings inputs).chronicled
      ((tree, []), (inputs.map (jobFor around settings)).map .waiting) ((tree', history), seats))
    (succeed : ∀ d ∈ history, ∀ entry,
      d.effect = .log entry → (log.write around.clock.today entry d.before).2 = .ok ()) :
    (host around settings inputs).KeepsLog id tree.here log (fun _ =>
      around.clock.today) history where
  stays := here_of_reaches h
  writes d hd entry hentry := by
    rw [hentry, ← succeed d hd entry hentry]
    simp [host, perform, record, hlog]
  spares d hd hentry today := by
    have here := here_of_reaches h d hd
    obtain ⟨before, n, e⟩ := d
    cases e with
    | log => cases hentry
    | read | connect | disconnect | requestIndex | requestPayload | stop => rfl
    | write output text =>
      obtain ⟨job, hjob, rfl⟩ := Batch.output_of_reaches h hd rfl
      obtain ⟨input, -, rfl⟩ := List.mem_map.mp (List.mem_of_getElem? hjob)
      have apart : (log.file LogEntry.builds today).place tree.here ≠
          (jobFor around settings input).output.place before.here := by
        intro same
        obtain ⟨c, hlast, hl, -⟩ := lastCharacter?_output around settings input before.here
        have hfile : Path.lastCharacter? ((log.file LogEntry.builds today).place tree.here) =
            some (CodePoint.ofChar 'l') :=
          Path.lastCharacter?_place rfl (by decide) _ _ _
        rw [← same, hfile] at hlast
        exact hl (Option.some.inj hlast).symm
      exact (FileTree.spares_writeText before around.root _ text).files _ apart

end

/-! A build of three inputs: the first one's pass completes, the second one is no JSON, and the
third one is not what the trigger names. -/

def tracedSurroundings : Surroundings :=
  ⟨"/home", ⟨"2026-01-02T00:00:00+00:00", ⟨739618, by decide, by decide⟩⟩, .ofInt 0,
    englishRoutes, .ofText⟩

def tracedSettings : Settings := { Settings.default with logging := ⟨"INFO", "logs"⟩ }

def tracedTree : FileTree := ⟨.ofList
  [(Text.words ["home", "nstack.json"],
    .file (Utf8.encodeAll r#"{"nstack_project_id": "project", "nstack_api_key": "key"}"#)),
   (Text.words ["home", "lib"], .directory),
   (Text.words ["home", "lib", "nstack.json"], .file (Utf8.encodeAll r"{"))], Text.words ["home"]⟩

def tracedInputs : List Text := Text.words ["nstack.json", "lib/nstack.json", "other.json"]

def tracedHost : Host (FileTree × List (Deed FileTree)) :=
  (host tracedSurroundings tracedSettings tracedInputs).chronicled

/-- The passes begin from the last one to the first one, then the first and the second one take
turns. -/
def tracedEnd : (FileTree × List (Deed FileTree)) × List Seat :=
  [2, 1, 0, 0, 1, 0, 0, 0, 0, 0].foldl (Batch.advance tracedHost)
    ((tracedTree, []), (tracedInputs.map (jobFor tracedSurroundings tracedSettings)).map .waiting)

/-- Of the three inputs one has completed, one has failed and one was skipped, and that is what the
build log tells. -/
theorem build_log_is_faithful_traced :
    ∃ (history : List (Deed FileTree)) (results : List PassResult),
    (host tracedSurroundings tracedSettings tracedInputs).KeepsLog id tracedTree.here
      ⟨Path.ofText "logs"⟩
      (fun _ => tracedSurroundings.clock.today) history ∧
    results.map PassResult.status = Text.words ["completed", "failed", "skipped"] ∧
    ∀ (n : ℕ) (r : PassResult), results[n]? = some r →
      r.IsTold (Deed.outputsOf history n) (Deed.entriesOf history n) := by
  -- the run is evaluated once, for both what it logs and how it ends
  have evaluated : ((tracedEnd.1.2.all fun d => d.effect.entry?.all fun entry =>
      (BuildLog.write ⟨Path.ofText "logs"⟩ tracedSurroundings.clock.today entry d.before).2.isOk) &&
      (tracedEnd.2.mapM Seat.result?).map (fun results => results.map PassResult.status) =
        some (Text.words ["completed", "failed", "skipped"])) = true := by
    decide +kernel
  obtain ⟨accepted, statuses⟩ := (Bool.and_eq_true _ _).mp evaluated
  obtain ⟨results, hresults, hstatuses⟩ := Option.map_eq_some_iff.mp (of_decide_eq_true statuses)
  have reached : Batch.Reaches tracedHost
      ((tracedTree, []), (tracedInputs.map (jobFor tracedSurroundings tracedSettings)).map .waiting)
      tracedEnd := Batch.reaches_advances _ _
  generalize tracedEnd = last at accepted hresults reached
  obtain ⟨⟨after, history⟩, seats⟩ := last
  obtain ⟨passes, rfl, ended⟩ := Batch.exists_begun_of_results hresults
  have keeps := keepsLog_of_reaches rfl reached fun d hd entry hentry => by
    have hd := List.all_eq_true.mp accepted d hd
    rw [hentry] at hd
    exact (isOk_eq_true.mp hd).choose_spec
  obtain ⟨-, told, -⟩ := build_log_is_faithful reached keeps ended
  exact ⟨history, results, keeps, hstatuses, told⟩

end CommandLine

end LocaleGen
