import LocaleGen.Proofs.Attendance
import LocaleGen.Proofs.Interleaving
import LocaleGen.Proofs.Places
import Mathlib

/-!
# Files that the passes of a build leave behind

The passes of a build share the file tree, so how one of them fares may depend on what the others
have written. Still each of them goes on as in a world of its own (`worldOf`): its input is not
touched, and the only thing that is open is whether its output can be written, which `Stands` leaves
open until it has been tried. `Kept` says the same of all passes and of the files, whatever order
the passes go on in. At their end it comes to `built_of_reaches`, and if the service is never silent
they do come to their end (`exists_results_of_reaches`).
-/

namespace LocaleGen.CommandLine

open FileTree (Holds Spares Logged grown)

section

variable [NestingLimits]

/-- The world of the pass over an input: the input is the one in the file tree, the service is the
one that the settings name, and writing the output has the given fate. -/
def worldOf (around : Surroundings) (settings : Settings) (tree : FileTree) (input : Text)
    (fate : Option Fault) : World :=
  Ledger.world ⟨settings.api.baseUrl, around.routes⟩ ⟨tree.readText (Path.ofText input), fate⟩

/-- The places whose files may have changed when the passes at `done` have written their outputs. -/
def touched (around : Surroundings) (here : List Text) (settings : Settings)
    (inputs : List Text) (done : Set ℕ) : Set (List Text) :=
  {place | place ∈ logPlaces around here settings ∨
    ∃ n ∈ done, ∃ input, inputs[n]? = some input ∧
      (jobFor around settings input).output.place here = place}

section Moves

variable (around : Surroundings) (settings : Settings) (inputs : List Text)

/-! ## What the file tree answers -/

theorem logged_perform {e : Effect} (h : e.SparesFiles) (tree : FileTree) (n : Nat) :
    Logged (logPlaces around tree.here settings) tree
      (perform around settings inputs tree n e).1 := by
  cases e with
  | read | write => exact h.elim
  | log entry =>
    have hcategory : entry.category = LogEntry.builds := h
    show Logged _ tree (record around (logOf? settings) tree entry)
    unfold record logPlaces
    split
    · exact .refl _ _
    · next log hlog =>
      have written := log.logged_write around.clock.today entry tree
      rw [hcategory] at written
      simpa [hlog] using written
  | connect | disconnect | requestIndex | requestPayload | stop => exact .refl _ _

/-- What arrives is what arrives in the world, unless the service is silent. -/
theorem arrives_perform {e : Effect} (h : e.SparesFiles) (tree : FileTree) (n : Nat)
    (before : FileTree) (input : Text) (fate : Option Fault) :
    Arrives around.routes.Answers (perform around settings inputs tree n e).2.toList
      ((worldOf around settings before input fate).reply e).toList := by
  have served (hread : e ≠ .read) (hwrite : ∀ output content, e ≠ .write output content) :
      Arrives around.routes.Answers (Service.serve ⟨settings.api.baseUrl, around.routes⟩ e).2.toList
        ((worldOf around settings before input fate).reply e).toList := by
    refine ⟨?_, fun answers => ?_⟩
    · cases hs : (Service.serve ⟨settings.api.baseUrl, around.routes⟩ e).2 with
      | none => exact List.nil_sublist _
      | some s =>
        rw [worldOf, Ledger.reply_of_serve hs]
    · rw [Ledger.serve_eq_reply answers ⟨before.readText (Path.ofText input), fate⟩ hread hwrite,
        worldOf]
  cases e with
  | read | write => exact h.elim
  | log | connect | disconnect | requestIndex | requestPayload | stop =>
    exact served (by simp) (by simp)

/-- Effects that spare files add to the build log at most. -/
theorem performAll_spares {effects : List Effect} (h : ∀ e ∈ effects, e.SparesFiles)
    (tree : FileTree) (n : Nat) :
    Logged (logPlaces around tree.here settings) tree
      ((host around settings inputs).performAll n tree effects).1 ∧
      ∀ before input fate,
      Arrives around.routes.Answers ((host around settings inputs).performAll n tree effects).2
        (effects.filterMap (worldOf around settings before input fate).reply) := by
  induction effects generalizing tree with
  | nil => exact ⟨.refl _ _, fun _ _ _ => .refl _ _⟩
  | cons e rest ih =>
    obtain ⟨hfirst, hrest⟩ := List.forall_mem_cons.mp h
    obtain ⟨later, replies⟩ := ih hrest (perform around settings inputs tree n e).1
    have first := logged_perform around settings inputs hfirst tree n
    rw [first.spares.here] at later
    refine ⟨first.trans later, fun before input fate => ?_⟩
    have both :=
      (arrives_perform around settings inputs hfirst tree n before input fate).append
        (replies before input fate)
    have cons : (e :: rest).filterMap (worldOf around settings before input fate).reply =
        ((worldOf around settings before input fate).reply e).toList ++
          rest.filterMap (worldOf around settings before input fate).reply := by
      cases hreply : (worldOf around settings before input fate).reply e <;> simp [hreply]
    rw [cons]
    exact both

/-- A pass that begins adds to the build log at most, and reads its input as it was. -/
theorem start_spec {before tree : FileTree} {input : Text} {n : Nat}
    (hinput : inputs[n]? = some input) (reads : (jobFor around settings input).isTriggered = true →
      ∀ tree', Logged (logPlaces around tree.here settings) tree tree' →
      tree'.readText (Path.ofText input) = before.readText (Path.ofText input)) :
    Logged (logPlaces around tree.here settings) tree
        ((host around settings inputs).performAll n tree (jobFor around settings input).begin.2).1 ∧
      ∀ fate, Arrives around.routes.Answers
        ((host around settings inputs).performAll n tree (jobFor around settings input).begin.2).2
        ((jobFor around settings input).begin.2.filterMap
          (worldOf around settings before input fate).reply) := by
  by_cases triggered : (jobFor around settings input).isTriggered = true
  · rw [Job.begin, if_pos triggered]
    have started :
      Effect.SparesFiles (.log (.started around.clock.time (.text input)
        (.text settings.target.name))) := rfl
    have logged := logged_perform around settings inputs started tree n
    refine ⟨logged, fun fate => ?_⟩
    have content := reads triggered _ logged
    simp only [Host.performAll, host, perform] at content ⊢
    rw [hinput, Option.map_some, jobFor]
    simp only [content]
    exact .refl _ _
  · have spares : ∀ e ∈ (jobFor around settings input).begin.2, e.SparesFiles := by
      rw [Job.begin, if_neg triggered]
      exact List.forall_mem_singleton.mpr rfl
    obtain ⟨logged, replies⟩ := performAll_spares around settings inputs spares tree n
    exact ⟨logged, replies before input⟩

end Moves

/-! ## One pass -/

/-- The pass over an input goes on as a course in its world, if writing its output has the given
fate. -/
abbrev Tracks (around : Surroundings) (settings : Settings) (before : FileTree) (input : Text)
    (fate : Option Fault) (p : Running) (c : Course) : Prop :=
  Attends around.routes.Answers (worldOf around settings before input fate) p c

/-- Where the pass over an input stands in a build that has begun with the files `before`, if the
files are `after` now. Whether the pass has written its output by now is what `done` says. -/
inductive Stands (around : Surroundings) (settings : Settings) (before after : FileTree)
    (input : Text) (done : Prop) : Seat → Prop
  | waiting :
      ¬ done → Stands around settings before after input done (.waiting (jobFor around settings input))
  | untried {state : PassState} {inbox : List Signal} :
      ¬ done →
      (∀ fate, ∃ c, Tracks around settings before input fate ⟨jobFor around settings input,
        state, inbox⟩ c) →
      Stands around settings before after input done (.begun ⟨jobFor around settings input, state, inbox⟩)
  | refused {state : PassState} {inbox : List Signal} {c : Course} {f : Fault} :
      ¬ done → state.isBeforeWrite = false →
      Tracks around settings before input (some f) ⟨jobFor around settings input, state, inbox⟩ c →
      Stands around settings before after input done (.begun ⟨jobFor around settings input, state, inbox⟩)
  | written {state : PassState} {inbox : List Signal} {c : Course}
      {names : List Text} {text : Text} :
      done → state.isBeforeWrite = false →
      Tracks around settings before input none ⟨jobFor around settings input, state, inbox⟩ c →
      .write (jobFor around settings input).output text ∈ c.effects →
      Holds after (jobFor around settings input).output names (Utf8.encodeAll text) →
      Stands around settings before after input done (.begun ⟨jobFor around settings input, state, inbox⟩)

/-- The artifact of the pass over an input is where its output belongs. -/
structure Delivered (around : Surroundings) (settings : Settings)
    (before after : FileTree) (input : Text)
    (names : List Text) (text : Text) : Prop where
  triggered : (jobFor around settings input).isTriggered = true
  yields : (worldOf around settings before input none).Yields settings.target text
  holds : Holds after (jobFor around settings input).output names (Utf8.encodeAll text)

/-- A build that runs its passes: the trigger names a JSON file, and every input is a file. -/
structure Ready (settings : Settings) (inputs : List Text) (before : FileTree) : Prop where
  json : Settings.jsonExtension <:+ settings.trigger
  files : ∀ input ∈ inputs, before.isFile (Path.ofText input) = .ok true

/-- Passes with one output have one artifact. -/
theorem Delivered.unique {around : Surroundings} {settings : Settings} {inputs : List Text}
    {before after after' : FileTree} {input input' : Text} {names : List Text} {text text' : Text}
    (ready : Ready settings inputs before) (hinput : input ∈ inputs) (hinput' : input' ∈ inputs)
    (here : after.here = before.here) (here' : after'.here = before.here)
    (d : Delivered around settings before after input names text)
    (d' : Delivered around settings before after' input' names text') : text = text' := by
  obtain ⟨there, content, held⟩ := FileTree.holds_of_isFile (ready.files input hinput)
  obtain ⟨there', content', held'⟩ := FileTree.holds_of_isFile (ready.files input' hinput')
  have houtput := here ▸ FileTree.locate_eq_ok d.holds.located
  have houtput' := here' ▸ FileTree.locate_eq_ok d'.holds.located
  have hplace := place_of_output d.triggered ready.json d'.triggered (houtput.trans houtput'.symm)
  rw [FileTree.locate_eq_ok held.located, FileTree.locate_eq_ok held'.located] at hplace
  subst hplace
  obtain rfl : content = content' := Option.some.inj (held.file.symm.trans held'.file)
  have yields' := d'.yields
  rw [worldOf, ← held.readText_eq held'] at yields'
  exact d.yields.unique yields'

namespace Stands

variable {around : Surroundings} {settings : Settings} {before after after' : FileTree}
    {input : Text} {done done' : Prop} {seat : Seat}

theorem delivered (h : Stands around settings before after input done seat) (hdone : done) :
    ∃ names text, Delivered around settings before after input names text := by
  cases h with
  | waiting hnot | untried hnot | refused hnot => exact absurd hdone hnot
  | written _ _ attends hwrite holds =>
    obtain ⟨-, triggered, yields⟩ := (Standing.of_reaches attends.reached).of_write hwrite
    exact ⟨_, _, triggered, yields, holds⟩

theorem job_eq {p : Running} (h : Stands around settings before after input done (.begun p)) :
    p.job = jobFor around settings input := by
  cases h <;> rfl

/-- Where a pass stands stays the same as long as its artifact stays where it is. -/
theorem mono (h : Stands around settings before after input done seat) (same : done ↔ done')
    (keeps : ∀ names text, Delivered around settings before after input names text →
      Holds after' (jobFor around settings input).output names (Utf8.encodeAll text)) :
    Stands around settings before after' input done' seat := by
  cases h with
  | waiting hnot => exact .waiting (same.not.mp hnot)
  | untried hnot attends => exact .untried (same.not.mp hnot) attends
  | refused hnot late attends => exact .refused (same.not.mp hnot) late attends
  | written hdone late attends hwrite holds =>
    obtain ⟨-, triggered, yields⟩ := (Standing.of_reaches attends.reached).of_write hwrite
    exact .written (same.mp hdone) late attends hwrite (keeps _ _ ⟨triggered, yields, holds⟩)

theorem logged (h : Stands around settings before after input done seat)
    (l : Logged (logPlaces around after.here settings) after after') :
    Stands around settings before after' input done seat :=
  h.mono .rfl fun _ _ delivered =>
    l.spares.holds delivered.holds (FileTree.locate_eq_ok delivered.holds.located ▸
      output_notMem_logPlaces)

variable {inputs : List Text} {state : PassState} {early late arrived : List Signal}
    {signal : Signal}

/-- The pass answers a signal and asks for nothing but lines of the build log. -/
theorem answer_spares
    (h : Stands around settings before after input done
      (.begun ⟨jobFor around settings input, state, early ++ signal :: late⟩))
    (l : Logged (logPlaces around after.here settings) after after')
    (replies : ∀ fate, Arrives around.routes.Answers arrived
      (((jobFor around settings input).step state signal).2.filterMap
      (worldOf around settings before input fate).reply)) :
    Stands around settings before after' input done
      (.begun ⟨jobFor around settings input,
        ((jobFor around settings input).step state signal).1, early ++ late ++ arrived⟩) := by
  have h := h.logged l
  generalize hp :
    (⟨jobFor around settings input, state, early ++ signal :: late⟩ : Running) = p at h
  cases h with
  | untried hnot attends =>
    obtain ⟨-, rfl, rfl⟩ := Running.mk.inj hp
    refine .untried hnot fun fate => ?_
    obtain ⟨c, hc⟩ := attends fate
    obtain ⟨c', hc', -⟩ := hc.answer (replies fate)
    exact ⟨c', hc'⟩
  | refused hnot hlate attends =>
    obtain ⟨-, rfl, rfl⟩ := Running.mk.inj hp
    obtain ⟨c', hc', -⟩ := attends.answer (replies _)
    exact .refused hnot (Job.isBeforeWrite_step_of_late _ hlate signal) hc'
  | written hdone hlate attends hwrite holds =>
    obtain ⟨-, rfl, rfl⟩ := Running.mk.inj hp
    obtain ⟨c', hc', heffects⟩ := attends.answer (replies _)
    refine .written hdone (Job.isBeforeWrite_step_of_late _ hlate signal) hc' ?_ holds
    rw [heffects]
    exact List.mem_append_left _ hwrite

/-- The pass answers a signal and asks for its output to be written, which it has not done before.
Whatever the fate of the output, a course in the world with this fate goes on as the pass does. -/
theorem answer_writes {b : Bundling} {text : Text}
    (h : Stands around settings before after input done
      (.begun ⟨jobFor around settings input, state, early ++ signal :: late⟩))
    (hstep : (jobFor around settings input).step state signal =
      (.persisting b, [.disconnect, .write (jobFor around settings input).output text])) :
    ¬ done ∧ ∀ fate, ∃ c, Tracks around settings before input fate ⟨jobFor around settings input,
      .persisting b,
        early ++ late ++ [.written (Ledger.written ⟨before.readText (Path.ofText input), fate⟩)]⟩ c ∧
      .write (jobFor around settings input).output text ∈ c.effects := by
  have notLate : state.isBeforeWrite ≠ false := by
    intro hlate
    have spares := Job.spares_step_of_late (jobFor around settings input) hlate signal
    rw [hstep] at spares
    exact spares _ (List.mem_cons_of_mem _ List.mem_cons_self)
  generalize hp :
    (⟨jobFor around settings input, state, early ++ signal :: late⟩ : Running) = p at h
  cases h with
  | untried hnot attends =>
    obtain ⟨-, rfl, rfl⟩ := Running.mk.inj hp
    refine ⟨hnot, fun fate => ?_⟩
    obtain ⟨c, hc⟩ := attends fate
    have hreply : Arrives around.routes.Answers
      [.written (Ledger.written ⟨before.readText (Path.ofText input), fate⟩)]
        (((jobFor around settings input).step state signal).2.filterMap
          (worldOf around settings before input fate).reply) := by
      rw [hstep]
      exact .refl _ _
    obtain ⟨c', hc', heffects⟩ := hc.answer hreply
    rw [hstep] at hc' heffects
    exact ⟨c', hc', by simp [heffects, Course.effectsOf]⟩
  | refused _ hlate =>
    obtain ⟨-, rfl, -⟩ := Running.mk.inj hp
    exact absurd hlate notLate
  | written _ hlate =>
    obtain ⟨-, rfl, -⟩ := Running.mk.inj hp
    exact absurd hlate notLate

end Stands

/-! ## All passes -/

/-- What a build that has begun with the files `before` has come to when the passes at `done` have
written their outputs. -/
structure Kept (around : Surroundings) (settings : Settings) (inputs : List Text)
    (before : FileTree) (done : Set ℕ)
    (b : FileTree × List Seat) : Prop where
  length : b.2.length = inputs.length
  spares : Spares (touched around before.here settings inputs done) before b.1
  entries : ∃ entries, ∀ place ∈ logPlaces around before.here settings,
    b.1.file? place = grown (before.file? place) entries
  stands : ∀ n input seat, inputs[n]? = some input → b.2[n]? = some seat →
    Stands around settings before b.1 input (n ∈ done) seat

end

namespace Kept

variable {around : Surroundings} {settings : Settings} {inputs : List Text}
    {before tree tree' : FileTree} {done : Set ℕ} {seats : List Seat} {n : ℕ}
    {seat seat' : Seat} {input : Text}

theorem start [NestingLimits] :
    Kept around settings inputs before ∅ (before,
      inputs.map fun input => .waiting (jobFor around settings input)) where
  length := by simp
  spares := .refl _ _
  entries := ⟨[], fun _ _ => rfl⟩
  stands n input seat hinput hseat := by
    rw [List.getElem?_map, hinput, Option.map_some] at hseat
    cases hseat
    exact .waiting (Set.notMem_empty n)

theorem touched_mono {here : List Text} {done' : Set ℕ} (h : done ⊆ done') :
    touched around here settings inputs done ⊆ touched around here settings inputs done' := by
  rintro place (hlog | ⟨n, hn, rest⟩)
  · exact .inl hlog
  · exact .inr ⟨n, h hn, rest⟩

variable [NestingLimits]

/-- One pass moves, and nothing but the build log has changed. -/
theorem logged (h : Kept around settings inputs before done (tree, seats))
    (l : Logged (logPlaces around tree.here settings) tree tree')
    (hinput : inputs[n]? = some input)
    (own : Stands around settings before tree' input (n ∈ done) seat') :
    Kept around settings inputs before done (tree', seats.set n seat') where
  length := by simpa using h.length
  spares := h.spares.trans (l.spares.mono fun _ hlog => .inl (h.spares.here ▸ hlog))
  entries := by
    obtain ⟨entries, hentries⟩ := h.entries
    obtain ⟨later, hlater⟩ := l.entries
    rw [h.spares.here] at hlater
    refine ⟨entries ++ later, fun place hplace => ?_⟩
    rw [hlater place hplace, hentries place hplace, FileTree.grown_append]
  stands _ found seat hfound hseat := by
    refine forall_set (P := fun m seat => ∀ found, inputs[m]? = some found →
      Stands around settings before tree' found (m ∈ done) seat) ?_ ?_ hseat found hfound
    · intro found hfound
      obtain rfl : found = input := Option.some.inj (hfound.symm.trans hinput)
      exact own
    · exact fun m _ seat hseat found hfound => (h.stands m found seat hfound hseat).logged l

/-- One pass writes its output. -/
theorem wrote {names : List Text} {text : Text} (ready : Ready settings inputs before)
    (h : Kept around settings inputs before done (tree, seats)) (hinput : inputs[n]? = some input)
    (spares : Spares {names} tree tree')
    (d : Delivered around settings before tree' input names text)
    (own : Stands around settings before tree' input True seat') :
    Kept around settings inputs before (insert n done) (tree', seats.set n seat') where
  length := by simpa using h.length
  spares := by
    have hplace := FileTree.locate_eq_ok d.holds.located
    rw [spares.here, h.spares.here] at hplace
    refine (h.spares.mono (touched_mono (Set.subset_insert n done))).trans (spares.mono ?_)
    rintro _ rfl
    exact .inr ⟨n, Set.mem_insert n done, input, hinput, hplace⟩
  entries := by
    obtain ⟨entries, hentries⟩ := h.entries
    refine ⟨entries, fun names' hnames' => ?_⟩
    have hne : names' ≠ names := by
      rintro rfl
      rw [← FileTree.locate_eq_ok d.holds.located, spares.here, h.spares.here] at hnames'
      exact output_notMem_logPlaces hnames'
    rw [spares.files names' hne, hentries names' hnames']
  stands _ found seat hfound hseat := by
    refine forall_set (P := fun m seat => ∀ found, inputs[m]? = some found →
      Stands around settings before tree' found (m ∈ insert n done) seat) ?_ ?_ hseat found hfound
    · intro found hfound
      obtain rfl : found = input := Option.some.inj (hfound.symm.trans hinput)
      exact own.mono (by simp) fun _ _ delivered => delivered.holds
    · intro m hm seat hseat found hfound
      refine (h.stands m found seat hfound hseat).mono (by simp [hm])
        fun names' text' delivered => ?_
      by_cases hnames : names' = names
      · subst hnames
        -- The output has been written again, with the same artifact.
        obtain rfl :=
          delivered.unique ready (List.mem_of_getElem? hfound) (List.mem_of_getElem? hinput)
            h.spares.here
          (spares.here.trans h.spares.here) d
        exact ⟨spares.locate delivered.holds.located, d.holds.file⟩
      · exact spares.holds delivered.holds hnames

theorem reads (ready : Ready settings inputs before)
    (h : Kept around settings inputs before done (tree, seats)) (hinput : input ∈ inputs)
    (triggered : (jobFor around settings input).isTriggered = true)
    (l : Logged (logPlaces around tree.here settings) tree tree') :
    tree'.readText (Path.ofText input) = before.readText (Path.ofText input) := by
  obtain ⟨names, content, held⟩ := FileTree.holds_of_isFile (ready.files input hinput)
  have hlast :=
    FileTree.locate_eq_ok held.located ▸ lastCharacter?_input triggered ready.json before.here
  have hnot : names ∉ touched around before.here settings inputs done := by
    rintro (hlog | ⟨m, -, other, -, rfl⟩)
    · exact absurd (hlast.symm.trans (lastCharacter?_of_logPlaces hlog)) (by decide)
    · obtain ⟨c, houtput, -, hn⟩ := lastCharacter?_output around settings other before.here
      exact hn (Option.some.inj (houtput.symm.trans hlast))
  have still := h.spares.trans (l.spares.mono fun _ hlog => .inl (h.spares.here ▸ hlog))
  exact (still.holds held hnot).readText_eq held

theorem step (ready : Ready settings inputs before) {b b' : FileTree × List Seat}
    (h : Kept around settings inputs before done b)
    (s : Batch.Step (host around settings inputs) b b') :
    ∃ done', Kept around settings inputs before done' b' := by
  have exists_input {seats : List Seat} {n : ℕ} {seat : Seat}
    (hlength : seats.length = inputs.length)
      (hseat : seats[n]? = some seat) : ∃ input, inputs[n]? = some input :=
    ⟨_, List.getElem?_eq_getElem (hlength ▸ (List.getElem?_eq_some_iff.mp hseat).1)⟩
  cases s with
  | @start tree seats n job hseat =>
    obtain ⟨input, hinput⟩ := exists_input h.length hseat
    cases h.stands n input _ hinput hseat with
    | waiting hnot =>
      obtain ⟨logged, replies⟩ := start_spec around settings inputs hinput fun triggered tree' l =>
        h.reads ready (List.mem_of_getElem? hinput) triggered l
      exact ⟨done, h.logged logged hinput (.untried hnot fun fate => ⟨_, .start (replies fate)⟩)⟩
  | @answer tree seats n job state early signal late hseat =>
    obtain ⟨input, hinput⟩ := exists_input h.length hseat
    have stands := h.stands n input _ hinput hseat
    obtain rfl := stands.job_eq
    rcases (jobFor around settings input).asks_step state signal with spares | ⟨b, text, hstep⟩
    · obtain ⟨logged, replies⟩ := performAll_spares around settings inputs spares tree n
      exact ⟨done, h.logged logged hinput (stands.answer_spares logged (replies before input))⟩
    · obtain ⟨hnot, attends⟩ := stands.answer_writes hstep
      rw [hstep]
      cases hwritten : tree.writeText around.root (jobFor around settings input).output text with
      | mk tree' r =>
        have hmoved :
          Running.moved (host around settings inputs) n tree (jobFor around settings input)
            (.persisting b, [.disconnect, .write (jobFor around settings input).output text])
              (early ++ late) =
              (tree', ⟨jobFor around settings input, .persisting b, early ++ late ++ [.written r]⟩) := by
          simp [Running.moved, Host.performAll, host, perform, Service.serve, hwritten]
        rw [hmoved]
        cases r with
        | error f =>
          obtain ⟨c, hc, -⟩ := attends (some f)
          exact ⟨done, h.logged (.of_spares (FileTree.writeText_error hwritten)) hinput
            (.refused hnot rfl hc)⟩
        | ok =>
          obtain ⟨c, hc, heffects⟩ := attends none
          obtain ⟨spares, holds⟩ := FileTree.writeText_ok hwritten
          have own : Stands around settings before tree' input True _ :=
            .written trivial rfl hc heffects holds
          obtain ⟨-, triggered, yields⟩ := (Standing.of_reaches hc.reached).of_write heffects
          exact ⟨insert n done, h.wrote ready hinput spares ⟨triggered, yields, holds⟩ own⟩

theorem of_reaches (ready : Ready settings inputs before) {b : FileTree × List Seat}
    (h : Batch.Reaches (host around settings inputs)
      (before, inputs.map fun input => .waiting (jobFor around settings input)) b) :
    ∃ done, Kept around settings inputs before done b := by
  induction h with
  | refl => exact ⟨∅, .start⟩
  | tail _ s ih =>
    obtain ⟨done, kept⟩ := ih
    exact kept.step ready s

end Kept

/-! ## What is reported -/

def reported (around : Surroundings) (here : List Text) (settings : Settings)
    (results : List PassResult) : Set (List Text) :=
  {place | place ∈ logPlaces around here settings ∨
    ∃ r ∈ results, r.outcome = .completed ∧ r.job.output.place here = place}

variable [NestingLimits]

/-- The files `after` are those that a build may leave behind which found the files `before` and
ended with `results`: the output of every completed pass is its artifact, entries have been added to
the build log, and no other file has changed, so there is none that was not there before. -/
structure Built (around : Surroundings) (settings : Settings) (results : List PassResult)
    (before after : FileTree) : Prop where
  artifacts : ∀ r ∈ results, r.outcome = .completed →
    ∃ text, (worldOf around settings before r.job.inputId none).Yields settings.target text ∧
      after.readBytes r.job.output = .ok (Utf8.encodeAll text)
  entries : ∃ entries, ∀ place ∈ logPlaces around before.here settings,
    after.file? place = grown (before.file? place) entries
  others : ∀ place ∉ reported around before.here settings results,
    after.file? place = before.file? place

section Ended

variable {around : Surroundings} {settings : Settings} {inputs : List Text}
    {before after : FileTree}

theorem Stands.completed_iff {input : Text} {done : Prop} {p : Running} {o : Outcome}
    (h : Stands around settings before after input done (.begun p)) (hend : p.state = .finished o) :
    o = .completed ↔ done := by
  -- In a world where the output cannot be written, no pass is completed.
  have unwritten {f : Fault} {c : Course}
    (attends : Tracks around settings before input (some f) p c) : o ≠ .completed := by
    rintro rfl
    have verdict := (Standing.of_reaches attends.reached).verdict (attends.state.trans hend)
    obtain ⟨text, written⟩ := verdict.exists_written
    cases written
  cases h with
  | untried hnot attends =>
    obtain ⟨c, hc⟩ := attends (some .notImplemented)
    exact iff_of_false (unwritten hc) hnot
  | refused hnot _ attends => exact iff_of_false (unwritten attends) hnot
  | written hdone _ attends hwrite =>
    have verdict := (Standing.of_reaches attends.reached).verdict (attends.state.trans hend)
    obtain ⟨-, -, -, completed⟩ := verdict.of_write hwrite
    exact iff_of_true (completed.mpr rfl) hdone

/-- A pass that has been told all that has arrived has ended, unless the service is silent. -/
theorem Stands.exists_result {input : Text} {done : Prop} {p : Running}
    (h : Stands around settings before after input done (.begun p))
    (answers : around.routes.Answers) (idle : p.inbox = []) : ∃ r, p.result? = some r := by
  cases h with
  | untried _ attends =>
    obtain ⟨c, hc⟩ := attends none
    exact hc.exists_result answers idle
  | refused _ _ attends | written _ _ attends => exact attends.exists_result answers idle

/-- A pass that has ended has ended with a verdict, whatever has come of its output. -/
theorem Stands.exists_verdict {input : Text} {done : Prop} {p : Running} {o : Outcome}
    (h : Stands around settings before after input done (.begun p)) (hend : p.state = .finished o) :
    ∃ fate effects, Verdict p.job (worldOf around settings before input fate) effects o := by
  have verdict {fate : Option Fault} {c : Course}
    (attends : Tracks around settings before input fate p c) :
      Verdict p.job (worldOf around settings before input fate) c.effects o :=
    (Standing.of_reaches attends.reached).verdict (attends.state.trans hend)
  cases h with
  | untried _ attends =>
    obtain ⟨c, hc⟩ := attends none
    exact ⟨none, _, verdict hc⟩
  | refused _ _ attends => exact ⟨_, _, verdict attends⟩
  | written _ _ attends => exact ⟨_, _, verdict attends⟩

/-- The result at every place is the one of a pass that stands where the input at this place has led
it. -/
theorem Kept.ended {done : Set ℕ} {passes : List Running} {results : List PassResult}
    (h : Kept around settings inputs before done (after, passes.map .begun))
    (hresults : Batch.results? passes = some results) :
    results.length = inputs.length ∧
      ∀ (n : ℕ) (input : Text) (r : PassResult), inputs[n]? = some input → results[n]? = some r →
        ∃ p : Running, p.job = r.job ∧ p.state = .finished r.outcome ∧
          Stands around settings before after input (n ∈ done) (.begun p) := by
  have related := Batch.forall₂_of_results hresults
  refine ⟨related.length_eq.symm.trans (by simpa using h.length), fun n input r hinput hr => ?_⟩
  obtain ⟨hbound, hat⟩ := List.getElem?_eq_some_iff.mp hr
  have hpass : n < passes.length := related.length_eq ▸ hbound
  have same := related.get hpass hbound
  rw [List.get_eq_getElem, List.get_eq_getElem, hat] at same
  obtain ⟨hjob, hend⟩ := Running.result?_eq_some same
  exact ⟨passes[n], hjob, hend, h.stands n input (.begun passes[n]) hinput (by simp [hpass])⟩

/-- The result at every place is the one of the input at this place. -/
theorem Kept.result {done : Set ℕ} {passes : List Running} {results : List PassResult}
    (h : Kept around settings inputs before done (after, passes.map .begun))
    (hresults : Batch.results? passes = some results) :
    results.length = inputs.length ∧
      ∀ (n : ℕ) (input : Text) (r : PassResult), inputs[n]? = some input → results[n]? = some r →
        r.job = jobFor around settings input ∧ (r.outcome = .completed ↔ n ∈ done) ∧
          (n ∈ done → ∃ names text, Delivered around settings before after input names text) := by
  obtain ⟨hlength, hended⟩ := h.ended hresults
  refine ⟨hlength, fun n input r hinput hr => ?_⟩
  obtain ⟨p, hjob, hend, stands⟩ := hended n input r hinput hr
  exact ⟨hjob.symm.trans stands.job_eq, stands.completed_iff hend, stands.delivered⟩

/-- Unless the service is silent, every pass ends, in whatever order the passes go on. -/
theorem exists_results_of_reaches (ready : Ready settings inputs before)
    (answers : around.routes.Answers) {passes : List Running}
    (h : Batch.Reaches (host around settings inputs)
      (before, inputs.map fun input => .waiting (jobFor around settings input))
      (after, passes.map .begun))
    (idle : ∀ p ∈ passes, p.inbox = []) : ∃ results, Batch.results? passes = some results := by
  obtain ⟨done, kept⟩ := Kept.of_reaches ready h
  have length : passes.length = inputs.length := by simpa using kept.length
  have ends : ∀ p ∈ passes, ∃ r, p.result? = some r := by
    intro p hmem
    obtain ⟨n, hp⟩ := List.mem_iff_getElem?.mp hmem
    have hn : n < inputs.length := length ▸ (List.getElem?_eq_some_iff.mp hp).1
    have stands := kept.stands n inputs[n] (.begun p) (List.getElem?_eq_getElem hn) (by simp [hp])
    exact stands.exists_result answers (idle p hmem)
  obtain ⟨results, hresults, -⟩ := Batch.exists_results ends
  exact ⟨results, hresults⟩

/-- Whatever order the passes go on in, they leave behind what their results report. -/
theorem built_of_reaches (ready : Ready settings inputs before) {passes : List Running}
    {results : List PassResult} (h : Batch.Reaches (host around settings inputs)
      (before, inputs.map fun input => .waiting (jobFor around settings input))
      (after, passes.map .begun))
    (hresults : Batch.results? passes = some results) :
    results.map PassResult.job = inputs.map (jobFor around settings) ∧
    Built around settings results before after := by
  obtain ⟨done, kept⟩ := Kept.of_reaches ready h
  obtain ⟨hlength, hresult⟩ := kept.result hresults
  have exists_input {n : ℕ} {r : PassResult} (hr : results[n]? = some r) :
      ∃ input, inputs[n]? = some input :=
    ⟨_, List.getElem?_eq_getElem (hlength ▸ (List.getElem?_eq_some_iff.mp hr).1)⟩
  refine ⟨?_, ?_, kept.entries, ?_⟩
  · refine List.ext_getElem (by simpa using hlength) fun n hn hn' => ?_
    simp only [List.length_map] at hn hn'
    obtain ⟨hjob, -⟩ :=
      hresult n inputs[n] results[n] (List.getElem?_eq_getElem hn') (List.getElem?_eq_getElem hn)
    simpa using hjob
  · intro r hmem completed
    obtain ⟨n, hr⟩ := List.mem_iff_getElem?.mp hmem
    obtain ⟨input, hinput⟩ := exists_input hr
    obtain ⟨hjob, hdone, hdelivered⟩ := hresult n input r hinput hr
    obtain ⟨names, text, delivered⟩ := hdelivered (hdone.mp completed)
    rw [hjob]
    exact ⟨text, delivered.yields, delivered.holds.readBytes⟩
  · intro names hnames
    refine kept.spares.files names fun htouched => hnames ?_
    rcases htouched with hlog | ⟨n, hn, input, hinput, hplace⟩
    · exact .inl hlog
    · have hbound : n < results.length := hlength ▸ (List.getElem?_eq_some_iff.mp hinput).1
      obtain ⟨hjob, hdone, -⟩ := hresult n input results[n] hinput (List.getElem?_eq_getElem hbound)
      exact .inr ⟨results[n], List.getElem_mem hbound, hdone.mpr hn, hjob ▸ hplace⟩

/-- Whatever order the passes go on in, each of them ends with a verdict in a world with its own
input. -/
theorem verdicts_of_reaches (ready : Ready settings inputs before) {passes : List Running}
    {results : List PassResult} (h : Batch.Reaches (host around settings inputs)
      (before, inputs.map fun input => .waiting (jobFor around settings input))
      (after, passes.map .begun))
    (hresults : Batch.results? passes = some results) {r : PassResult} (hr : r ∈ results) :
    ∃ fate effects, Verdict r.job (worldOf around settings before r.job.inputId fate)
    effects r.outcome := by
  obtain ⟨done, kept⟩ := Kept.of_reaches ready h
  obtain ⟨hlength, hended⟩ := kept.ended hresults
  obtain ⟨n, hn⟩ := List.mem_iff_getElem?.mp hr
  have hbound : n < inputs.length := hlength ▸ (List.getElem?_eq_some_iff.mp hn).1
  obtain ⟨p, hjob, hend, stands⟩ := hended n inputs[n] r (List.getElem?_eq_getElem hbound) hn
  have hinput : r.job.inputId = inputs[n] := by rw [← hjob, stands.job_eq, jobFor]
  rw [hinput, ← hjob]
  exact stands.exists_verdict hend

end Ended

end LocaleGen.CommandLine
