import LocaleGen.Proofs.Ledger
import LocaleGen.Proofs.Verdict
import Mathlib

/-!
# Passes of a batch are independent

Every step of a batch lowers the rank of one pass and leaves the others as they are, so no
interleaving goes on forever (`Batch.wellFounded_step`). If the host separates the passes, each of
them is on a course of its own in every interleaving (`Batch.apart_of_reaches`). Together:
`passes_independent`.
-/

namespace LocaleGen

variable {σ : Type}

/-! ## Termination -/

def Seat.rank (seat : Seat) : ℕ ×ₗ ℕ ×ₗ ℕ :=
  match seat with
  | .waiting _ => toLex (7, toLex (0, 0))
  | .begun p => p.state.rank p.inbox

namespace Batch

variable [NestingLimits]

/-- A pass that goes on comes nearer to its end. -/
theorem Step.rank_lt {host : Host σ} {b b' : σ × List Seat} (h : Step host b b') :
    ∃ n seat seat', b.2[n]? = some seat ∧ b'.2 = b.2.set n seat' ∧ seat'.rank < seat.rank := by
  cases h with
  | @start s seats n job hseat =>
    refine ⟨n, _, _, hseat, rfl, Prod.Lex.toLex_lt_toLex.mpr (.inl ?_)⟩
    show job.begin.1.height < 7
    unfold Job.begin
    split
    · exact (by decide : 6 < 7)
    · exact (by decide : 0 < 7)
  | @answer s seats n job state before signal after hseat =>
    exact ⟨n, _, _, hseat, rfl, job.rank_step state before signal fun silent => by rw [silent]; rfl⟩

/-- No interleaving goes on forever. -/
theorem wellFounded_step (host : Host σ) : WellFounded fun next b => Step host b next := by
  refine Subrelation.wf (fun {next b} h => ?_)
    (InvImage.wf (fun b : σ × List Seat => (b.2.map Seat.rank : Multiset (ℕ ×ₗ ℕ ×ₗ ℕ)))
      (WellFounded.cutExpand wellFounded_lt))
  obtain ⟨n, seat, seat', hseat, hset, lower⟩ := h.rank_lt
  obtain ⟨hbound, hat⟩ := List.getElem?_eq_some_iff.mp hseat
  refine ⟨{seat'.rank}, seat.rank, by simpa using lower, ?_⟩
  show (next.2.map Seat.rank : Multiset (ℕ ×ₗ ℕ ×ₗ ℕ)) + {seat.rank} =
    b.2.map Seat.rank + {seat'.rank}
  have same : (seat :: next.2).Perm (seat' :: b.2) := by
    rw [hset]
    calc
      (seat :: b.2.set n seat').Perm (seat :: seat' :: b.2.eraseIdx n) :=
        (List.set_perm_cons_eraseIdx hbound seat').cons seat
      List.Perm _ (seat' :: seat :: b.2.eraseIdx n) := List.Perm.swap _ _ _
      List.Perm _ (seat' :: b.2) := by
        rw [← hat]
        exact (List.getElem_cons_eraseIdx_perm hbound).cons seat'
  have ranks := Multiset.coe_eq_coe.mpr (same.map Seat.rank)
  rw [List.map_cons, List.map_cons, ← Multiset.cons_coe, ← Multiset.cons_coe] at ranks
  rw [add_comm, Multiset.singleton_add, ranks, add_comm, Multiset.singleton_add]

end Batch

/-! ## Hosts that separate the passes -/

namespace Host.Separates

variable {host : Host σ} {count : Nat} {worlds : Nat → World}
    {outputs : σ → Nat → List (Text × Text)} {n : Nat}

theorem replies (h : host.Separates count worlds outputs) (hn : n < count) (s : σ)
    (effects : List Effect) :
    (host.performAll n s effects).2 = effects.filterMap (worlds n).reply := by
  induction effects generalizing s with
  | nil => rfl
  | cons e rest ih =>
    simp only [Host.performAll, ih, h.reply s e n hn]
    cases hreply : (worlds n).reply e <;> simp [hreply]

theorem outputs_own (h : host.Separates count worlds outputs) (hn : n < count) (s : σ)
    (effects : List Effect) :
    outputs (host.performAll n s effects).1 n =
      outputs s n ++ effects.filterMap (worlds n).output? := by
  induction effects generalizing s with
  | nil => simp [Host.performAll]
  | cons e rest ih =>
    simp only [Host.performAll, ih, h.own s e n hn]
    cases houtput : (worlds n).output? e <;> simp [houtput]

theorem outputs_others (h : host.Separates count worlds outputs) (hn : n < count) {m : Nat}
    (hm : m ≠ n) (s : σ) (effects : List Effect) :
    outputs (host.performAll n s effects).1 m = outputs s m := by
  induction effects generalizing s with
  | nil => rfl
  | cons e rest ih => rw [Host.performAll, ih, h.others s e n hn m hm]

theorem moved_eq (h : host.Separates count worlds outputs) (hn : n < count) (s : σ)
    (job : Job) (m : Move) (inbox : List Signal) :
    (Running.moved host n s job m inbox).2 =
      ⟨job, m.1, inbox ++ m.2.filterMap (worlds n).reply⟩ := by
  show Running.mk job m.1 (inbox ++ (host.performAll n s m.2).2) = _
  rw [h.replies hn]

end Host.Separates

/-! ## Courses of one pass -/

theorem Course.outputs_moved (w : World) (inbox : List Signal) (history : List Event) (m : Move) :
    (Course.moved w inbox history m).outputs w =
      (Course.effectsOf history).filterMap w.output? ++ m.2.filterMap w.output? := by
  unfold Course.outputs Course.effects Course.moved
  have own : (Course.effectsOf (m.2.map .asked)).filterMap w.output? = m.2.filterMap w.output? := by
    rw [Course.effectsOf, List.filterMap_filterMap, List.filterMap_map]
    refine List.filterMap_congr fun e _ => ?_
    cases e <;> rfl
  rw [Course.effectsOf_append, List.filterMap_append, own]

/-- A pass stands where a course of its own in the world `w` has led it, and has left behind the
outputs `written`. -/
inductive Seat.Follows [NestingLimits] (w : World) (job : Job)
    (written : List (Text × Text)) : Seat → Prop
  | waiting : written = [] → Seat.Follows w job written (.waiting job)
  | begun {c : Course} : Course.Reaches w job (Course.start w job) c → written = c.outputs w →
      Seat.Follows w job written (.begun ⟨job, c.state, c.inbox⟩)

theorem Running.result?_eq_some {p : Running} {r : PassResult} (h : p.result? = some r) :
    p.job = r.job ∧ p.state = .finished r.outcome := by
  obtain ⟨o, ho, rfl⟩ := Option.map_eq_some_iff.mp h
  refine ⟨rfl, ?_⟩
  cases hstate : p.state <;> rw [hstate] at ho <;> cases ho
  rfl

namespace Batch

variable {host : Host σ} {worlds : Nat → World} {outputs : σ → Nat → List (Text × Text)}
    {jobs : List Job} {s₀ : σ}

section

variable [NestingLimits]

/-- Every pass of a batch follows a course of its own. -/
structure Apart (worlds : Nat → World) (outputs : σ → Nat → List (Text × Text))
    (jobs : List Job) (s₀ : σ)
    (b : σ × List Seat) : Prop where
  length : b.2.length = jobs.length
  follows : ∀ n job seat, jobs[n]? = some job → b.2[n]? = some seat →
    ∃ written, outputs b.1 n = outputs s₀ n ++ written ∧ seat.Follows (worlds n) job written

theorem Apart.start : Apart worlds outputs jobs s₀ (s₀, jobs.map .waiting) where
  length := by simp
  follows n job seat hjob hseat := by
    rw [List.getElem?_map, hjob, Option.map_some] at hseat
    cases hseat
    exact ⟨[], (List.append_nil _).symm, .waiting rfl⟩

/-- One pass moves, and the others are left alone. -/
theorem Apart.set {b : σ × List Seat} (h : Apart worlds outputs jobs s₀ b) {n : Nat}
    {seat seat' : Seat} {s' : σ} (hseat : b.2[n]? = some seat)
    (others : ∀ m ≠ n, outputs s' m = outputs b.1 m)
    (own : ∀ job written, outputs b.1 n = outputs s₀ n ++ written →
      seat.Follows (worlds n) job written →
      ∃ more, outputs s' n = outputs s₀ n ++ more ∧ seat'.Follows (worlds n) job more) :
    Apart worlds outputs jobs s₀ (s', b.2.set n seat') where
  length := by simpa using h.length
  follows m job found hjob hfound := by
    refine forall_set (P := fun m found => ∀ job, jobs[m]? = some job →
      ∃ written, outputs s' m = outputs s₀ m ++ written ∧
        found.Follows (worlds m) job written) ?_ ?_ hfound job hjob
    · intro job hjob
      obtain ⟨written, hwritten, follows⟩ := h.follows n job seat hjob hseat
      exact own job written hwritten follows
    · intro m hm found hfound job hjob
      obtain ⟨written, hwritten, follows⟩ := h.follows m job found hjob hfound
      exact ⟨written, (others m hm).trans hwritten, follows⟩

theorem Apart.step (separate : host.Separates jobs.length worlds outputs) {b b' : σ × List Seat}
    (h : Apart worlds outputs jobs s₀ b) (s : Step host b b') :
    Apart worlds outputs jobs s₀ b' := by
  cases s with
  | @start s seats n job hseat =>
    have hn : n < jobs.length := h.length ▸ (List.getElem?_eq_some_iff.mp hseat).1
    refine h.set hseat (fun m hm => separate.outputs_others hn hm s _)
      fun job' written hwritten follows => ?_
    cases follows with
    | waiting none =>
      subst none
      refine ⟨job.begin.2.filterMap (worlds n).output?, ?_, ?_⟩
      · rw [← List.append_nil (outputs s₀ n), ← hwritten]
        exact separate.outputs_own hn s job.begin.2
      · rw [Running.start, separate.moved_eq hn]
        have first : Course.Reaches (worlds n) job (Course.start (worlds n) job) (Course.start
          (worlds n) job) := .refl
        exact .begun first (Course.outputs_moved (worlds n) [] [] job.begin).symm
  | @answer s seats n job state before signal after hseat =>
    have hn : n < jobs.length := h.length ▸ (List.getElem?_eq_some_iff.mp hseat).1
    refine h.set hseat (fun m hm => separate.outputs_others hn hm s _)
      fun job' written hwritten follows => ?_
    generalize hp : (⟨job, state, before ++ signal :: after⟩ : Running) = p at follows
    cases follows with
    | @begun c reached left =>
      obtain ⟨rfl, rfl, inbox⟩ := Running.mk.inj hp
      obtain ⟨state, _, history⟩ := c
      subst inbox
      have next : Course.Reaches (worlds n) job (Course.start (worlds n) job)
          (Course.moved (worlds n) (before ++ after) (history ++ [.told signal])
            (job.step state signal)) :=
        Relation.ReflTransGen.tail reached (.answer state before signal after history)
      refine ⟨written ++ (job.step state signal).2.filterMap (worlds n).output?, ?_, ?_⟩
      · rw [← List.append_assoc, ← hwritten]
        exact separate.outputs_own hn s (job.step state signal).2
      · rw [separate.moved_eq hn]
        refine .begun next ?_
        rw [Course.outputs_moved, Course.effectsOf_append, left]
        simp [Course.outputs, Course.effects, Course.effectsOf]

/-- In every interleaving every pass follows a course of its own. -/
theorem apart_of_reaches (separate : host.Separates jobs.length worlds outputs) {b : σ × List Seat}
    (h : Reaches host (s₀, jobs.map .waiting) b) : Apart worlds outputs jobs s₀ b := by
  induction h with
  | refl => exact .start
  | tail _ s ih => exact ih.step separate s

end

/-! ## Passes that have ended -/

theorem exists_passes {P : Running → Prop} {seats : List Seat}
    (h : ∀ seat ∈ seats, ∃ p, seat = .begun p ∧ P p) :
    ∃ passes : List Running, seats = passes.map .begun ∧ ∀ p ∈ passes, P p := by
  induction seats with
  | nil => exact ⟨[], rfl, by simp⟩
  | cons seat rest ih =>
    obtain ⟨⟨p, rfl, hp⟩, hrest⟩ := List.forall_mem_cons.mp h
    obtain ⟨passes, rfl, hpasses⟩ := ih hrest
    exact ⟨p :: passes, rfl, List.forall_mem_cons.mpr ⟨hp, hpasses⟩⟩

/-- If no pass can go on, every pass has begun and has been told all that has arrived for it. -/
theorem idle_of_stuck [NestingLimits] {s : σ} {seats : List Seat}
    (stuck : ∀ next, ¬ Step host (s, seats) next) :
    ∃ passes : List Running, seats = passes.map .begun ∧ ∀ p ∈ passes, p.inbox = [] := by
  refine exists_passes fun seat hseat => ?_
  obtain ⟨n, hn⟩ := List.mem_iff_getElem?.mp hseat
  cases seat with
  | waiting job => exact absurd (.start hn) (stuck _)
  | begun p =>
    obtain ⟨job, state, _ | ⟨signal, after⟩⟩ := p
    · exact ⟨_, rfl, rfl⟩
    · rw [← List.nil_append (signal :: after)] at hn
      exact absurd (.answer hn) (stuck _)

theorem stuck_of_idle [NestingLimits] {s : σ} {passes : List Running}
    (idle : ∀ p ∈ passes, p.inbox = []) (next : σ × List Seat) :
    ¬ Step host (s, passes.map .begun) next := by
  intro step
  cases step with
  | start hseat => simp at hseat
  | answer hseat =>
    obtain ⟨p, hp, heq⟩ := List.getElem?_map ▸ hseat |> Option.map_eq_some_iff.mp
    have empty := idle p (List.mem_of_getElem? hp)
    cases heq
    simp at empty

theorem exists_results {passes : List Running} (h : ∀ p ∈ passes, ∃ r, p.result? = some r) :
    ∃ results, results? passes = some results ∧
    List.Forall₂ (fun p r => p.result? = some r) passes results := by
  induction passes with
  | nil => exact ⟨[], rfl, .nil⟩
  | cons p rest ih =>
    obtain ⟨⟨r, hr⟩, hrest⟩ := List.forall_mem_cons.mp h
    obtain ⟨results, hresults, related⟩ := ih hrest
    refine ⟨r :: results, ?_, .cons hr related⟩
    rw [results?] at hresults ⊢
    simp [List.mapM_cons, hr, hresults]

theorem forall₂_of_results {passes : List Running} {results : List PassResult}
    (h : results? passes = some results) :
    List.Forall₂ (fun p r => p.result? = some r) passes results := by
  induction passes generalizing results with
  | nil =>
    cases h
    exact .nil
  | cons p rest ih =>
    rw [results?, List.mapM_cons] at h
    obtain ⟨r, hr, h⟩ := Option.bind_eq_some_iff.mp h
    obtain ⟨later, hlater, h⟩ := Option.bind_eq_some_iff.mp h
    cases h
    exact .cons hr (ih hlater)

/-! ## Taking turns -/

section

variable [NestingLimits]

theorem Reaches.trans {b b' b'' : σ × List Seat} (h : Reaches host b b')
    (h' : Reaches host b' b'') : Reaches host b b'' :=
  Relation.ReflTransGen.trans h h'

theorem reaches_drive (goesOn : Running → Bool) (s : σ) (p : Running) (before after : List Seat) :
    Reaches host (s, before ++ .begun p :: after)
      ((p.drive host before.length goesOn s).1,
        before ++ .begun (p.drive host before.length goesOn s).2 :: after) := by
  fun_induction Running.drive host before.length goesOn s p with
  | case1 s p arrived => exact .refl
  | case2 s p signal rest arrived goes next ih =>
    refine Relation.ReflTransGen.head ?_ ih
    have hseat : (before ++ .begun p :: after)[before.length]? =
        some (.begun ⟨p.job, p.state, [] ++ signal :: rest⟩) := by
      simp [← arrived]
    have step : Step host (s, before ++ .begun p :: after) _ := .answer hseat
    simpa using step
  | case3 s p signal rest arrived stays => exact .refl

theorem reaches_takeTurn (turn : Nat) (s : σ) (before : List Seat) (passes : List Running) :
    Reaches host (s, before ++ passes.map .begun)
      ((takeTurn host turn before.length s passes).1,
        before ++ (takeTurn host turn before.length s passes).2.map .begun) := by
  induction passes generalizing s before with
  | nil => exact .refl
  | cons p rest ih =>
    refine (reaches_drive (fun p => delay p ≤ turn) s p before (rest.map .begun)).trans ?_
    have later :=
      ih (drive host turn before.length s p).1 (before ++ [.begun (drive host turn before.length s p).2])
    simpa [takeTurn, drive] using later

theorem reaches_launch (s : σ) (before : List Seat) (jobs : List Job) :
    Reaches host (s, before ++ jobs.map .waiting)
      ((launch host before.length s jobs).1,
        before ++ (launch host before.length s jobs).2.map .begun) := by
  induction jobs generalizing s before with
  | nil => exact .refl
  | cons job rest ih =>
    have hseat : (before ++ .waiting job :: rest.map .waiting)[before.length]? =
      some (.waiting job) := by simp
    have step : Step host (s, before ++ .waiting job :: rest.map .waiting) _ := .start hseat
    rw [List.set_append_right _ _ (Nat.le_refl _), Nat.sub_self, List.set_cons_zero] at step
    have started : Reaches host _ _ := Relation.ReflTransGen.single step
    refine started.trans ((reaches_drive (fun p => delay p ≤ 0) _ _ before (rest.map .waiting)).trans ?_)
    have later := ih (drive host 0 before.length (Running.start host before.length s job).1
      (Running.start host before.length s job).2).1 (before ++ [.begun (drive host 0 before.length
        (Running.start host before.length s job).1 (Running.start host before.length s job).2).2])
    simpa [launch, drive] using later

theorem reaches_takeTurns (left turn : Nat) (s : σ) (passes : List Running) :
    Reaches host (s, passes.map .begun)
      ((takeTurns host left turn s passes).1,
        (takeTurns host left turn s passes).2.map .begun) := by
  induction left generalizing turn s passes with
  | zero => exact .refl
  | succ left ih => exact (reaches_takeTurn turn s [] passes).trans (ih _ _ _)

theorem reaches_run (s : σ) (jobs : List Job) :
    Reaches host (s, jobs.map .waiting) ((run host s jobs).1, (run host s jobs).2.map .begun) :=
  (reaches_launch s [] jobs).trans (reaches_takeTurns _ _ _ _)

end

theorem delay_le_lastTurn (p : Running) : delay p ≤ lastTurn := by
  unfold delay lastTurn
  split
  · split
    · exact Nat.zero_le 3
    · split
      · decide
      · split <;> decide
  · exact Nat.zero_le 3

section

variable [NestingLimits]

theorem inbox_drive {goesOn : Running → Bool} (always : ∀ p, goesOn p = true) (number : Nat)
    (s : σ) (p : Running) : (p.drive host number goesOn s).2.inbox = [] := by
  fun_induction Running.drive host number goesOn s p with
  | case1 s p arrived => exact arrived
  | case2 s p signal rest arrived goes next ih => exact ih
  | case3 s p signal rest arrived stays => exact absurd (always p) stays

theorem inbox_takeTurn (number : Nat) (s : σ) (passes : List Running) :
    ∀ p ∈ (takeTurn host lastTurn number s passes).2, p.inbox = [] := by
  induction passes generalizing number s with
  | nil => simp [takeTurn]
  | cons p rest ih =>
    refine List.forall_mem_cons.mpr ⟨?_, ih _ _⟩
    exact inbox_drive (fun p => by simpa using delay_le_lastTurn p) number s p

theorem inbox_run (s : σ) (jobs : List Job) : ∀ p ∈ (run host s jobs).2, p.inbox = [] :=
  inbox_takeTurn _ _ _

/-! ## Results -/

def EndsAlone (w : World) (job : Job) (r : PassResult) (written : List (Text × Text)) : Prop :=
  ∃ c o, Course.Reaches w job (Course.start w job) c ∧ c.state = .finished o ∧ r = ⟨job, o⟩ ∧
    written = c.outputs w

/-- If a pass alone can end in one way only, its result and outputs are always the same. -/
theorem EndsAlone.unique {w : World} {job : Job} {r r' : PassResult}
    {written written' : List (Text × Text)} (h : EndsAlone w job r written)
    (h' : EndsAlone w job r' written') (alone : w.Determines job) :
    r' = r ∧ written' = written := by
  obtain ⟨c, o, reached, hend, rfl, rfl⟩ := h
  obtain ⟨c', o', reached', hend', rfl, rfl⟩ := h'
  obtain ⟨rfl, outputs⟩ :=
    ((Standing.of_reaches reached).verdict hend).determined
      ((Standing.of_reaches reached').verdict hend') alone
  exact ⟨rfl, outputs.symm⟩

/-- A pass that has nothing left to be told has ended as it may end alone. -/
theorem ends_of_follows {w : World} {job : Job} {written : List (Text × Text)} {p : Running}
    (h : Seat.Follows w job written (.begun p)) (idle : p.inbox = []) :
    ∃ r, p.result? = some r ∧ EndsAlone w job r written := by
  cases h with
  | @begun c reached left =>
    rcases (Standing.of_reaches reached).ends_or_steps with ⟨o, hend⟩ | ⟨next, step⟩
    · exact ⟨⟨job, o⟩, by simp [Running.result?, hend, PassState.outcome?], c, o, reached,
        hend, rfl, left⟩
    · cases step with
      | answer => simp at idle

/-- The results of a batch in which no pass can go on, one for each job and in their order. -/
theorem Apart.results {s : σ} {passes : List Running}
    (h : Apart worlds outputs jobs s₀ (s, passes.map .begun)) (idle : ∀ p ∈ passes, p.inbox = []) :
    ∃ results, results? passes = some results ∧ results.length = jobs.length ∧
      ∀ n job, jobs[n]? = some job → ∃ r written, results[n]? = some r ∧
        outputs s n = outputs s₀ n ++ written ∧ EndsAlone (worlds n) job r written := by
  have length : passes.length = jobs.length := by simpa using h.length
  have ends (n : Nat) (job : Job) (p : Running) (hjob : jobs[n]? = some job)
    (hp : passes[n]? = some p) :
      ∃ r written, p.result? = some r ∧ outputs s n = outputs s₀ n ++ written ∧
        EndsAlone (worlds n) job r written := by
    obtain ⟨written, hwritten, follows⟩ := h.follows n job (.begun p) hjob (by simp [hp])
    obtain ⟨r, hr, alone⟩ := ends_of_follows follows (idle p (List.mem_of_getElem? hp))
    exact ⟨r, written, hr, hwritten, alone⟩
  have all : ∀ p ∈ passes, ∃ r, p.result? = some r := by
    intro p hmem
    obtain ⟨n, hp⟩ := List.mem_iff_getElem?.mp hmem
    have hn : n < jobs.length := length ▸ (List.getElem?_eq_some_iff.mp hp).1
    obtain ⟨r, written, hr, -⟩ := ends n jobs[n] p (List.getElem?_eq_getElem hn) hp
    exact ⟨r, hr⟩
  obtain ⟨results, hresults, related⟩ := exists_results all
  refine ⟨results, hresults, related.length_eq.symm.trans length, fun n job hjob => ?_⟩
  have hn : n < passes.length := length ▸ (List.getElem?_eq_some_iff.mp hjob).1
  obtain ⟨r, written, hr, hwritten, alone⟩ :=
    ends n job passes[n] hjob (List.getElem?_eq_getElem hn)
  have same := related.get hn (related.length_eq ▸ hn)
  rw [List.get_eq_getElem, hr] at same
  exact ⟨r, written, by rw [List.getElem?_eq_getElem (related.length_eq ▸ hn), same]; rfl,
    hwritten, alone⟩

/-- The passes of a batch are independent: in every interleaving each of them does what it may do
alone. -/
theorem passes_independent (host : Host σ) (worlds : Nat → World)
    (outputs : σ → Nat → List (Text × Text)) (jobs : List Job) (s₀ : σ)
    (separate : host.Separates jobs.length worlds outputs) :
    -- every interleaving comes to an end, and taking turns is one of them
    (WellFounded fun next b => Step host b next) ∧
    Reaches host (s₀, jobs.map .waiting) ((run host s₀ jobs).1, (run host s₀ jobs).2.map .begun) ∧
    (∀ next, ¬ Step host ((run host s₀ jobs).1, (run host s₀ jobs).2.map .begun) next) ∧
    ∀ s seats, Reaches host (s₀, jobs.map .waiting) (s, seats) →
      -- on the way
      (∀ n job seat, jobs[n]? = some job → seats[n]? = some seat →
        ∃ written, outputs s n = outputs s₀ n ++ written ∧ seat.Follows (worlds n) job written) ∧
      -- at the end
      ((∀ next, ¬ Step host (s, seats) next) →
        ∃ passes results, seats = passes.map .begun ∧ results? passes = some results ∧
          results.length = jobs.length ∧
          ∀ n job, jobs[n]? = some job → ∃ r written, results[n]? = some r ∧
            outputs s n = outputs s₀ n ++ written ∧ EndsAlone (worlds n) job r written ∧
            ((worlds n).Determines job →
              ∀ r' written', EndsAlone (worlds n) job r' written' →
              r' = r ∧ written' = written)) := by
  refine ⟨wellFounded_step host, reaches_run s₀ jobs, stuck_of_idle (inbox_run s₀ jobs),
    fun s seats h => ?_⟩
  have apart := apart_of_reaches separate h
  refine ⟨apart.follows, fun stuck => ?_⟩
  obtain ⟨passes, rfl, idle⟩ := idle_of_stuck stuck
  obtain ⟨results, hresults, length, each⟩ := apart.results idle
  refine ⟨passes, results, rfl, hresults, length, fun n job hjob => ?_⟩
  obtain ⟨r, written, hr, hwritten, ends⟩ := each n job hjob
  exact ⟨r, written, hr, hwritten, ends, fun alone r' written' other => ends.unique other alone⟩

end

def unroutedService : Service := ⟨"https://nstack.io", Dict.empty⟩

def inputDesks : List Desk := [⟨.ok "nstack", none⟩, ⟨.ok [], none⟩]

def twoJobs : List Job :=
  [⟨"nstack.json", .default, [], .ofInt 0⟩, ⟨"other.json", .default, [], .ofInt 0⟩]

theorem passes_independent_twoJobs :
    (Ledger.host unroutedService inputDesks).Separates twoJobs.length
      (Ledger.worldOf unroutedService inputDesks) Ledger.outputsOf ∧
      ∃ results, results? (run (Ledger.host unroutedService inputDesks) .empty twoJobs).2 =
        some results ∧ results.length = 2 ∧
        ∀ n job, twoJobs[n]? = some job → ∃ r, results[n]? = some r ∧
          EndsAlone (Ledger.worldOf unroutedService inputDesks n) job r
            (Ledger.outputsOf (run (Ledger.host unroutedService inputDesks) .empty twoJobs).1 n) := by
  have answers : unroutedService.routes.Answers := fun url => by
    simp [unroutedService, RouteTable.find, Dict.get?, Dict.empty]
  have separate := Ledger.separates answers inputDesks
  obtain ⟨-, reached, stuck, every⟩ := passes_independent (Ledger.host unroutedService inputDesks)
    (Ledger.worldOf unroutedService inputDesks) Ledger.outputsOf twoJobs .empty separate
  obtain ⟨passes, results, hpasses, hresults, length, each⟩ := (every _ _ reached).2 stuck
  obtain rfl := List.map_injective_iff.mpr (fun p q h => Seat.begun.inj h) hpasses
  refine ⟨separate, results, hresults, length, fun n job hjob => ?_⟩
  obtain ⟨r, written, hr, hwritten, ends, -⟩ := each n job hjob
  exact ⟨r, hr, hwritten ▸ ends⟩

end Batch

end LocaleGen
