import LocaleGen.Pass.Step
import LocaleGen.Retrieval.Client

/-!
# Runs of a pass

A `Host` does what passes ask for and tells them what came of it. A `Running` pass is one with the
signals that have arrived for it; `Running.drive` lets it answer them one after the other until none
is left.

Every answer brings a pass nearer to its end or asks for nothing (`Job.step_progress`), so a pass
comes to rest whatever the host does.
-/

namespace LocaleGen

/-! ## Progress -/

namespace PassState

/-- How many kinds of states can still follow. -/
def height (s : PassState) : Nat :=
  match s with
  | reading => 6
  | connecting _ => 5
  | resolving _ => 4
  | fetchingDefault .. => 3
  | fetchingBundle .. => 2
  | stopping .. | persisting _ => 1
  | finished _ | cancelled => 0

def fetches (s : PassState) : Nat :=
  match s with
  | fetchingBundle _ waiting running _ => waiting.length + running.length
  | stopping _ running => running.length
  | _ => 0

end PassState

/-- A move from the state `s` that brings the pass nearer to its end, or leaves it where it is and
asks for nothing. -/
def Progresses (s : PassState) (m : Move) : Prop :=
  m.1.height < s.height ∨ m.1.height = s.height ∧ m.1.fetches < s.fetches ∨
    m.1.height = s.height ∧ m.1.fetches = s.fetches ∧ m.2 = []

namespace Job

@[simp] theorem height_settle (job : Job) (reason : Abandonment) :
    (job.settle reason).1.height = 0 := by
  cases reason <;> rfl

theorem height_assemble (job : Job) (b : Bundling) (received : List (Nat × Text)) :
    (job.assemble b received).1.height ≤ 1 := by
  unfold assemble
  split
  · exact Nat.zero_le 1
  · exact Nat.le_refl 1

theorem height_abandon (job : Job) (reason : Abandonment) (running : List Nat) :
    (job.abandon reason running).1.height ≤ 1 := by
  unfold abandon
  split
  · exact Nat.le_succ_of_le (Nat.le_of_eq (job.height_settle reason))
  · exact Nat.le_refl 1

theorem height_request (job : Job) (b : Bundling) (waiting : List Nat)
    (received : List (Nat × Text)) : (job.request b waiting received).1.height ≤ 2 := by
  unfold request
  split
  · exact Nat.le_succ_of_le (job.height_assemble b received)
  · split <;> exact Nat.le_refl 2

theorem fetches_request (job : Job) (b : Bundling) (waiting : List Nat)
    (received : List (Nat × Text)) :
    (job.request b waiting received).1.height < 2 ∨
      (job.request b waiting received).1.height = 2 ∧
        (job.request b waiting received).1.fetches ≤ waiting.length := by
  unfold request
  split
  · exact .inl (Nat.lt_succ_of_le (job.height_assemble b received))
  · refine .inr ?_
    split <;> simp [PassState.height, PassState.fetches]

theorem receive_progress (job : Job) (b : Bundling) (waiting running : List Nat)
    (received : List (Nat × Text)) (place : Nat) (r : Except Fault Text) (h : place ∈ running) :
    Progresses (.fetchingBundle b waiting running received)
      (job.receive b waiting (running.erase place) received place r) := by
  have length := List.length_erase_of_mem h
  have positive := List.length_pos_of_mem h
  unfold receive
  split
  · exact .inl (Nat.lt_succ_of_le (job.height_abandon _ _))
  · next payload =>
    dsimp only
    split
    · rcases job.fetches_request b waiting ((place, payload) :: received) with low | ⟨same, few⟩
      · exact .inl low
      · refine .inr (.inl ⟨same, Nat.lt_of_le_of_lt few ?_⟩)
        simp only [PassState.fetches]
        omega
    · refine .inr (.inl ⟨rfl, ?_⟩)
      simp only [PassState.fetches, length]
      omega

/-- To wait for some of the fetches, or for all of them, brings the pass nearer to its end or asks
for nothing. -/
theorem await_progress (job : Job) (old reason : Abandonment) {running left : List Nat}
    (fewer : left.length < running.length ∨ left = running) :
    Progresses (.stopping old running) (job.await reason left) := by
  unfold await
  split
  · exact .inl (Nat.lt_succ_of_le (Nat.le_of_eq (job.height_settle reason)))
  · rcases fewer with fewer | rfl
    · exact .inr (.inl ⟨rfl, fewer⟩)
    · exact .inr (.inr ⟨rfl, rfl, rfl⟩)

theorem length_erase_lt_or_eq (running : List Nat) (place : Nat) :
    (running.erase place).length < running.length ∨ running.erase place = running := by
  by_cases h : place ∈ running
  · have length := List.length_erase_of_mem h
    have positive := List.length_pos_of_mem h
    exact .inl (by omega)
  · exact .inr (List.erase_of_not_mem h)

theorem cancel_progress (job : Job) (s : PassState) (unheard : Option (Nat × Fault)) :
    Progresses s (job.cancel s unheard) := by
  cases s with
  | fetchingBundle b waiting running received =>
    exact .inl (Nat.lt_succ_of_le (job.height_abandon _ _))
  | stopping reason running =>
    cases unheard with
    | none => exact job.await_progress _ _ (.inr rfl)
    | some failure => exact job.await_progress _ _ (length_erase_lt_or_eq running failure.1)
  | finished o => exact .inr (.inr ⟨rfl, rfl, rfl⟩)
  | cancelled => exact .inr (.inr ⟨rfl, rfl, rfl⟩)
  | reading | connecting | resolving | fetchingDefault | persisting =>
    exact .inl (by simp [cancel, PassState.height])

variable [NestingLimits]

/-- Every answer brings the pass nearer to its end, or leaves it where it is and asks for
nothing. -/
theorem step_progress (job : Job) (s : PassState) (signal : Signal) :
    Progresses s (job.step s signal) := by
  unfold step
  split
  · exact job.cancel_progress _ _
  · split
    · exact .inl (by decide : 0 < 6)
    · exact .inl (by decide : 5 < 6)
  · split
    · exact .inl (by decide : 0 < 5)
    · exact .inl (by decide : 4 < 5)
  · unfold resolve
    split
    · exact .inl (by decide : 0 < 4)
    · split
      · exact .inl (by decide : 0 < 4)
      · exact .inl (by decide : 3 < 4)
  · split
    · unfold decodeDefault
      split
      · exact .inl (by decide : 0 < 3)
      · split
        · exact .inl (by decide : 0 < 3)
        · exact .inl (Nat.lt_succ_of_le (job.height_request _ _ _))
    · exact .inr (.inr ⟨rfl, rfl, rfl⟩)
  · split
    · next h => exact job.receive_progress _ _ _ _ _ _ h
    · exact .inr (.inr ⟨rfl, rfl, rfl⟩)
  · split
    · exact job.await_progress _ _ (length_erase_lt_or_eq _ _)
    · exact .inr (.inr ⟨rfl, rfl, rfl⟩)
  · split
    · exact job.await_progress _ _ (length_erase_lt_or_eq _ _)
    · exact .inr (.inr ⟨rfl, rfl, rfl⟩)
  · split
    · exact .inl (by decide : 0 < 1)
    · exact .inl (by decide : 0 < 1)
  · exact .inr (.inr ⟨rfl, rfl, rfl⟩)

end Job

variable [NestingLimits]

/-! ## Hosts -/

/-- What surrounds passes: it does what the pass with a number asks for, and may have an answer. -/
structure Host (σ : Type) where
  perform : σ → Nat → Effect → σ × Option Signal

/-- Does one thing after the other. -/
def Host.performAll {σ : Type} (host : Host σ) (number : Nat) (s : σ) (effects : List Effect) :
    σ × List Signal :=
  match effects with
  | [] => (s, [])
  | e :: rest =>
    let (s, signal) := host.perform s number e
    let (s, signals) := host.performAll number s rest
    (s, signal.toList ++ signals)

/-! ## Driving a pass -/

/-- A pass that has begun, and the signals that have arrived for it. -/
structure Running where
  job : Job
  state : PassState
  inbox : List Signal

namespace Running

variable {σ : Type}

def moved (host : Host σ) (number : Nat) (s : σ) (job : Job) (m : Move) (inbox : List Signal) :
    σ × Running :=
  let (s, arrived) := host.performAll number s m.2
  (s, ⟨job, m.1, inbox ++ arrived⟩)

def start (host : Host σ) (number : Nat) (s : σ) (job : Job) : σ × Running :=
  moved host number s job job.begin []

/-- Lets the pass answer what arrives for it, as long as `goesOn` holds. -/
def drive (host : Host σ) (number : Nat) (goesOn : Running → Bool) (s : σ) (p : Running) :
    σ × Running :=
  match _arrived : p.inbox with
  | [] => (s, p)
  | signal :: rest =>
    if goesOn p then
      let next := moved host number s p.job (p.job.step p.state signal) rest
      drive host number goesOn next.1 next.2
    else (s, p)
termination_by (p.state.height, p.state.fetches, p.inbox.length)
decreasing_by
  rcases p.job.step_progress p.state signal with lower | ⟨same, fewer⟩ | ⟨same, equal, quiet⟩
  · exact Prod.Lex.left _ _ lower
  · simp only [moved, same]
    exact Prod.Lex.right _ (Prod.Lex.left _ _ fewer)
  · simp only [moved, same, equal, quiet, Host.performAll, List.append_nil, _arrived]
    exact Prod.Lex.right _ (Prod.Lex.right _ (by simp))

def result? (p : Running) : Option PassResult := p.state.outcome?.map fun o => ⟨p.job, o⟩

end Running

/-! ## The service -/

structure Service where
  baseUrl : Text
  routes : RouteTable

namespace Service

def tell {α : Type} (signal : Except Fault α → Signal) (e : Exchange α) :
    List Text × Option Signal :=
  match e.outcome with
  | .done r => (e.requests, some (signal r))
  | .never => (e.requests, none)

/-- The requests that the service gets when a pass asks for something, and the answer of the pass's
connection. -/
def serve (service : Service) (e : Effect) : List Text × Option Signal :=
  let connect (c : Credentials) := Client.connect c service.baseUrl service.routes
  match e with
  | .connect c => ([], some (.connected ((connect c).map fun _ => ())))
  | .requestIndex c =>
    match connect c with
    | .error f => ([], some (.index (.error f)))
    | .ok client => tell .index client.fetchIndex
  | .requestPayload c place entry =>
    match connect c with
    | .error f => ([], some (.payload place (.error f)))
    | .ok client => tell (.payload place) (client.fetchPayload entry)
  | .stop place => ([], some (.stopped place))
  | _ => ([], none)

end Service

end LocaleGen
