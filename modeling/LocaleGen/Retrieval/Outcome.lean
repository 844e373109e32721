import LocaleGen.Retrieval.Client

/-!
# What a retrieval should come to

`Client.Answers` and `Client.Breaks` say what the redirects from an address end with: a response
that sends the client nowhere else, or a failure of the transport. `Client.Retrieves` says what
becomes of either: a response that is no error gives its content, and everything else is refused by
a failure that reports the address, and the status if there is one.
-/

namespace LocaleGen

/-! ## Responses and reports -/

namespace Response

def isSuccess (r : Response) : Bool := 200 ≤ r.status && r.status ≤ 299

/-- A status that is neither a success nor an error, such as one of a redirect without a target. -/
def isNeither (r : Response) : Bool := !r.isSuccess && !r.isError

theorem isError_eq_false_iff {r : Response} :
    r.isError = false ↔ r.isSuccess = true ∨ r.isNeither = true := by
  unfold isNeither isSuccess isError
  constructor
  · intro h
    by_cases hs : (200 ≤ r.status && r.status ≤ 299) = true
    · exact .inl hs
    · exact .inr (by rw [h, Bool.eq_false_iff.mpr hs]; rfl)
  · rintro (h | h)
    · simp only [Bool.and_eq_true, decide_eq_true_eq] at h
      simp only [Bool.and_eq_false_iff, decide_eq_false_iff_not]
      omega
    · simp only [Bool.and_eq_true, Bool.not_eq_true'] at h
      exact h.2

end Response

/-- A failure of retrieval that reports an address and a status, as far as there are any. -/
structure Cause.Reports (c : Cause) (url : Option Text) (status : Option Nat) : Prop where
  kind : c.kind = .retrieval
  own : ∀ time, (c.failure time []).own =
    ([("status_code", status.elim .null fun n => .int (n : Int)), ("url", .ofText? url)] :
      List (Text × Json))

def Awaited.content? {α : Type} (o : Awaited α) : Option α :=
  match o with
  | .done (.ok a) => some a
  | _ => none

@[simp] theorem Awaited.content?_eq_some {α : Type} {o : Awaited α} {a : α} :
    o.content? = some a ↔ o = .done (.ok a) := by
  rcases o with (f | b) | _ <;> simp [content?]

namespace Client

/-! ## Where redirects lead -/

/-- As many redirects lead from one address to another. -/
inductive Redirects (routes : RouteTable) : Nat → Url → Url → Prop
  | here (url : Url) : Redirects routes 0 url url
  | go {n : Nat} {url target last : Url} {r : Response} : routes.find url.render = .reply r →
      next url r = .ok (.go target) → Redirects routes n target last →
        Redirects routes (n + 1) url last

/-- The redirects from an address, `left` of them at most, end with a response that sends the client
nowhere else. -/
def EndsWith (routes : RouteTable) (left : Nat) (url : Url) (r : Response) : Prop :=
  ∃ n ≤ left, ∃ last, Redirects routes n url last ∧ routes.find last.render = .reply r ∧
    next last r = .ok .stop

/-- The redirects from an address end with a failure of the transport, or there are more of them
than `left`. -/
inductive BreaksOff (routes : RouteTable) (left : Nat) (url : Url) : Text → Prop
  | transport {n : Nat} {last : Url} {detail : Text} : n ≤ left → Redirects routes n url last →
      routes.find last.render = .broken detail → BreaksOff routes left url detail
  | lost {n : Nat} {last : Url} {r : Response} {detail : Text} :
      n ≤ left → Redirects routes n url last →
      routes.find last.render = .reply r → next last r = .ok (.lost detail) →
      BreaksOff routes left url ("Invalid URL in location header: " ++ detail ++ ".")
  | exhausted {last : Url} : Redirects routes (left + 1) url last →
      BreaksOff routes left url "Exceeded maximum allowed redirects."

/-! ## What becomes of a request -/

variable (client : Client) (url : Text) (query : Option Text)

def Answers (r : Response) : Prop :=
  ∃ parsed, address url query = .ok parsed ∧ EndsWith client.routes redirectLimit parsed r

/-- The transport fails before there is a final response to a request. -/
def Breaks (detail : Text) : Prop :=
  ∃ parsed, address url query = .ok parsed ∧ BreaksOff client.routes redirectLimit parsed detail

/-- What a request for the content that `read` finds in a response should come to. -/
structure Retrieves {α : Type} (read : Response → Except Fault α) (o : Awaited α) : Prop where
  /-- Content comes from a final response that is no error, and from nothing else. -/
  content : ∀ a, o.content? = some a ↔
    ∃ r, client.Answers url query r ∧ (r.isSuccess = true ∨ r.isNeither = true) ∧ read r = .ok a
  status : ∀ r body, client.Answers url query r → r.isError = true → r.text = .ok body →
    ∃ c, o = .done (.error (.cause c)) ∧ c.Reports (some url) (some r.status)
  unquotable : ∀ r f, client.Answers url query r → r.isError = true → r.text = .error f →
    o = .done (.error f)
  transport : ∀ detail, client.Breaks url query detail →
    ∃ c, o = .done (.error (.cause c)) ∧ c.Reports (some url) none

end Client

end LocaleGen
