import LocaleGen.Pass.Run

/-!
# Ledgers

A `Ledger` is a host that keeps account: it has every input at hand, and it writes down each line of
the build log, each request, each connection that was closed and each output.
-/

namespace LocaleGen

variable [NestingLimits]

/-- An input of a pass and the fate of its output. -/
structure Desk where
  content : Except Fault Text
  /-- What keeps the output from being written. -/
  writeFault : Option Fault

/-- What passes have done. -/
structure Ledger where
  entries : List LogEntry
  requests : List Text
  closed : Nat
  outputs : List (Nat × Text × Text)

namespace Ledger

def empty : Ledger := ⟨[], [], 0, []⟩

/-- The fate of an output. -/
def written (desk : Desk) : Except Fault Unit :=
  match desk.writeFault with
  | some f => .error f
  | none => .ok ()

/-- Does what a pass asks for and writes it down. -/
def perform (service : Service) (desks : List Desk) (s : Ledger) (number : Nat) (e : Effect) :
    Ledger × Option Signal :=
  match e with
  | .log entry => ({ s with entries := s.entries ++ [entry] }, none)
  | .read => (s, (desks[number]?).map fun d => .content d.content)
  | .disconnect => ({ s with closed := s.closed + 1 }, none)
  | .write output content =>
    match desks[number]? with
    | none => (s, none)
    | some d =>
      match written d with
      | .ok () =>
        ({ s with outputs := s.outputs ++ [(number, output.render, content)] },
          some (.written (.ok ())))
      | .error f => (s, some (.written (.error f)))
  | e =>
    let (requests, signal) := service.serve e
    ({ s with requests := s.requests ++ requests }, signal)

def host (service : Service) (desks : List Desk) : Host Ledger := ⟨perform service desks⟩

def outputsOf (s : Ledger) (number : Nat) : List (Text × Text) :=
  (s.outputs.filter fun o => o.1 = number).map Prod.snd

end Ledger

end LocaleGen
