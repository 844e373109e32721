import LocaleGen.Pass.Interleaving
import LocaleGen.Pass.Ledger
import LocaleGen.Proofs.Result
import Mathlib

/-!
# Ledgers separate passes

If no request to the service is met with silence, every exchange has a result
(`Client.fetchIndex_answers`, `Client.fetchPayload_answers`), and a ledger is a host that separates
its passes: `Ledger.separates`.
-/

namespace LocaleGen

/-! ## Exchanges that have a result -/

namespace Exchange

variable {α β : Type}

def Answers (e : Exchange α) : Prop := ∃ r, e.outcome = .done r

theorem Answers.bind {e : Exchange α} (h : e.Answers) (f : α → Except Fault β) :
    (e.bind f).Answers := by
  obtain ⟨_ | a, hr⟩ := h <;> exact ⟨_, by rw [Exchange.bind, hr]⟩

def result (e : Exchange α) : Except Fault α :=
  match e.outcome with
  | .done r => r
  | .never => .error .notImplemented

theorem Answers.tell {e : Exchange α} (h : e.Answers) (signal : Except Fault α → Signal) :
    Service.tell signal e = (e.requests, some (signal e.result)) := by
  obtain ⟨r, hr⟩ := h
  simp [Service.tell, result, hr]

theorem tell_eq_some {e : Exchange α} {signal : Except Fault α → Signal} {s : Signal}
    (h : (Service.tell signal e).2 = some s) : signal e.result = s := by
  cases hr : e.outcome with
  | done r =>
    have told : some (signal r) = some s := by simpa [Service.tell, hr] using h
    simpa [result, hr] using told
  | never => simp [Service.tell, hr] at h

end Exchange

def RouteTable.Answers (routes : RouteTable) : Prop := ∀ url, routes.find url ≠ .silent

namespace Client

theorem follow_answers {routes : RouteTable} (h : routes.Answers) (left : Nat) (url : Url) :
    (follow routes left url).2 ≠ .silent := by
  fun_induction follow routes left url <;> simp_all [RouteTable.Answers]

theorem get_answers {client : Client} (h : client.routes.Answers) (url : Text)
    (query : Option Text) : (client.get url query).Answers := by
  unfold get
  split
  · exact ⟨_, rfl⟩
  · next parsed _ =>
    have reached := follow_answers h redirectLimit parsed
    revert reached
    generalize follow client.routes redirectLimit parsed = reached
    obtain ⟨requests, _ | _ | _ | _⟩ := reached <;> intro reached
    · exact ⟨_, rfl⟩
    · exact ⟨_, rfl⟩
    · exact ⟨_, rfl⟩
    · exact absurd rfl reached

theorem fetchIndex_answers [NestingLimits] {client : Client} (h : client.routes.Answers) :
    client.fetchIndex.Answers :=
  (get_answers h _ _).bind _

theorem fetchPayload_answers {client : Client} (h : client.routes.Answers) (e : IndexEntry) :
    (client.fetchPayload e).Answers := by
  unfold fetchPayload
  split
  · exact (get_answers h _ _).bind _
  · exact ⟨_, rfl⟩

theorem routes_connect {credentials : Credentials} {baseUrl : Text}
    {routes : RouteTable} {client : Client} (h : connect credentials baseUrl routes = .ok client) :
    client.routes = routes := by
  simp only [connect, bind_eq_ok] at h
  obtain ⟨-, -, -, -, h⟩ := h
  cases h
  rfl

end Client

/-! ## The world of a pass -/

namespace Ledger

section

variable [NestingLimits]

def world (service : Service) (desk : Desk) : World where
  content := desk.content
  connected c := (Client.connect c service.baseUrl service.routes).map fun _ => ()
  index c := (Client.connect c service.baseUrl service.routes).bind fun client =>
    client.fetchIndex.result
  payload c _ e := (Client.connect c service.baseUrl service.routes).bind fun client =>
    (client.fetchPayload e).result
  written _ _ := written desk

def worldOf (service : Service) (desks : List Desk) (number : Nat) : World :=
  world service (desks[number]?.getD ⟨.ok [], none⟩)

theorem serve_eq_reply {service : Service} (answers : service.routes.Answers)
    (desk : Desk) {e : Effect} (hread : e ≠ .read)
    (hwrite : ∀ output content, e ≠ .write output content) :
    (service.serve e).2 = (world service desk).reply e := by
  cases e with
  | read => exact absurd rfl hread
  | write output content => exact absurd rfl (hwrite output content)
  | requestIndex c =>
    simp only [Service.serve, World.reply, world]
    cases hconnect : Client.connect c service.baseUrl service.routes with
    | error f => rfl
    | ok client =>
      have routes : client.routes.Answers := Client.routes_connect hconnect ▸ answers
      simp [(Client.fetchIndex_answers routes).tell, Except.bind]
  | requestPayload c place entry =>
    simp only [Service.serve, World.reply, world]
    cases hconnect : Client.connect c service.baseUrl service.routes with
    | error f => rfl
    | ok client =>
      have routes : client.routes.Answers := Client.routes_connect hconnect ▸ answers
      simp [(Client.fetchPayload_answers routes entry).tell, Except.bind]
  | log | connect | disconnect | stop => rfl

/-- Whatever the service answers, the world answers too, which is never silent. -/
theorem reply_of_serve {service : Service} {e : Effect} {s : Signal}
    (h : (service.serve e).2 = some s) (desk : Desk) : (world service desk).reply e = some s := by
  cases e with
  | read | write | log | disconnect => cases h
  | connect | stop => exact h
  | requestIndex c =>
    simp only [Service.serve, World.reply, world] at h ⊢
    cases hconnect : Client.connect c service.baseUrl service.routes with
    | error f => simpa [hconnect, Except.bind] using h
    | ok client =>
      rw [hconnect] at h
      rw [← Exchange.tell_eq_some h]
      rfl
  | requestPayload c place entry =>
    simp only [Service.serve, World.reply, world] at h ⊢
    cases hconnect : Client.connect c service.baseUrl service.routes with
    | error f => simpa [hconnect, Except.bind] using h
    | ok client =>
      rw [hconnect] at h
      rw [← Exchange.tell_eq_some h]
      rfl

end

theorem outputsOf_concat (s : Ledger) (number m : Nat) (output : Text × Text) :
    outputsOf { s with outputs := s.outputs ++ [(number, output)] } m =
      outputsOf s m ++ if number = m then [output] else [] := by
  by_cases h : number = m <;> simp [outputsOf, h]

variable [NestingLimits]

theorem outputsOf_perform (service : Service) {desks : List Desk} {number : Nat}
    (h : number < desks.length) (s : Ledger) (e : Effect) (m : Nat) :
    outputsOf ((host service desks).perform s number e).1 m =
      outputsOf s m ++
        if number = m then ((worldOf service desks number).output? e).toList else [] := by
  cases e with
  | write output content =>
    simp only [host, perform, worldOf, world, World.output?, List.getElem?_eq_getElem h,
      Option.getD_some]
    cases written desks[number] with
    | ok => exact outputsOf_concat s number m _
    | error f => simp
  | log | read | disconnect => simp [host, perform, outputsOf, World.output?]
  | connect | requestIndex | requestPayload | stop => simp [host, perform, outputsOf, World.output?]

/-- The passes of a ledger have nothing in common but the service. -/
theorem separates {service : Service} (answers : service.routes.Answers) (desks : List Desk) :
    (host service desks).Separates desks.length (worldOf service desks) outputsOf where
  reply s e n hn := by
    unfold worldOf
    have served := serve_eq_reply answers (desks[n]?.getD ⟨.ok [], none⟩) (e := e)
    cases e with
    | read => simp [host, perform, World.reply, world, List.getElem?_eq_getElem hn]
    | write output content =>
      simp only [host, perform, World.reply, world, List.getElem?_eq_getElem hn, Option.getD_some]
      cases written desks[n] <;> rfl
    | log | disconnect => rfl
    | connect | requestIndex | requestPayload | stop =>
      exact served (by simp) (by simp)
  own s e n hn := by rw [outputsOf_perform service hn, if_pos rfl]
  others s e n hn m hm := by rw [outputsOf_perform service hn, if_neg (Ne.symm hm), List.append_nil]

end Ledger

end LocaleGen
