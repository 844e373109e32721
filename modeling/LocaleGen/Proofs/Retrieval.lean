import LocaleGen.Proofs.Fetching
import LocaleGen.Proofs.Ledger
import LocaleGen.Retrieval.Outcome
import Mathlib

/-!
# Content and where it comes from

Redirects are followed as `Client.Redirects` says (`snd_follow_of_redirects`), so what is reached is
what they end with. Content therefore comes from a final response that is no error, and everything
else is refused: `content_of_responses`.

A response that is no error need not be a success. `unfollowed_redirect_gives_content` is one that
is none and whose body is taken for a payload.
-/

namespace LocaleGen

namespace Client

/-! ## Following redirects -/

section

variable {routes : RouteTable} {left n : Nat} {url last : Url} {r : Response} {detail : Text}

theorem snd_follow_of_reply (hreply : routes.find url.render = .reply r) :
    (follow routes left url).2 =
    match next url r with
    | .error f => .fault f
    | .ok .stop => .response r
    | .ok (.lost detail) => .broken ("Invalid URL in location header: " ++ detail ++ ".")
    | .ok (.go target) =>
      match left with
      | 0 => .broken "Exceeded maximum allowed redirects."
      | left + 1 => (follow routes left target).2 := by
  rw [follow.eq_def]
  simp only [hreply]
  cases next url r with
  | error f => rfl
  | ok what =>
    cases what with
    | stop => rfl
    | lost detail => rfl
    | go target => cases left <;> rfl

theorem snd_follow_of_silent (h : routes.find url.render = .silent) :
    (follow routes left url).2 = .silent := by
  rw [follow.eq_def]
  simp only [h]

theorem snd_follow_of_broken (h : routes.find url.render = .broken detail) :
    (follow routes left url).2 = .broken detail := by
  rw [follow.eq_def]
  simp only [h]

/-- What is reached over a number of redirects is what is reached from where they lead. -/
theorem snd_follow_of_redirects (left : Nat) (h : Redirects routes n url last) :
    (follow routes (left + n) url).2 = (follow routes left last).2 := by
  induction h with
  | here => rfl
  | go hreply hnext _ ih =>
    rw [snd_follow_of_reply hreply, hnext]
    exact ih

theorem snd_follow_of_le (hn : n ≤ left) (h : Redirects routes n url last) :
    (follow routes left url).2 = (follow routes (left - n) last).2 := by
  have hreached := snd_follow_of_redirects (left - n) h
  rwa [Nat.sub_add_cancel hn] at hreached

theorem snd_follow_of_endsWith (h : EndsWith routes left url r) :
    (follow routes left url).2 = .response r := by
  obtain ⟨n, hn, last, redirects, hreply, hnext⟩ := h
  rw [snd_follow_of_le hn redirects, snd_follow_of_reply hreply, hnext]

/-- One redirect too many. -/
theorem snd_follow_of_exhausted (h : Redirects routes (left + 1) url last) :
    (follow routes left url).2 = .broken "Exceeded maximum allowed redirects." := by
  induction left generalizing url with
  | zero =>
    cases h with
    | go hreply hnext _ => rw [snd_follow_of_reply hreply, hnext]
  | succ left ih =>
    cases h with
    | go hreply hnext redirects =>
      rw [snd_follow_of_reply hreply, hnext]
      exact ih redirects

theorem snd_follow_of_breaksOff (h : BreaksOff routes left url detail) :
    (follow routes left url).2 = .broken detail := by
  cases h with
  | transport hn redirects hbroken =>
    rw [snd_follow_of_le hn redirects, snd_follow_of_broken hbroken]
  | lost hn redirects hreply hnext =>
    rw [snd_follow_of_le hn redirects, snd_follow_of_reply hreply, hnext]
  | exhausted redirects => exact snd_follow_of_exhausted redirects

/-- A response is reached at once, or over a redirect. -/
theorem response_cases (h : (follow routes left url).2 = .response r) :
    (routes.find url.render = .reply r ∧ next url r = .ok .stop) ∨
      ∃ left' target reply, left = left' + 1 ∧ routes.find url.render = .reply reply ∧
        next url reply = .ok (.go target) ∧ (follow routes left' target).2 = .response r := by
  cases hroute : routes.find url.render with
  | silent =>
    rw [snd_follow_of_silent hroute] at h
    cases h
  | broken detail =>
    rw [snd_follow_of_broken hroute] at h
    cases h
  | reply reply =>
    rw [snd_follow_of_reply hroute] at h
    rcases hnext : next url reply with f | _ | target | detail <;> rw [hnext] at h
    · cases h
    · cases h
      exact .inl ⟨rfl, hnext⟩
    · cases left with
      | zero => cases h
      | succ left => exact .inr ⟨left, target, reply, rfl, rfl, hnext, h⟩
    · cases h

theorem endsWith_of_follow (h : (follow routes left url).2 = .response r) :
    EndsWith routes left url r := by
  induction left generalizing url with
  | zero =>
    rcases response_cases h with ⟨hroute, hstop⟩ | ⟨_, _, _, hleft, -⟩
    · exact ⟨0, le_rfl, url, .here url, hroute, hstop⟩
    · cases hleft
  | succ left ih =>
    rcases response_cases h with ⟨hroute, hstop⟩ | ⟨_, target, reply, hleft, hroute, hgo, hrest⟩
    · exact ⟨0, Nat.zero_le _, url, .here url, hroute, hstop⟩
    · cases hleft
      obtain ⟨n, hn, last, redirects, hlast, hstop⟩ := ih hrest
      exact ⟨n + 1, Nat.succ_le_succ hn, last, .go hroute hgo redirects, hlast, hstop⟩

end

/-! ## Requests -/

section

variable {α : Type} {client : Client} {url : Text} {query : Option Text}
    {r : Response} {detail : Text}

theorem outcome_get {parsed : Url} (haddress : address url query = .ok parsed) :
    (client.get url query).outcome =
      match (follow client.routes redirectLimit parsed).2 with
      | .silent => .never
      | .fault f => .done (.error f)
      | .broken detail => .done (.error (.cause (.requestFailed url detail)))
      | .response r => .done (checkStatus url r) := by
  rcases hreached : follow client.routes redirectLimit parsed with ⟨requests, _ | _ | _ | _⟩ <;>
    simp only [get, haddress, hreached]

theorem outcome_get_of_answers (h : client.Answers url query r) :
    (client.get url query).outcome = .done (checkStatus url r) := by
  obtain ⟨parsed, haddress, hends⟩ := h
  rw [outcome_get haddress, snd_follow_of_endsWith hends]

theorem outcome_get_of_breaks (h : client.Breaks url query detail) :
    (client.get url query).outcome = .done (.error (.cause (.requestFailed url detail))) := by
  obtain ⟨parsed, haddress, hbreaks⟩ := h
  rw [outcome_get haddress, snd_follow_of_breaksOff hbreaks]

@[simp] theorem checkStatus_eq_ok {found : Response} : checkStatus url r = .ok found ↔
    r.isError = false ∧ r = found := by
  unfold checkStatus
  cases r.isError with
  | false => simp
  | true =>
    rw [if_pos rfl]
    cases r.text <;> simp [bind, Except.bind]

theorem content?_get : (client.get url query).outcome.content? = some r ↔
    client.Answers url query r ∧ r.isError = false := by
  rw [Awaited.content?_eq_some]
  constructor
  · intro h
    cases haddress : address url query with
    | error f =>
      rw [get, haddress] at h
      cases h
    | ok parsed =>
      rw [outcome_get haddress] at h
      cases hreached : (follow client.routes redirectLimit parsed).2 with
      | silent => rw [hreached] at h; cases h
      | fault f => rw [hreached] at h; cases h
      | broken detail => rw [hreached] at h; cases h
      | response found =>
        rw [hreached] at h
        injection h with h
        obtain ⟨hstatus, rfl⟩ := checkStatus_eq_ok.mp h
        exact ⟨⟨parsed, haddress, endsWith_of_follow hreached⟩, hstatus⟩
  · rintro ⟨hanswers, hstatus⟩
    rw [outcome_get_of_answers hanswers, checkStatus_eq_ok.mpr ⟨hstatus, rfl⟩]

end

end Client

/-! ## Exchanges taken further -/

namespace Exchange

variable {α β : Type} {e : Exchange α} {f : α → Except Fault β}

theorem content?_bind {b : β} : (e.bind f).outcome.content? = some b ↔
    ∃ a, e.outcome.content? = some a ∧ f a = .ok b := by
  unfold Exchange.bind
  rcases houtcome : e.outcome with (fault | a) | _
  · simp [Awaited.content?]
  · rw [Awaited.content?_eq_some]
    simp [Awaited.content?]
  · simp [Awaited.content?]

theorem outcome_bind_of_error {fault : Fault} (h : e.outcome = .done (.error fault)) :
    (e.bind f).outcome = .done (.error fault) := by
  rw [Exchange.bind, h]

theorem result_eq_ok {a : α} : e.result = .ok a ↔ e.outcome.content? = some a := by
  unfold result
  rcases e.outcome with (fault | a) | _ <;> simp [Awaited.content?]

end Exchange

namespace Client

variable {client : Client}

theorem reports_requestFailed (url detail : Text) :
    (Cause.requestFailed url detail).Reports (some url) none :=
  ⟨rfl, fun _ => rfl⟩

theorem reports_errorStatus (url body : Text) (status : Nat) :
    (Cause.errorStatus url status body).Reports (some url) (some status) :=
  ⟨rfl, fun _ => rfl⟩

theorem reports_noContentUrl (locale : Text) : (Cause.noContentUrl locale).Reports none none :=
  ⟨rfl, fun _ => rfl⟩

/-- Whatever a request is made for, it comes to what it should. -/
theorem retrieves_get {α : Type} (client : Client) (url : Text) (query : Option Text)
    (read : Response → Except Fault α) :
    client.Retrieves url query read ((client.get url query).bind read).outcome where
  content a := by
    rw [Exchange.content?_bind]
    constructor
    · rintro ⟨r, hget, hread⟩
      obtain ⟨hanswers, hstatus⟩ := content?_get.mp hget
      exact ⟨r, hanswers, Response.isError_eq_false_iff.mp hstatus, hread⟩
    · rintro ⟨r, hanswers, hstatus, hread⟩
      exact ⟨r, content?_get.mpr ⟨hanswers, Response.isError_eq_false_iff.mpr hstatus⟩, hread⟩
  status r body hanswers herror hbody := by
    have hget := outcome_get_of_answers hanswers
    rw [checkStatus, if_pos herror, hbody] at hget
    exact ⟨_, Exchange.outcome_bind_of_error hget, reports_errorStatus url body r.status⟩
  unquotable r f hanswers herror hbody := by
    have hget := outcome_get_of_answers hanswers
    rw [checkStatus, if_pos herror, hbody] at hget
    exact Exchange.outcome_bind_of_error hget
  transport detail hbreaks :=
    ⟨_, Exchange.outcome_bind_of_error (outcome_get_of_breaks hbreaks),
      reports_requestFailed url detail⟩

theorem fetchPayload_eq {e : IndexEntry} {url : Text} (h : e.url = some url) (hne : url ≠ []) :
    client.fetchPayload e = (client.get url none).bind Response.text := by
  unfold fetchPayload
  cases url with
  | nil => exact absurd rfl hne
  | cons c rest => simp only [h]

theorem outcome_fetchPayload_of_noUrl {e : IndexEntry} (h : e.url = none ∨ e.url = some []) :
    (client.fetchPayload e).outcome = .done (.error (.cause (.noContentUrl e.language.locale))) := by
  unfold fetchPayload
  rcases h with h | h <;> simp only [h] <;> rfl

/-- A payload comes from the final response to a request to the entry's own address. -/
theorem response_of_fetchPayload {e : IndexEntry} {payload : Text}
    (h : (client.fetchPayload e).outcome.content? = some payload) :
    ∃ url r, e.url = some url ∧ client.Answers url none r ∧
    (r.isSuccess = true ∨ r.isNeither = true) ∧
      r.text = .ok payload := by
  by_cases hurl : e.url = none ∨ e.url = some []
  · rw [outcome_fetchPayload_of_noUrl hurl] at h
    cases h
  · rw [not_or] at hurl
    obtain ⟨url, hsome⟩ := Option.ne_none_iff_exists'.mp hurl.1
    have hne : url ≠ [] := fun hnil => hurl.2 (hnil ▸ hsome)
    rw [fetchPayload_eq hsome hne] at h
    obtain ⟨r, hanswers, hstatus, htext⟩ :=
      ((retrieves_get client url none Response.text).content payload).mp h
    exact ⟨url, r, hsome, hanswers, hstatus, htext⟩

end Client

/-! ## Passes -/

theorem Ledger.payload_eq_ok [NestingLimits] {service : Service} {desk : Desk} {c : Credentials}
    {place : Nat} {e : IndexEntry} {payload : Text}
    (h : (world service desk).payload c place e = .ok payload) :
    ∃ client, Client.connect c service.baseUrl service.routes = .ok client ∧
      (client.fetchPayload e).outcome.content? = some payload := by
  unfold world at h
  simp only at h
  cases hconnect : Client.connect c service.baseUrl service.routes with
  | error f =>
    rw [hconnect] at h
    cases h
  | ok client =>
    rw [hconnect] at h
    exact ⟨client, rfl, Exchange.result_eq_ok.mp h⟩

namespace World

variable {w : World} {b : Bundling} {e e' : IndexEntry} {place : Nat} {locale payload : Text}

theorem Opens.payload_payloadAt [NestingLimits] (opens : w.Opens b e) (delivers : w.Delivers b)
    (h : b.languages[place]? = some e') :
    w.payload b.credentials place e' = .ok (w.payloadAt b place) := by
  by_cases hdefault : place = b.defaultPlace
  · subst hdefault
    have hplace :=
      IndexEntry.getElem?_of_findDefault? (IndexEntry.findDefault?_of_findDefault opens.default)
    obtain rfl : e' = e := Option.some.inj (h.symm.trans hplace)
    rw [payloadAt, if_pos rfl]
    exact opens.payload
  · have hpending : place ∈ b.pending :=
      Bundling.mem_pending.mpr ⟨(List.getElem?_eq_some_iff.mp h).1, hdefault⟩
    obtain ⟨found, hfetch⟩ := delivers place hpending
    rw [payloadAt, if_neg hdefault, hfetch]
    simpa [fetch, h] using hfetch

theorem exists_place_of_payloads (h : (w.payloads b).get? locale = some payload) :
    ∃ place e', b.languages[place]? = some e' ∧ e'.language.locale = locale ∧
    w.payloadAt b place = payload := by
  have hmem := Dict.mem_of_get?_ofList h
  rw [List.mem_mapIdx] at hmem
  obtain ⟨place, hplace, hpair⟩ := hmem
  obtain ⟨hlocale, hpayload⟩ := Prod.mk.inj hpair
  exact ⟨place, b.languages[place], List.getElem?_eq_getElem hplace, hlocale, hpayload⟩

end World

/-- Content comes from a final response that is no error, and from nothing else; a failure of the
transport and an error are refused with the address and the status, and so is a language without an
address. What a pass embeds as the payload of a locale is for that reason the body of a response of
this kind to the address of a language with this locale. -/
theorem content_of_responses [NestingLimits] (client : Client) (service : Service) (desk : Desk) :
    client.Retrieves (client.baseUrl ++ Client.indexPath) (some "dev=true")
      (fun r => Client.readIndex (client.baseUrl ++ Client.indexPath) r.body)
      client.fetchIndex.outcome ∧
    (∀ e : IndexEntry,
      (∀ url, e.url = some url → url ≠ [] →
        client.Retrieves url none Response.text (client.fetchPayload e).outcome) ∧
      (e.url = none ∨ e.url = some [] →
        ∃ c, (client.fetchPayload e).outcome = .done (.error (.cause c)) ∧ c.Reports none none)) ∧
    ∀ (b : Bundling) (e : IndexEntry), (Ledger.world service desk).Opens b e →
      (Ledger.world service desk).Delivers b →
      ∀ locale payload, ((Ledger.world service desk).inputs b).payloads.get? locale = some payload →
        ∃ connection e' url r, Client.connect b.credentials service.baseUrl service.routes =
          .ok connection ∧
          e' ∈ b.languages ∧ e'.language.locale = locale ∧ e'.url = some url ∧
          connection.Answers url none r ∧
          (r.isSuccess = true ∨ r.isNeither = true) ∧ r.text = .ok payload := by
  refine ⟨client.retrieves_get _ _ _, fun e => ⟨fun url hurl hne => ?_, fun hurl => ?_⟩, ?_⟩
  · rw [Client.fetchPayload_eq hurl hne]
    exact client.retrieves_get url none Response.text
  · exact ⟨_, Client.outcome_fetchPayload_of_noUrl hurl, Client.reports_noContentUrl _⟩
  · intro b e opens delivers locale payload hpayload
    obtain ⟨place, e', hplace, hlocale, rfl⟩ := World.exists_place_of_payloads hpayload
    obtain ⟨connection, hconnect, hcontent⟩ :=
      Ledger.payload_eq_ok (opens.payload_payloadAt delivers hplace)
    obtain ⟨url, r, hurl, hanswers, hstatus, htext⟩ := Client.response_of_fetchPayload hcontent
    exact ⟨connection, e', url, r, hconnect, List.mem_of_getElem? hplace, hlocale, hurl, hanswers,
      hstatus, htext⟩

/-- A client of a service that replies to the one address it knows with a redirect that has no
target. -/
def unfollowedClient : Client where
  credentials := ⟨"project", "key"⟩
  baseUrl := "https://nstack.io"
  routes :=
    .ofList [("https://cdn.nstack.io/en.json", .reply ⟨302, [0x67, 0x6F, 0x6E, 0x65], none, none⟩)]

def unfollowedEntry : IndexEntry :=
  ⟨1, some "https://cdn.nstack.io/en.json", none, false,
    ⟨1, "English", "en-GB", "LRM", true, false⟩⟩

/-- A payload is fetched although no response of the service is a success. -/
theorem unfollowed_redirect_gives_content :
    (unfollowedClient.fetchPayload unfollowedEntry).outcome.content? = some "gone" ∧
      ∀ url r, unfollowedClient.routes.get? url = some (.reply r) → r.isSuccess = false := by
  constructor
  · decide +kernel
  · intro url r hreply
    have hmem := Dict.mem_of_get?_ofList hreply
    rw [List.mem_singleton, Prod.mk.injEq, Route.reply.injEq] at hmem
    rw [hmem.2]
    rfl

end LocaleGen
