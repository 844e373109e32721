import LocaleGen.Credentials
import LocaleGen.Decoding.Language
import LocaleGen.Retrieval.Response
import LocaleGen.Url.Reference

/-!
# Retrieval

A `Client` asks the service for the language index and for payloads. Every request carries the
credentials, which have to be ASCII. Redirects are followed, at most twenty of them; a status of 400
to 599 is an error, and the body of any other final response is the content.

An `Exchange` is what a retrieval comes to, and every address that was requested on the way.
-/

namespace LocaleGen

variable [NestingLimits]

/-- What a retrieval comes to: a result or a fault, or nothing as long as one waits. -/
inductive Awaited (α : Type) where
  | done (result : Except Fault α)
  | never

/-- Addresses in the order of the requests, and what they led to. -/
structure Exchange (α : Type) where
  requests : List Text
  outcome : Awaited α

namespace Exchange

def refused {α : Type} (f : Fault) : Exchange α := ⟨[], .done (.error f)⟩

def bind {α β : Type} (e : Exchange α) (f : α → Except Fault β) : Exchange β :=
  match e.outcome with
  | .done (.ok a) => ⟨e.requests, .done (f a)⟩
  | .done (.error fault) => ⟨e.requests, .done (.error fault)⟩
  | .never => ⟨e.requests, .never⟩

end Exchange

structure Client where
  credentials : Credentials
  /-- The address of the service without a slash at its end. -/
  baseUrl : Text
  routes : RouteTable

namespace Client

def connect (credentials : Credentials) (baseUrl : Text) (routes : RouteTable) :
    Except Fault Client := do
  Header.check credentials.projectId
  Header.check credentials.apiKey
  .ok ⟨credentials, baseUrl.trimEnd (· = CodePoint.ofChar '/'), routes⟩

def headers (client : Client) : List Text :=
  ["application/json", client.credentials.projectId, client.credentials.apiKey]

/-! ## Requests -/

/-- What a request comes to before its status is looked at. -/
inductive Reached where
  | response (r : Response)
  | broken (detail : Text)
  | fault (f : Fault)
  | silent

/-- What follows a reply. -/
inductive Next where
  | stop
  | go (target : Url)
  | lost (detail : Text)

def checkRequest (url : Url) : Except Fault Unit := do
  let _ ← url.hostName
  Header.check url.netloc

def checkReplied (text : Text) : Except Fault Unit :=
  let (place, fragment) := (Url.splitLast '#' text).getD (text, [])
  let (scheme, rest) := Url.spanUntil "/:" place
  if !scheme.isEmpty && (rest.dropStart? ":").isSome then .ok ()
  else
    let named := if fragment.isEmpty then place else text
    .error (.value ("unknown url type: " ++ named.quoted))

/-- What follows a reply to a request. -/
def next (url : Url) (r : Response) : Except Fault Next := do
  r.checkHeaders
  checkReplied url.render
  match r.redirect? with
  | none => .ok .stop
  | some location =>
    match Url.parse location with
    | .error (.badUrl detail) => .ok (.lost detail)
    | .error f => .error f
    | .ok location => do
      let target ← url.redirect location
      checkRequest target
      .ok (.go target)

/-- Requests an address and follows redirects, `left` of them at most. -/
def follow (routes : RouteTable) (left : Nat) (url : Url) : List Text × Reached :=
  let text := url.render
  match routes.find text with
  | .silent => ([text], .silent)
  | .broken detail => ([text], .broken detail)
  | .reply r =>
    match next url r with
    | .error f => ([text], .fault f)
    | .ok .stop => ([text], .response r)
    | .ok (.lost detail) => ([text], .broken ("Invalid URL in location header: " ++ detail ++ "."))
    | .ok (.go target) =>
      match left with
      | 0 => ([text], .broken "Exceeded maximum allowed redirects.")
      | left + 1 =>
        let (requests, reached) := follow routes left target
        (text :: requests, reached)

def redirectLimit : Nat := 20

def address (url : Text) (query : Option Text) : Except Fault Url := do
  let parsed ← (← Url.parse url).requested
  let parsed ← if query.isSome then Url.renew { parsed with query } else .ok parsed
  checkRequest parsed
  .ok parsed

def checkStatus (url : Text) (r : Response) : Except Fault Response := do
  if r.isError then .error (.cause (.errorStatus url r.status (← r.text))) else .ok r

/-- Requests an address, with a query of its own or the given one. -/
def get (client : Client) (url : Text) (query : Option Text) : Exchange Response :=
  match address url query with
  | .error f => .refused f
  | .ok parsed =>
    let (requests, reached) := follow client.routes redirectLimit parsed
    ⟨requests,
      match reached with
      | .silent => .never
      | .fault f => .done (.error f)
      | .broken detail => .done (.error (.cause (.requestFailed url detail)))
      | .response r => .done (checkStatus url r)⟩

/-! ## The language index -/

def indexPath : Text := "/api/v2/content/localize/resources/platforms/mobile"

/-- The value that bytes stand for; whatever is wrong with them, they are no JSON, unless they are
nested too deeply. -/
def readBody (url : Text) (body : Bytes) : Except Fault Json :=
  match Encoding.decodeJsonBytes body with
  | none => .error (.cause (.indexNotJson url))
  | some t =>
    match Json.read t with
    | .ok v => .ok v
    | .error (.tooDeep inList) => .error (.tooDeep inList)
    | .error _ => .error (.cause (.indexNotJson url))

def readEntries (url : Text) (entries : List Json) : Except Fault (List IndexEntry) :=
  match entries with
  | [] => .ok []
  | v :: rest =>
    match IndexEntry.decode v with
    | .ok e => do .ok (e :: (← readEntries url rest))
    | .error found =>
      .error (.cause (.indexMalformed url ((found.head?.map fun f => f.issue.message).getD [])))

def readIndex (url : Text) (body : Bytes) : Except Fault (List IndexEntry) := do
  let v ← readBody url body
  match (v.member? "data").bind Json.asList? with
  | none => .error (.cause (.indexWithoutData url))
  | some entries => readEntries url entries

def fetchIndex (client : Client) : Exchange (List IndexEntry) :=
  let url := client.baseUrl ++ indexPath
  (client.get url (some "dev=true")).bind fun r => readIndex url r.body

/-! ## Payloads -/

def fetchPayload (client : Client) (e : IndexEntry) : Exchange Text :=
  match e.url with
  | some (c :: rest) => (client.get (c :: rest) none).bind Response.text
  | _ => .refused (.cause (.noContentUrl e.language.locale))

end Client

end LocaleGen
