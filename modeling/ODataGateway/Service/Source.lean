/-
# ODataGateway.Service.Source — asking the source for its collection, and what can go wrong.

The address that is set is asked with one request.  Messages that only announce an answer are passed
over, and an answer that names another address is followed there with a request of its own, up to
ten times; credentials stay with the host they are meant for.  All of it has one time limit.  What
is done with each request is data here (`Reply`): it may not get through, be left without an answer,
or be answered with a status and a body, whole or cut short, and what comes after the time limit
does not come.  `exchange` says which requests come of that and what is handed over in the end,
`received` and `fetch` what of it the sources see and what the items are.

Every failure, of the source or of the client, has a status, a wording and a JSON body.  The body
gives the wording, and besides it the status of the source or the position in the filter where there
is one.
-/
import ODataGateway.Http.Message
import ODataGateway.Json.Reader
import ODataGateway.Query.Cursor
import ODataGateway.Settings

namespace ODataGateway

/-! ## Failures -/

/-- Why the rows cannot be served. -/
inductive Failure where
  /-- The source answered with a status that is no success. -/
  | sourceStatus (status : Nat)
  /-- The source did not answer within the time limit. -/
  | sourceTimeout
  /-- The source could not be asked, or its answer could not be used. -/
  | unexpected (message : String)
  /-- The filter of the client cannot be read. -/
  | badFilter (d : Diagnostic)
  /-- The client sent no credentials, or not the right ones. -/
  | unauthorized
deriving DecidableEq, Repr

namespace Failure

/-- The status that a failure is answered with. -/
def status : Failure → Nat
  | sourceStatus _ | unexpected _ => 500
  | sourceTimeout => 504
  | badFilter _ => 400
  | unauthorized => 401

/-- The wording of a failure. -/
def display : Failure → String
  | sourceStatus status => s!"Upstream API error (status {status})"
  | sourceTimeout => "Upstream timeout"
  | unexpected message => message
  | badFilter d => "Invalid $filter: " ++ d.message
  | unauthorized => "Unauthorized"

/-- The body of the answer. -/
def body : Failure → Json
  | sourceStatus status =>
    .object [("error", .string "Upstream API error"), ("status", .integer status)]
  | badFilter d =>
    .object [("error", .string (badFilter d).display), ("position", .integer d.start)]
  | f => .object [("error", .string f.display)]

/-- What a client without credentials is told to send. -/
def challenge : String := "Basic realm=\"odata\""

/-- The answer to a failed request. -/
def response (f : Failure) : Response :=
  let r := Response.ofJson f.status f.body
  if f = unauthorized then r.withHeader "www-authenticate" challenge else r

end Failure

end ODataGateway

namespace ODataGateway.Source

/-! ## What the source does -/

/-- What comes after a head. -/
inductive Body where
  /-- Its end does not come in time. -/
  | awaited
  /-- It comes; a body cut short ends before its announced length. -/
  | sent (bytes : List UInt8) (complete : Bool)

/-- A head and the body that belongs to it. -/
structure Message where
  status : Nat
  /-- The address that the head names, read against the one that was asked. -/
  location : Option Url := none
  body : Body := .awaited

/-- What is done with one request. -/
inductive Reply where
  /-- No connection comes about. -/
  | unreachable
  /-- No connection comes about in time. -/
  | unconnected
  /-- The messages are sent, and nothing after them in time. -/
  | sends (messages : List Message)
  /-- The messages are sent, and then the connection ends or what comes is no message. -/
  | breaks (messages : List Message)

/-- What is done with the requests that are made for one client, one after the other. -/
abbrev Delivery := Nat → Reply

namespace Delivery

/-- The same is done with every request. -/
def always (r : Reply) : Delivery := fun _ => r

/-- Every request is taken and nothing is ever sent. -/
def silent : Delivery := always (.sends [])

/-- What is done with the requests after the first. -/
def later (d : Delivery) : Delivery := fun n => d (n + 1)

end Delivery

/-- Whether the request gets to where it is sent. -/
def Reply.isReceived : Reply → Bool
  | .unreachable | .unconnected => false
  | .sends _ | .breaks _ => true

/-! ## Requests -/

/-- A request as it is received. -/
structure Call where
  /-- The address that is asked. -/
  url : Url
  line : String
  accept : String
  /-- The values of `Authorization`, in order. -/
  authorization : List String
deriving DecidableEq, Repr

/-- Whether an address can be asked at all: by the schemes of the web only, and not where the name
of the host has characters that no request can carry. -/
def isAskable (url : Url) : Bool :=
  (url.scheme = "http" || url.scheme = "https") &&
    !url.hostText.toList.any fun c => "\"\x60\x7b\x7d".toList.contains c

/-- A text with its percent signs resolved, if that gives characters. -/
def resolved? (s : String) : Option String :=
  (Text.decode? (Text.percentDecode (Text.utf8 s))).map String.ofList

/-- The credentials that an address carries itself.  A user name that has no reading spoils them,
and a password that has none counts as missing. -/
def urlCredentials? (url : Url) : Option Credentials := do
  let username ← resolved? url.username
  let password := if url.password.isEmpty then none else resolved? url.password
  if username.isEmpty && password.isNone then none
  else some ⟨username, password.getD ""⟩

/-- The address without the credentials that were taken from it. -/
def bareUrl (url : Url) : Url :=
  if (urlCredentials? url).isSome then { url with username := "", password := "" } else url

/-- The first line of a request for an address. -/
def requestLine (url : Url) : String := s!"GET {url.requestTarget} HTTP/1.1"

/-- The request for the address that is set. -/
def call (settings : Settings) (url : Url) : Call where
  url := bareUrl url
  line := requestLine url
  accept := "application/json"
  authorization :=
    ((urlCredentials? url).toList ++ settings.sourceCredentials.toList).map Credentials.toBasic

/-- The number that an address is asked at. -/
def askedNumber? (url : Url) : Option Nat :=
  url.number.or (Url.knownSchemes.lookup url.scheme).join

/-- Whether two addresses lead to the same host. -/
def isSameHost (a b : Url) : Bool := a.host = b.host && askedNumber? a = askedNumber? b

/-- The request for an address that the answer to another request named. -/
def Call.redirected (c : Call) (url : Url) : Call where
  url := url
  line := requestLine url
  accept := c.accept
  authorization := if isSameHost url c.url then c.authorization else []

/-! ## Answers -/

/-- Statuses of messages that only announce the answer. -/
def isInterim (status : Nat) : Bool := 100 ≤ status && status < 200 && status != 101

/-- Statuses of answers that can name another address to ask. -/
def isRedirect (status : Nat) : Bool := [301, 302, 303, 307, 308].contains status

/-- The message that answers: the first that does more than announce. -/
def Reply.answer? : Reply → Option Message
  | .unreachable | .unconnected => none
  | .sends messages | .breaks messages => messages.find? fun m => !isInterim m.status

/-- Why a request of an address has no answer. -/
def Reply.failure (url : Url) : Reply → Failure
  | .unconnected | .sends _ => .sourceTimeout
  | .unreachable | .breaks _ => .unexpected s!"error sending request for url ({url.text})"

/-- The address to ask instead. -/
def Message.next? (m : Message) : Option Url := if isRedirect m.status then m.location else none

/-- What comes of one request. -/
inductive Step where
  /-- An answer is handed over, or there is none. -/
  | ends (result : Except Failure Message)
  /-- Another address is to be asked. -/
  | leads (url : Url)

/-- What one reply makes of a request. -/
def step (c : Call) (r : Reply) : Step :=
  match r.answer? with
  | none => .ends (.error (r.failure c.url))
  | some m =>
    match m.next? with
    | none => .ends (.ok m)
    | some url => .leads url

/-! ## Exchanges -/

/-- What comes of asking: the requests that are received, and the answer that is handed over in the
end. -/
structure Exchange where
  calls : List Call
  result : Except Failure Message

/-- How often an answer that names another address is followed. -/
def maxRedirects : Nat := 10

/-- A request, and those that it leads to. -/
def follow : Nat → Call → Delivery → Exchange
  | hops, c, d =>
    let here := if (d 0).isReceived then [c] else []
    match step c (d 0), hops with
    | .ends result, _ => ⟨here, result⟩
    | .leads _, 0 =>
      ⟨here, .error (.unexpected s!"error following redirect for url ({c.url.text})")⟩
    | .leads url, hops + 1 =>
      if isAskable url then
        let rest := follow hops (c.redirected url) d.later
        ⟨here ++ rest.calls, rest.result⟩
      else ⟨here, .error (.unexpected s!"builder error for url ({url.text})")⟩

/-- What comes of asking the address that is set. -/
def exchange (settings : Settings) (d : Delivery) : Exchange :=
  match Url.parse? settings.sourceUrl with
  | none => ⟨[], .error (.unexpected "builder error")⟩
  | some url =>
    if isAskable url then follow maxRedirects (call settings url) d
    else ⟨[], .error (.unexpected s!"builder error for url ({(bareUrl url).text})")⟩

/-- The requests that are received. -/
def received (settings : Settings) (d : Delivery) : List Call := (exchange settings d).calls

/-! ## Items -/

/-- Statuses that mean success. -/
def isSuccess (status : Nat) : Bool := 200 ≤ status && status < 300

/-- Statuses that never come with a body. -/
def isBodiless (status : Nat) : Bool := status = 204 || status = 304

/-- The items in a body that arrived. -/
def items (body : List UInt8) (complete : Bool) : Except Failure (List Json) :=
  let value := if complete then (Text.decode? body).bind Json.read? else none
  match value with
  | none => .error (.unexpected "error decoding response body")
  | some (.array items) => .ok items
  | some v => .error (.unexpected s!"Upstream payload is not a JSON array (got {v.kind})")

/-- The items that an answer brings. -/
def Message.items (m : Message) : Except Failure (List Json) :=
  if !isSuccess m.status then .error (.sourceStatus m.status)
  else if isBodiless m.status then Source.items [] true
  else
    match m.body with
    | .awaited => .error .sourceTimeout
    | .sent bytes complete => Source.items bytes complete

/-- The items of the collection, or why there are none. -/
def fetch (settings : Settings) (d : Delivery) : Except Failure (List Json) :=
  (exchange settings d).result.bind Message.items

end ODataGateway.Source
