/-
# ODataGateway.Service.Router — which answer a request gets.

Paths are matched as written.  Everything at or below `/odata` stands behind the guard, known or
not; the health check and paths elsewhere do not.  The guard comes before the method is looked at.
A `HEAD` request gets the header fields of the `GET` answer and no body.
-/
import ODataGateway.Document
import ODataGateway.Http.Credentials
import ODataGateway.Http.Message
import ODataGateway.Service.Source

namespace ODataGateway

/-! ## Routes -/

/-- What a path leads to. -/
inductive Route where
  | root
  | metadata
  | collection
  /-- Any other path below `/odata/`. -/
  | unknown
  | health
  /-- A path that the service has nothing to do with. -/
  | outside
deriving DecidableEq, Repr

namespace Route

/-- The route of a path. -/
def ofPath (path : String) : Route :=
  if path = "/odata" || path = "/odata/" then root
  else if path = "/odata/$metadata" then metadata
  else if path = "/odata/Transactions" then collection
  else if "/odata/".toList.isPrefixOf path.toList then unknown
  else if path = "/health" then health
  else outside

/-- The routes that the guard stands before. -/
def isGuarded : Route → Bool
  | root | metadata | collection | unknown => true
  | health | outside => false

/-- The routes that answer only to `GET` and `HEAD`. -/
def isReadOnly : Route → Bool
  | root | metadata | collection | health => true
  | unknown | outside => false

end Route

/-! ## Answers -/

namespace Service

/-- A response together with what the source got to see. -/
structure Outcome where
  response : Response
  calls : List Source.Call

/-- The response that announces the version of the protocol. -/
def versioned (r : Response) : Response := r.withHeader "odata-version" "4.0"

/-- The answer to a query for the collection. -/
def collectionResponse (settings : Settings) (request : Request) (d : Source.Delivery) :
    Except Failure Response := do
  let schema := Schema.transactions
  let options := Options.ofPairs (Form.pairs (request.target.query.getD ""))
  let items ← Source.fetch settings d
  let rows := items.map (Row.ofJson schema)
  let answer ←
    if settings.strictFilter then (Answer.strict options rows).mapError Failure.badFilter
    else pure (Answer.lenient options rows)
  return versioned <|
    .ofJson 200 (answer.toJson request.headers.serviceRoot schema.entitySet)

/-- The answer to `GET` on a route. -/
def getResponse (settings : Settings) (request : Request) (d : Source.Delivery) :
    Route → Response
  | .root =>
    versioned <| .ofJson 200 <|
      .serviceDocument request.headers.serviceRoot [Schema.transactions.entitySet]
  | .metadata => versioned (.ofBody 200 "application/xml" (Metadata.render Schema.transactions))
  | .collection =>
    match collectionResponse settings request d with
    | .ok r => r
    | .error f => f.response
  | .unknown => .ofJson 404 (.object [("error", .string "Not Found")])
  | .health => .ofJson 200 (.object [("status", .string "ok")])
  | .outside => .bare 404

/-- Whether a request may pass the guard. -/
def isAdmitted (settings : Settings) (headers : Headers) : Bool :=
  match settings.clientCredentials with
  | none => true
  | some expected => (Credentials.ofHeaders? headers).any (·.matchesExpected expected)

/-- Whether a method reads. -/
def isRead (method : String) : Bool := method = "GET" || method = "HEAD"

/-- The answer of a route before its length is added and a `HEAD` answer loses its body. -/
def handle (settings : Settings) (request : Request) (d : Source.Delivery) (route : Route) :
    Outcome :=
  if route.isGuarded && !isAdmitted settings request.headers then
    ⟨Failure.unauthorized.response, []⟩
  else if route.isReadOnly && !isRead request.method then ⟨.bare 405, []⟩
  else
    ⟨getResponse settings request d route,
      if route = .collection then Source.received settings d else []⟩

/-- The header field that names the methods of a route. -/
def withAllow (route : Route) (method : String) (r : Response) : Response :=
  if route.isReadOnly && !isRead method then r.withHeader "allow" "GET,HEAD" else r

/-- The outcome of a request, given what the source does.  A path outside the service gets an
answer without any header field. -/
def answer (settings : Settings) (request : Request) (d : Source.Delivery) : Outcome :=
  let route := Route.ofPath request.target.path
  let outcome := handle settings request d route
  if route = .outside then outcome
  else
    let r := (withAllow route request.method outcome.response).withLength
    { outcome with response := if request.method = "HEAD" then r.withoutBody else r }

end Service

end ODataGateway
