/-
# ODataGateway.Proofs.Service.Outbound — what the source gets to see of the clients.

A request of a client makes the service ask the source or not, and how it asks is settled by the
settings: nothing that is sent shows who asked, what they asked for, or how the requests before them
ended.  How often it asks is up to the replies.  One that sends the asker on brings another request
with it, so a source that stays where it is sees one request for each query of the collection that
was let through (`Service.session_calls`), and one that sends the asker back to where it was sees
eleven (`Service.calls_sent_back`).
-/
import ODataGateway.Proofs.Service.Collection

namespace ODataGateway

/-! ## Sessions -/

namespace Service

/-- The outcomes of requests that come in one after the other, each with what the source does then.
Nothing is kept from one to the next. -/
def session (settings : Settings) (exchanges : List (Request × Source.Delivery)) : List Outcome :=
  exchanges.map fun e => answer settings e.1 e.2

/-- The requests that the source is asked for: they read the collection and are let through. -/
def Asks (settings : Settings) (request : Request) : Prop :=
  request.target.path = "/odata/Transactions" ∧
    (request.method = "GET" ∨ request.method = "HEAD") ∧ Admits settings request.headers

instance (settings : Settings) (request : Request) : Decidable (Asks settings request) :=
  inferInstanceAs (Decidable (_ ∧ _ ∧ _))

variable {settings : Settings} {request : Request} {d : Source.Delivery} {url : Url}

theorem isRead_iff {method : String} : isRead method = true ↔ method = "GET" ∨ method = "HEAD" := by
  rw [isRead, Bool.or_eq_true, decide_eq_true_eq, decide_eq_true_eq]

/-! ## One request -/

/-- The calls are those of the route, whatever is made of its response. -/
theorem calls_answer : (answer settings request d).calls =
    (handle settings request d (Route.ofPath request.target.path)).calls := by
  unfold answer
  dsimp only
  split <;> rfl

theorem calls_handle (route : Route) : (handle settings request d route).calls =
    if route = .collection ∧ isRead request.method = true ∧
        isAdmitted settings request.headers = true then Source.received settings d
    else [] := by
  unfold handle
  cases admitted : isAdmitted settings request.headers <;>
    cases read : isRead request.method <;> cases route <;> rfl

/-- The source gets to see a request just for those that ask for it. -/
theorem calls_eq_received : (answer settings request d).calls =
    if Asks settings request then Source.received settings d else [] := by
  rw [calls_answer, calls_handle]
  refine if_congr ?_ rfl rfl
  rw [Route.ofPath_eq_collection_iff, isRead_iff, isAdmitted_iff_admits]
  rfl

theorem calls_of_asks (asked : Source.AskedAt settings url) (asks : Asks settings request) :
    (answer settings request d).calls =
      (Source.follow Source.maxRedirects (Source.call settings url) d).calls := by
  rw [calls_eq_received, if_pos asks, Source.received, Source.exchange_asked asked]

/-- A source that does not send the asker on sees one request. -/
theorem calls_of_stays (asked : Source.AskedAt settings url) (asks : Asks settings request)
    (received : (d 0).isReceived = true) (stays : ¬ Source.SendsOn (d 0)) :
    (answer settings request d).calls = [Source.call settings url] := by
  rw [calls_of_asks asked asks, Source.calls_follow_here (Or.inr stays),
    Source.here_of_isReceived received]

theorem calls_of_not_asks (h : ¬ Asks settings request) :
    (answer settings request d).calls = [] := by
  rw [calls_eq_received, if_neg h]

/-- A session shows a source that stays where it is one call for each of its requests that ask. -/
theorem calls_session (asked : Source.AskedAt settings url)
    {exchanges : List (Request × Source.Delivery)}
    (stay : ∀ e ∈ exchanges, (e.2 0).isReceived = true ∧ ¬ Source.SendsOn (e.2 0)) :
    (session settings exchanges).flatMap Outcome.calls =
      List.replicate (exchanges.countP fun e => Asks settings e.1) (Source.call settings url) := by
  -- along the session; a request adds its call, or nothing
  induction exchanges with
  | nil => rfl
  | cons e rest ih =>
    obtain ⟨⟨received, stays⟩, later⟩ := List.forall_mem_cons.mp stay
    show (answer settings e.1 e.2).calls ++ (session settings rest).flatMap Outcome.calls = _
    rw [ih later]
    by_cases asks : Asks settings e.1
    · rw [calls_of_stays asked asks received stays,
        List.countP_cons_of_pos (by simpa using asks)]
      rfl
    · rw [calls_of_not_asks asks, List.countP_cons_of_neg (by simpa using asks)]
      rfl

end Service

/-! ## What is asked -/

namespace Source

variable {settings : Settings} {url : Url}

/-- An address without user name and password carries no credentials. -/
theorem urlCredentials?_eq_none (username : url.username = "") (password : url.password = "") :
    urlCredentials? url = none := by
  have empty : resolved? "" = some "" := by decide +kernel
  unfold urlCredentials?
  rw [username, password, empty]
  rfl

theorem authorization_call {c : Credentials} (set : settings.sourceCredentials = some c) :
    (call settings url).authorization =
      (urlCredentials? url).toList.map Credentials.toBasic ++ [c.toBasic] := by
  show ((urlCredentials? url).toList ++ settings.sourceCredentials.toList).map _ = _
  rw [set, List.map_append]
  rfl

/-- What is asked depends on the address and the credentials that are set for the source. -/
theorem call_congr {settings' : Settings}
    (same : settings'.sourceCredentials = settings.sourceCredentials) :
    call settings' url = call settings url := by
  unfold call
  rw [same]

theorem line_call (settings : Settings) (url : Url) :
    (call settings url).line = requestLine (call settings url).url := by
  show requestLine url = requestLine (bareUrl url)
  unfold bareUrl
  split <;> rfl

/-- To ask an address without credentials once more is to make the same request. -/
theorem redirected_call (username : url.username = "") (password : url.password = "") :
    (call settings url).redirected url = call settings url := by
  have bare : bareUrl url = url := by
    unfold bareUrl
    rw [urlCredentials?_eq_none username password]
    rfl
  have same : isSameHost url (call settings url).url = true := by
    show isSameHost url (bareUrl url) = true
    rw [bare]
    exact isSameHost_iff.mpr ⟨rfl, rfl⟩
  unfold Call.redirected
  rw [if_pos same]
  unfold call
  rw [bare]

end Source

namespace Service

/-- What the source gets to see, of an address that can be asked and requests that get through.  A
request of a client that does not ask brings no call.  One that asks brings the call that the
settings make, and after it one for each redirect that is followed, up to ten: it asks the address
that was named, in the same way, and has credentials only on the same host.  So where the source
does not send the asker on there is one call, and a session brings as many as it has requests that
ask, all of them the same.  The call is a `GET` of the address that wants JSON and has the
credentials that are set for the source; settings that agree on address and credentials make the
same call for any two requests, and the same calls where the same is done with them.  Where the
address carries no credentials itself and the user name has no colon, the one `Authorization` of the
call is read as the credentials that are set. -/
theorem session_calls (settings : Settings) (url : Url)
    (parsed : Url.parse? settings.sourceUrl = some url) (askable : Source.isAskable url = true) :
    (∀ request d, (d 0).isReceived = true →
      (¬ Asks settings request → (answer settings request d).calls = []) ∧
      (Asks settings request → ¬ Source.SendsOn (d 0) →
        (answer settings request d).calls = [Source.call settings url]) ∧
      (Asks settings request →
        (answer settings request d).calls[0]? = some (Source.call settings url) ∧
        (∀ n, n < (answer settings request d).calls.length ↔
          n ≤ 10 ∧ Source.Led d n ∧ (d n).isReceived = true) ∧
        ∀ n c, (answer settings request d).calls[n + 1]? = some c →
          Source.LeadsTo (d n) c.url ∧ Source.Serves c (Source.call settings url))) ∧
    (∀ exchanges : List (Request × Source.Delivery),
      (∀ e ∈ exchanges, (e.2 0).isReceived = true ∧ ¬ Source.SendsOn (e.2 0)) →
      (session settings exchanges).flatMap Outcome.calls =
        List.replicate (exchanges.countP fun e => Asks settings e.1)
          (Source.call settings url)) ∧
    ((Source.call settings url).line = "GET " ++ url.requestTarget ++ " HTTP/1.1" ∧
      (Source.call settings url).accept = "application/json" ∧
      ∀ c, settings.sourceCredentials = some c → (Source.call settings url).authorization =
        (Source.urlCredentials? url).toList.map Credentials.toBasic ++ [c.toBasic]) ∧
    (∀ settings' : Settings, settings'.sourceUrl = settings.sourceUrl →
      settings'.sourceCredentials = settings.sourceCredentials →
      Source.call settings' url = Source.call settings url ∧
      ∀ request request' d, Asks settings request → Asks settings' request' →
        (answer settings' request' d).calls = (answer settings request d).calls) ∧
    (url.username = "" → url.password = "" → ∀ c, settings.sourceCredentials = some c →
      ':' ∉ c.username.toList →
      ∃ value, (Source.call settings url).authorization = [value] ∧
        Credentials.ofBasic? value = some c) := by
  have asked : Source.AskedAt settings url := ⟨parsed, askable⟩
  refine ⟨?_, ?_, ⟨rfl, rfl, ?_⟩, ?_, ?_⟩
  · intro request d received
    refine ⟨calls_of_not_asks, fun asks => calls_of_stays asked asks received, ?_⟩
    intro asks
    rw [calls_of_asks asked asks]
    have some_call : 0 < (Source.follow 10 (Source.call settings url) d).calls.length :=
      Source.lt_length_follow_iff.mpr ⟨Nat.zero_le 10, Source.led_zero d, received⟩
    have first := List.getElem?_eq_getElem some_call
    refine ⟨first.trans (congrArg some (Source.eq_of_calls_zero first)), ?_, ?_⟩
    · intro n
      exact Source.lt_length_follow_iff
    · intro n c later
      exact ⟨Source.leadsTo_of_calls_succ later,
        Source.serves_of_mem_calls (Source.line_call settings url) (List.mem_of_getElem? later)⟩
  · intro exchanges stay
    exact calls_session asked stay
  · intro c set
    exact Source.authorization_call set
  · intro settings' address credentials
    have same : Source.call settings' url = Source.call settings url :=
      Source.call_congr credentials
    refine ⟨same, ?_⟩
    intro request request' d asks asks'
    have asked' : Source.AskedAt settings' url := ⟨address ▸ parsed, askable⟩
    rw [calls_of_asks asked' asks', calls_of_asks asked asks, same]
  · intro username password c set noColon
    refine ⟨c.toBasic, ?_, Credentials.ofBasic?_toBasic noColon⟩
    rw [Source.authorization_call set, Source.urlCredentials?_eq_none username password]
    rfl

/-- Two of these four requests ask: one that the source refuses, and one that it says nothing to. -/
theorem session_calls_two : ∃ call : Source.Call,
    (session { sourceUrl := "http://[::1]:8080/rows", sourceCredentials := some ⟨"svc", "p:w"⟩ }
      [(⟨"GET", ⟨"/odata/Transactions", some "$top=1"⟩, []⟩, .always (.sends [{ status := 503 }])),
        (⟨"POST", ⟨"/odata/Transactions", none⟩, []⟩, .silent),
        (⟨"GET", ⟨"/odata/$metadata", none⟩, []⟩, .silent),
        (⟨"HEAD", ⟨"/odata/Transactions", none⟩, []⟩, .silent)]).flatMap Outcome.calls =
      [call, call] ∧
    call.line = "GET /rows HTTP/1.1" ∧
    ∃ value, call.authorization = [value] ∧
      Credentials.ofBasic? value = some ⟨"svc", "p:w"⟩ := by
  have parsed : Url.parse? "http://[::1]:8080/rows" = some (Source.loopback "rows") := by
    decide +kernel
  obtain ⟨-, run, ⟨line, -⟩, -, readBack⟩ := session_calls
    { sourceUrl := "http://[::1]:8080/rows", sourceCredentials := some ⟨"svc", "p:w"⟩ }
    (Source.loopback "rows") parsed (by decide +kernel)
  refine ⟨_, run _ ?_, line.trans (by decide +kernel), readBack rfl rfl _ rfl (by decide)⟩
  have refusing : ¬ Source.SendsOn (.sends [{ status := 503 }]) := by
    rintro ⟨url, ⟨m, answered, next⟩, -⟩
    cases answered
    cases next
  have silent : ¬ Source.SendsOn (.sends []) := by
    rintro ⟨url, ⟨m, answered, -⟩, -⟩
    cases answered
  -- all of them are received, and no reply sends the asker on
  intro e he
  simp only [List.mem_cons, List.not_mem_nil, or_false] at he
  rcases he with rfl | rfl | rfl | rfl
  · exact ⟨rfl, refusing⟩
  · exact ⟨rfl, silent⟩
  · exact ⟨rfl, silent⟩
  · exact ⟨rfl, silent⟩

/-- A source that always sends the asker back to where it was is asked eleven times. -/
theorem calls_back {r : Source.Reply} (asked : Source.AskedAt settings url)
    (asks : Asks settings request) (username : url.username = "") (password : url.password = "")
    (leads : Source.LeadsTo r url) :
    (answer settings request (.always r)).calls =
      List.replicate 11 (Source.call settings url) := by
  rw [calls_of_asks asked asks]
  exact Source.calls_follow_back leads asked.2 (Source.redirected_call username password) 10

/-- One request of a client makes eleven calls where each answer is a redirect to the address that
was asked. -/
theorem calls_sent_back :
    Source.AskedAt (.ofSource "http://[::1]:8080/rows") (Source.loopback "rows") ∧
    Asks (.ofSource "http://[::1]:8080/rows") ⟨"GET", ⟨"/odata/Transactions", none⟩, []⟩ ∧
    (answer (.ofSource "http://[::1]:8080/rows") ⟨"GET", ⟨"/odata/Transactions", none⟩, []⟩
      (.always (.sends [{ status := 302, location := some (Source.loopback "rows") }]))).calls =
      List.replicate 11 (Source.call (.ofSource "http://[::1]:8080/rows")
        (Source.loopback "rows")) := by
  have asked : Source.AskedAt (.ofSource "http://[::1]:8080/rows") (Source.loopback "rows") :=
    ⟨by decide +kernel, by decide +kernel⟩
  have asks : Asks (.ofSource "http://[::1]:8080/rows")
      ⟨"GET", ⟨"/odata/Transactions", none⟩, []⟩ :=
    ⟨rfl, Or.inl rfl, fun _ set => absurd set.symm (Option.some_ne_none _)⟩
  exact ⟨asked, asks, calls_back asked asks rfl rfl ⟨_, rfl, rfl⟩⟩

end Service

end ODataGateway
