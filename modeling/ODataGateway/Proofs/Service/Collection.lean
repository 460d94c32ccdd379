/-
# ODataGateway.Proofs.Service.Collection — which failure of a query for the collection comes first.

The source is asked before the filter is looked at.  So as long as the source brings no items the
answer tells nothing of the query, and whether filters are read strictly makes no difference
either.  Once there are items, the only thing that can go wrong is a filter that cannot be read, and
only where filters are read strictly (`Service.answer_precedence`).
-/
import ODataGateway.Proofs.Number.Counts
import ODataGateway.Proofs.Plan.Degraded
import ODataGateway.Proofs.Query.Pairs
import ODataGateway.Proofs.Service.Asking
import ODataGateway.Proofs.Service.Guard

namespace ODataGateway

/-! ## The way to the collection -/

/-- One path leads to the collection. -/
theorem Route.ofPath_eq_collection_iff {path : String} :
    ofPath path = .collection ↔ path = "/odata/Transactions" := by
  constructor
  · intro h
    unfold ofPath at h
    split at h
    · exact nomatch h
    · split at h
      · exact nomatch h
      · split at h
        · assumption
        · split at h
          · exact nomatch h
          · split at h <;> exact nomatch h
  · rintro rfl
    rfl

/-! ## Failures as answers -/

namespace Failure

theorem text_body_timeout :
    sourceTimeout.body.text = "\x7b\"error\":\"Upstream timeout\"\x7d" := by decide +kernel

/-- The status that the source gave stands in the body as a number. -/
theorem text_body_sourceStatus (status : Nat) : (sourceStatus status).body.text =
    "\x7b\"error\":\"Upstream API error\",\"status\":" ++ toString status ++ "\x7d" := by
  have number : Layout.integer (status : Int) = (toString status).toList := by
    rw [Layout.toList_toString_nat, Layout.integer, if_neg (by omega), Int.natAbs_natCast]
  have before : '\x7b' :: (Json.quote "error" ++ ':' :: Json.quote "Upstream API error" ++ ',' ::
      (Json.quote "status" ++ [':'])) =
      "\x7b\"error\":\"Upstream API error\",\"status\":".toList := by decide
  have written : (sourceStatus status).body.write =
      '\x7b' :: (Json.quote "error" ++ ':' :: Json.quote "Upstream API error" ++ ',' ::
        (Json.quote "status" ++ [':'])) ++ (Layout.integer (status : Int) ++ ['\x7d']) := by
    simp [body, Json.write, Json.writeMembers]
  rw [Json.text, written, before, number, ← String.toList_inj, String.toList_ofList,
    String.toList_append, String.toList_append, List.append_assoc]
  rfl

end Failure

namespace Service

open Source (Brings Late Refuses)

variable {settings : Settings} {request : Request} {d : Source.Delivery} {vs : List Json}
  {f : Failure}

/-- The options that a query string gives. -/
def optionsOf (query : Option String) : Options := Options.ofPairs (Form.pairs (query.getD ""))

/-- The first filter in a query string. -/
def firstFilter? (query : Option String) : Option String :=
  (Form.pairs (query.getD "")).lookup "$filter"

theorem filter_optionsOf (query : Option String) : (optionsOf query).filter = firstFilter? query :=
  Options.get_ofPairs (Form.pairs (query.getD "")) .filter

/-- The rows that items make. -/
def rowsOf (vs : List Json) : List Row := vs.map (Row.ofJson .transactions)

/-- The response that gives an answer. -/
def given (request : Request) (a : Answer) : Response :=
  versioned (.ofJson 200 (a.toJson request.headers.serviceRoot Schema.transactions.entitySet))

/-! ## What the collection answers -/

theorem getResponse_of_failure (h : Source.fetch settings d = .error f) :
    getResponse settings request d .collection = f.response := by
  have failed : collectionResponse settings request d = .error f := by
    unfold collectionResponse
    rw [h]
    rfl
  unfold getResponse
  rw [failed]

theorem getResponse_lenient (h : Source.fetch settings d = .ok vs)
    (lenient : settings.strictFilter = false) :
    getResponse settings request d .collection =
      given request (Answer.lenient (optionsOf request.target.query) (rowsOf vs)) := by
  have served : collectionResponse settings request d =
      .ok (given request (Answer.lenient (optionsOf request.target.query) (rowsOf vs))) := by
    unfold collectionResponse
    rw [h, lenient]
    rfl
  unfold getResponse
  rw [served]

theorem getResponse_strict (h : Source.fetch settings d = .ok vs)
    (strict : settings.strictFilter = true) :
    getResponse settings request d .collection =
      match Answer.strict (optionsOf request.target.query) (rowsOf vs) with
      | .ok a => given request a
      | .error e => (Failure.badFilter e).response := by
  have served : collectionResponse settings request d =
      (Answer.strict (optionsOf request.target.query) (rowsOf vs)).mapError Failure.badFilter >>=
        fun a => .ok (given request a) := by
    unfold collectionResponse
    rw [h, strict]
    rfl
  unfold getResponse
  rw [served]
  cases Answer.strict (optionsOf request.target.query) (rowsOf vs) with
  | ok a => rfl
  | error e => rfl

/-- The answer to a request for the collection that is let through. -/
theorem answer_collection (get : request.method = "GET")
    (path : request.target.path = "/odata/Transactions")
    (admitted : Admits settings request.headers) :
    answer settings request d =
      ⟨(getResponse settings request d .collection).withLength, Source.received settings d⟩ := by
  have route : Route.ofPath request.target.path = .collection :=
    Route.ofPath_eq_collection_iff.mpr path
  have handled : handle settings request d .collection =
      ⟨getResponse settings request d .collection, Source.received settings d⟩ := by
    unfold handle
    rw [isAdmitted_iff_admits.mpr admitted, get]
    rfl
  simp only [answer, withAllow, route, handled, get]
  rfl

/-! ## Two queries at once -/

/-- The settings with filters read strictly or not. -/
def reading (settings : Settings) (strict : Bool) : Settings :=
  { settings with strictFilter := strict }

/-- The request with another query string. -/
def asking (request : Request) (query : Option String) : Request :=
  { request with target := ⟨request.target.path, query⟩ }

/-- The outcome of a request with another query string, where filters are read strictly or not. -/
def queried (settings : Settings) (request : Request) (d : Source.Delivery)
    (query : Option String) (strict : Bool) : Outcome :=
  answer (reading settings strict) (asking request query) d

/-- The first filter of a query is not blank and cannot be read. -/
def Misread (query : Option String) (e : Diagnostic) : Prop :=
  ∃ s, firstFilter? query = some s ∧ Text.allBlank s = false ∧ Filter.parse s = .error e

/-- A filter is misread by itself, whatever rows there are. -/
theorem strict_eq_error_iff_misread {query : Option String} {rows : List Row} {e : Diagnostic} :
    Answer.strict (optionsOf query) rows = .error e ↔ Misread query e := by
  rw [Answer.strict_eq_error_iff, filter_optionsOf]
  rfl

section

variable (get : request.method = "GET") (path : request.target.path = "/odata/Transactions")
  (admitted : Admits settings request.headers)

include get path admitted

theorem queried_eq (query : Option String) (strict : Bool) :
    queried settings request d query strict =
      ⟨(getResponse (reading settings strict) (asking request query) d .collection).withLength,
        Source.received settings d⟩ := by
  have method : (asking request query).method = "GET" := get
  have target : (asking request query).target.path = "/odata/Transactions" := path
  have through : Admits (reading settings strict) (asking request query).headers := admitted
  exact answer_collection method target through

/-- Without items the outcome is the same for every query, strict or not. -/
theorem queried_of_failure (h : Source.fetch settings d = .error f) (query : Option String)
    (strict : Bool) :
    queried settings request d query strict =
      ⟨f.response.withLength, Source.received settings d⟩ := by
  have failed : Source.fetch (reading settings strict) d = .error f := h
  rw [queried_eq get path admitted, getResponse_of_failure failed]

theorem queried_lenient (h : Source.fetch settings d = .ok vs) (query : Option String) :
    queried settings request d query false =
      ⟨(given request (Answer.lenient (optionsOf query) (rowsOf vs))).withLength,
        Source.received settings d⟩ := by
  have fetched : Source.fetch (reading settings false) d = .ok vs := h
  rw [queried_eq get path admitted, getResponse_lenient fetched rfl]
  rfl

theorem queried_strict (h : Source.fetch settings d = .ok vs) (query : Option String) :
    queried settings request d query true =
      match Answer.strict (optionsOf query) (rowsOf vs) with
      | .ok a => ⟨(given request a).withLength, Source.received settings d⟩
      | .error e =>
        ⟨(Failure.badFilter e).response.withLength, Source.received settings d⟩ := by
  have fetched : Source.fetch (reading settings true) d = .ok vs := h
  rw [queried_eq get path admitted, getResponse_strict fetched rfl]
  show (⟨Response.withLength (match Answer.strict (optionsOf query) (rowsOf vs) with
    | .ok a => given (asking request query) a
    | .error e => (Failure.badFilter e).response), _⟩ : Outcome) = _
  cases Answer.strict (optionsOf query) (rowsOf vs) with
  | ok a => rfl
  | error e => rfl

/-- Read strictly, a filter that is misread is the client's failure. -/
theorem queried_misread (h : Source.fetch settings d = .ok vs) {query : Option String}
    {e : Diagnostic} (misread : Misread query e) :
    queried settings request d query true =
      ⟨(Failure.badFilter e).response.withLength, Source.received settings d⟩ := by
  rw [queried_strict get path admitted h, strict_eq_error_iff_misread.mpr misread]

/-- Any other filter is answered as if it were not read strictly. -/
theorem queried_readable (h : Source.fetch settings d = .ok vs) {query : Option String}
    (readable : ¬ ∃ e, Misread query e) :
    queried settings request d query true = queried settings request d query false := by
  have strict : Answer.strict (optionsOf query) (rowsOf vs) =
      .ok (Answer.lenient (optionsOf query) (rowsOf vs)) := by
    rcases Answer.strict_error_or_lenient (optionsOf query) (rowsOf vs) with ⟨e, failed⟩ | same
    · exact absurd ⟨e, strict_eq_error_iff_misread.mp failed⟩ readable
    · exact same
  rw [queried_strict get path admitted h, strict, queried_lenient get path admitted h]

end

end Service

end ODataGateway
