/-
# ODataGateway.Http.Message — requests and responses.

Names of header fields are compared without regard to case and therefore kept in lower case.  Of a
repeated name the first value counts.  A value may hold characters beyond ASCII, but it then has no
reading as text.

A request target is a path, or an absolute address that carries one; a fragment is no part of it.
The path is taken as written, without decoding.

A query string holds pairs of name and value.  Its pieces are separated by `&`, and the first `=` of
a piece separates name and value.  A plus is a space.  A percent sign that is not followed by two
hexadecimal digits stands for itself, and bytes that are no characters become U+FFFD, so every query
string can be read.
-/
import ODataGateway.Json.Basic
import ODataGateway.Text.Basic
import ODataGateway.Text.Bytes

namespace ODataGateway

/-! ## Header fields -/

/-- A header field. -/
structure Header where
  name : String
  value : String
deriving DecidableEq, Repr

namespace Header

/-- The characters of a token. -/
def isTokenChar (c : Char) : Bool := c.isAlphanum || "!#$%&'*+-.^_\x60|~".toList.contains c

/-- The characters of a value: no control characters but the tab. -/
def isValueChar (c : Char) : Bool := c = '\t' || (0x20 ≤ c.toNat && c.toNat ≠ 0x7F)

/-- A header field of a name and a value, if they can be that of one. -/
def ofPair? (name value : String) : Option Header :=
  if !name.isEmpty && name.toList.all isTokenChar && value.toList.all isValueChar then
    some ⟨name.toLower, value⟩
  else none

/-- The value as text: the printing characters of ASCII and the tab. -/
def text? (h : Header) : Option String :=
  if h.value.toList.all fun c => c = '\t' || (0x20 ≤ c.toNat && c.toNat < 0x7F) then some h.value
  else none

end Header

/-- The header fields of a message in the order of the message. -/
abbrev Headers := List Header

namespace Headers

/-- The first field of a name. -/
def first? (hs : Headers) (name : String) : Option Header := hs.find? (·.name == name)

/-- The first value of a name as text. -/
def text? (hs : Headers) (name : String) : Option String := (hs.first? name).bind Header.text?

/-- The address under which the client sees the service.  Without a host it is empty, which leaves
all addresses relative; the scheme is `http` unless a proxy says otherwise. -/
def serviceRoot (hs : Headers) : String :=
  match hs.text? "host" with
  | none => ""
  | some host => ((hs.text? "x-forwarded-proto").getD "http") ++ "://" ++ host ++ "/odata/"

end Headers

/-! ## Targets -/

/-- What a request asks for: a path and, after the question mark, a query string. -/
structure Target where
  path : String
  query : Option String
deriving DecidableEq, Repr

namespace Target

/-- The characters of a scheme. -/
def isSchemeChar (c : Char) : Bool := c.isAlphanum || c = '+' || c = '-' || c = '.'

/-- The part of an absolute address from its path on, or the whole of a target that is none.  An
address without a path has the root path. -/
def fromPath (s : List Char) : List Char :=
  let scheme := s.takeWhile isSchemeChar
  match s.drop scheme.length with
  | ':' :: '/' :: '/' :: r =>
    let rest := r.dropWhile fun c => c ≠ '/' && c ≠ '?' && c ≠ '#'
    if rest.head? = some '/' then rest else '/' :: rest
  | _ => s

/-- The target that a text spells.  What is neither a path nor an address, such as a bare host, has
no path but itself. -/
def ofString (s : String) : Target :=
  let s := (if s.startsWith "/" then s.toList else fromPath s.toList).takeWhile (· ≠ '#')
  match Text.splitOnce '?' s with
  | some (path, query) => ⟨String.ofList path, some (String.ofList query)⟩
  | none => ⟨String.ofList s, none⟩

end Target

/-! ## Requests -/

/-- A request of a client. -/
structure Request where
  method : String
  target : Target
  headers : Headers

/-! ## Responses -/

/-- An answer to a client. -/
structure Response where
  status : Nat
  headers : Headers
  body : String
deriving DecidableEq, Repr

namespace Response

/-- A response with a body of the given media type. -/
def ofBody (status : Nat) (mediaType body : String) : Response :=
  ⟨status, [⟨"content-type", mediaType⟩], body⟩

/-- A response with a JSON body. -/
def ofJson (status : Nat) (v : Json) : Response := ofBody status "application/json" v.text

/-- A response without a body. -/
def bare (status : Nat) : Response := ⟨status, [], ""⟩

/-- The response with one header field more. -/
def withHeader (r : Response) (name value : String) : Response :=
  { r with headers := r.headers ++ [⟨name, value⟩] }

/-- The response with the length of its body in bytes. -/
def withLength (r : Response) : Response :=
  r.withHeader "content-length" (toString r.body.utf8ByteSize)

/-- The response without its body, header fields kept. -/
def withoutBody (r : Response) : Response := { r with body := "" }

end Response

end ODataGateway

namespace ODataGateway.Form

/-! ## Query strings -/

/-- The text of a name or a value. -/
def decode (bytes : List UInt8) : String :=
  String.ofList <| Text.decodeLossy <| Text.percentDecode <|
    bytes.map fun b => if b = 0x2B then 0x20 else b

/-- The pair in a piece; a piece without `=` is a name with an empty value. -/
def pair (piece : List UInt8) : String × String :=
  match Text.splitOnce 0x3D piece with
  | some (name, value) => (decode name, decode value)
  | none => (decode piece, "")

/-- The pairs of a query string; empty pieces are passed over. -/
def pairs (query : String) : List (String × String) :=
  ((Text.pieces 0x26 (Text.utf8 query)).filter fun piece => !piece.isEmpty).map pair

end ODataGateway.Form
