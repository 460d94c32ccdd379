/-
# ODataGateway.Url.Basic — absolute addresses and their written form.

An address has a scheme and then either a host with what belongs to it and a path of segments, or a
path that is not looked into.  All parts are held in their encoded form, so writing only puts them
together.  Schemes that the web knows have domains or numbers as hosts, and a domain is brought to
its ASCII form.  With any other scheme the host is an opaque text.
-/
import ODataGateway.Text.Bytes
import ODataGateway.Url.Address
import ODataGateway.Url.Domain

namespace ODataGateway.Url

/-! ## Hosts -/

/-- A host. -/
inductive Host where
  | domain (name : String)
  | ipv4 (address : Nat)
  | ipv6 (pieces : List Nat)
  | opaqueText (text : String)
deriving DecidableEq, Repr

namespace Host

/-- The host as it stands in an address. -/
def text : Host → String
  | domain name => name
  | ipv4 a => ipv4Text a
  | ipv6 ps => "[" ++ ipv6Text ps ++ "]"
  | opaqueText s => s

/-- The characters that no host may hold. -/
def isForbidden (c : Char) : Bool :=
  c.toNat = 0 || "\t\n\r #/:<>?@[\\]^|".toList.contains c

/-- Reads the host of a scheme that the web knows.  What is left of a domain in ASCII decides
whether it is an address after all. -/
def ofDomain? (s : List Char) : Option Host := do
  let decoded ← Text.decode? (Text.percentDecode (Text.utf8 (String.ofList s)))
  let name ← Domain.toAscii? decoded
  if name.isEmpty then none
  else if endsInNumber name then (ipv4? name).map ipv4
  else some (domain (String.ofList name))

/-- Reads a host; `special` says whether the web knows the scheme. -/
def parse? (special : Bool) (s : List Char) : Option Host :=
  match s with
  | '[' :: rest =>
    if rest.getLast? = some ']' then (ipv6? rest.dropLast).map ipv6 else none
  | _ =>
    if special then ofDomain? s
    else if s.any isForbidden then none
    else some (opaqueText (String.ofList (Text.percentEncode .control s)))

end Host

end ODataGateway.Url

namespace ODataGateway

/-! ## Parts -/

/-- The path of an address: a text that is not looked into, or segments. -/
inductive Url.Path where
  | opaqueText (text : String)
  | segments (names : List String)
deriving DecidableEq, Repr

/-- An absolute address. -/
structure Url where
  scheme : String
  username : String := ""
  password : String := ""
  host : Option Url.Host := none
  /-- The number after the host, unless it is the one that the scheme stands for. -/
  number : Option Nat := none
  path : Url.Path
  query : Option String := none
  fragment : Option String := none
deriving DecidableEq, Repr

namespace Url

/-! ## Writing -/

/-- The path as written. -/
def pathText (url : Url) : String :=
  match url.path with
  | .opaqueText s => s
  | .segments names => String.join (names.map ("/" ++ ·))

/-- The host and its number as written. -/
def hostText (url : Url) : String :=
  match url.host with
  | none => ""
  | some h => h.text ++ (url.number.map fun n => s!":{n}").getD ""

/-- The user name and password as written, with the `@` after them. -/
def userinfoText (url : Url) : String :=
  if url.username.isEmpty && url.password.isEmpty then ""
  else url.username ++ (if url.password.isEmpty then "" else ":" ++ url.password) ++ "@"

/-- What is put before a path that could be taken for a host. -/
def pathGuard (url : Url) : String :=
  match url.host, url.path with
  | none, .segments ("" :: _ :: _) => "/."
  | _, _ => ""

/-- The address as written. -/
def text (url : Url) : String :=
  url.scheme ++ ":" ++ (if url.host.isSome then "//" ++ url.userinfoText ++ url.hostText else "") ++
    url.pathGuard ++ url.pathText ++ ((url.query.map ("?" ++ ·)).getD "") ++
    ((url.fragment.map ("#" ++ ·)).getD "")

/-- The path and query as a request line has them. -/
def requestTarget (url : Url) : String := url.pathText ++ ((url.query.map ("?" ++ ·)).getD "")

end Url

end ODataGateway
