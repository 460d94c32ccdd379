/-
# ODataGateway.Url.Reader — reading absolute addresses.

Reading is forgiving in the way of the web: blanks and controls around the text and line breaks
inside it do not count, back slashes stand for slashes in the schemes that the web knows, and
characters that may not stand for themselves are encoded.  What makes an address unreadable is a
missing scheme, a missing host where one is needed, an unreadable host, or a number after the host
that is none.
-/
import ODataGateway.Url.Basic

namespace ODataGateway.Url

/-! ## Schemes -/

/-- The schemes that the web knows, with the number that each stands for. -/
def knownSchemes : List (String × Option Nat) :=
  [("http", some 80), ("https", some 443), ("ftp", some 21), ("ws", some 80), ("wss", some 443),
   ("file", none)]

/-- Whether the web knows a scheme. -/
def isKnown (scheme : String) : Bool := (knownSchemes.lookup scheme).isSome

/-- The characters that separate segments. -/
def isSlash (known : Bool) (c : Char) : Bool := c = '/' || (known && c = '\\')

/-! ## Taking texts apart -/

/-- The text without controls and spaces at the ends, and without tabs and line breaks. -/
def clean (s : List Char) : List Char :=
  let atEdge (c : Char) : Bool := c.toNat ≤ 0x20
  let trimmed := ((s.dropWhile atEdge).reverse.dropWhile atEdge).reverse
  trimmed.filter fun c => c ≠ '\t' && c ≠ '\n' && c ≠ '\r'

/-- The scheme of a text in lower case and what follows its colon. -/
def splitScheme (s : List Char) : Option (String × List Char) :=
  let isSchemeChar (c : Char) : Bool := c.isAlphanum || c = '+' || c = '-' || c = '.'
  match s with
  | [] => none
  | c :: _ =>
    match s.dropWhile isSchemeChar with
    | ':' :: rest =>
      if c.isAlpha then
        some (String.ofList ((s.takeWhile isSchemeChar).map Char.toLower), rest)
      else none
    | _ => none

/-- A text cut at its query and fragment: what comes before, the query and the fragment. -/
def splitTail (s : List Char) : List Char × Option (List Char) × Option (List Char) :=
  let (s, fragment) := match Text.splitOnce '#' s with
    | some (before, after) => (before, some after)
    | none => (s, none)
  match Text.splitOnce '?' s with
  | some (before, after) => (before, some after, fragment)
  | none => (s, none, fragment)

/-- A text cut at its last `@`. -/
def splitUserinfo (s : List Char) : Option (List Char × List Char) :=
  (Text.splitOnce '@' s.reverse).map fun (after, before) => (before.reverse, after.reverse)

/-- A host cut off at the first colon outside brackets. -/
def splitHost (inBrackets : Bool) : List Char → List Char × Option (List Char)
  | [] => ([], none)
  | c :: rest =>
    if c = ':' && !inBrackets then ([], some rest)
    else
      let inBrackets := if c = '[' then true else if c = ']' then false else inBrackets
      let (host, after) := splitHost inBrackets rest
      (c :: host, after)

/-- The number after a host; none is an empty text or the number that the scheme stands for. -/
def readNumber (scheme : String) (ds : List Char) : Option (Option Nat) :=
  if ds.isEmpty then some none
  else if !ds.all Char.isDigit then none
  else
    (numberIn? 10 ds).bind fun n =>
      if 65535 < n then none
      else if (knownSchemes.lookup scheme).join = some n then some none
      else some (some n)

/-! ## Paths -/

/-- Whether a segment stands for its parent or for itself, in any of their spellings. -/
def dotCount (segment : List Char) : Option Nat :=
  let rec count : List Char → Option Nat
    | [] => some 0
    | '.' :: rest => (count rest).map (· + 1)
    | '%' :: '2' :: 'e' :: rest | '%' :: '2' :: 'E' :: rest => (count rest).map (· + 1)
    | _ => none
  (count segment).filter fun n => n = 1 || n = 2

/-- Whether a segment is a letter and a colon or bar, which names a drive. -/
def isDrive : List Char → Bool
  | [c, d] => c.isAlpha && (d = ':' || d = '|')
  | _ => false

/-- The segments without the last one.  The drive of a file stays. -/
def shorten (scheme : String) (names : List (List Char)) : List (List Char) :=
  match scheme, names with
  | "file", [[c, ':']] => if c.isAlpha then names else names.dropLast
  | _, _ => names.dropLast

/-- Adds segments one by one to those that are there; the last of them leaves an empty segment
where it stands for a parent or for itself. -/
def addSegments (scheme : String) (names : List (List Char)) : List (List Char) → List (List Char)
  | [] => names
  | segment :: rest =>
    match dotCount segment with
    | some 2 =>
      let names := shorten scheme names
      if rest.isEmpty then names ++ [[]] else addSegments scheme names rest
    | some _ => if rest.isEmpty then names ++ [[]] else addSegments scheme names rest
    | none =>
      let segment :=
        if scheme = "file" && names.isEmpty && isDrive segment then segment.take 1 ++ [':']
        else Text.percentEncode .path segment
      addSegments scheme (names ++ [segment]) rest

/-- The segments of the text after a host. -/
def readPath (scheme : String) (s : List Char) : Path :=
  let known := isKnown scheme
  match s with
  | [] => .segments (if known then [""] else [])
  | c :: rest =>
    let s := if isSlash known c then rest else s
    let s := s.map fun c => if isSlash known c then '/' else c
    .segments ((addSegments scheme [] (Text.pieces '/' s)).map String.ofList)

/-! ## Reading -/

/-- The part of a text that names a host, and the path after it. -/
def splitAuthority (known : Bool) (s : List Char) : List Char × List Char :=
  (s.takeWhile (!isSlash known ·), s.dropWhile (!isSlash known ·))

/-- User name, password, host and number. -/
def readAuthority (url : Url) (s : List Char) : Option Url := do
  let known := isKnown url.scheme
  let (userinfo, s) := match splitUserinfo s with
    | some (userinfo, rest) => (some userinfo, rest)
    | none => (none, s)
  let (host, number) := splitHost false s
  if host.isEmpty && (known || userinfo.isSome || number.isSome) then none
  let host ← if host.isEmpty then some (Host.opaqueText "") else Host.parse? known host
  let number ← readNumber url.scheme (number.getD [])
  let (name, word) := (Text.splitOnce ':' (userinfo.getD [])).getD (userinfo.getD [], [])
  let encode (s : List Char) : String := String.ofList (Text.percentEncode .userinfo s)
  some { url with host := host, number := number, username := encode name, password := encode word }

/-- An address of the scheme `file`: a host may come after two slashes, and a drive is none. -/
def readFile (url : Url) (s : List Char) : Option Url :=
  match s with
  | c :: d :: rest =>
    if isSlash true c && isSlash true d then
      let (name, path) := splitAuthority true rest
      if isDrive name then
        some { url with host := some (.domain ""), path := readPath "file" rest }
      else do
        let host ← if name.isEmpty then some (Host.domain "") else Host.parse? true name
        let host := if host = .domain "localhost" then Host.domain "" else host
        some { url with host := some host, path := readPath "file" path }
    else some { url with host := some (.domain ""), path := readPath "file" s }
  | s => some { url with host := some (.domain ""), path := readPath "file" s }

/-- What follows the scheme, query and fragment apart. -/
def readHierarchy (url : Url) (s : List Char) : Option Url :=
  if url.scheme = "file" then readFile url s
  else if isKnown url.scheme then do
    let (authority, path) := splitAuthority true (s.dropWhile (isSlash true))
    let url ← readAuthority url authority
    some { url with path := readPath url.scheme path }
  else
    match s with
    | '/' :: '/' :: rest => do
      let (authority, path) := splitAuthority false rest
      let url ← readAuthority url authority
      some { url with path := readPath url.scheme path }
    | '/' :: _ => some { url with path := readPath url.scheme s }
    | _ =>
      some { url with path := .opaqueText (String.ofList (Text.percentEncode .control s)) }

/-- Reads an absolute address. -/
def parse? (text : String) : Option Url := do
  let (scheme, s) ← splitScheme (clean text.toList)
  let (s, query, fragment) := splitTail s
  let querySet := if isKnown scheme then Text.EncodeSet.specialQuery else .query
  let encode (set : Text.EncodeSet) (s : List Char) : String :=
    String.ofList (Text.percentEncode set s)
  readHierarchy
    { scheme, path := .segments [], query := query.map (encode querySet),
      fragment := fragment.map (encode .fragment) } s

end ODataGateway.Url
