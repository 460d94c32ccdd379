/-
# ODataGateway.Http.Credentials — user names and passwords, and the Basic scheme.

A Basic header value is the word `Basic` in any case, a space, and the base64 text of name, colon
and password.  The name ends at the first colon, so a name with a colon cannot be sent.
Credentials are compared without looking at where they differ: every byte of both is gone through,
and the differences are collected.
-/
import ODataGateway.Http.Message
import ODataGateway.Text.Bytes
import ODataGateway.Text.Basic
import ODataGateway.Text.Printable

namespace ODataGateway

/-! ## Comparing bytes -/

/-- The bytes of two sequences place by place; where one has ended a zero stands in. -/
def Text.pairUp : List UInt8 → List UInt8 → List (UInt8 × UInt8)
  | [], [] => []
  | a :: as, [] => (a, 0) :: pairUp as []
  | [], b :: bs => (0, b) :: pairUp [] bs
  | a :: as, b :: bs => (a, b) :: pairUp as bs

/-- The pairs are as many as the longer sequence has bytes. -/
theorem Text.length_pairUp (as bs : List UInt8) :
    (pairUp as bs).length = max as.length bs.length := by
  fun_induction pairUp as bs with
  | case1 => rfl
  | case2 a as ih => simp [ih]
  | case3 b bs ih => simp [ih]
  | case4 a as b bs ih => simp only [List.length_cons, ih]; omega

/-- Whether two sequences are the same.  The differences of all pairs and of the lengths are
gathered before the verdict. -/
def Text.sameBytes (as bs : List UInt8) : Bool :=
  (pairUp as bs).foldl (fun gathered p => gathered ||| (p.1 ^^^ p.2).toNat)
    (as.length ^^^ bs.length) == 0

/-! ## Credentials -/

/-- A user name and a password. -/
structure Credentials where
  username : String
  password : String
deriving DecidableEq

namespace Credentials

/-- The credentials in a Basic header value. -/
def ofBasic? (value : String) : Option Credentials := do
  let (scheme, encoded) ← Text.splitOnce ' ' (Text.trim value.toList)
  guard (scheme.map Char.toLower = ['b', 'a', 's', 'i', 'c'])
  let bytes ← Text.Base64.decode? (Text.trim encoded)
  let decoded ← Text.decode? bytes
  let (username, password) ← Text.splitOnce ':' decoded
  some ⟨String.ofList username, String.ofList password⟩

/-- The Basic header value of credentials. -/
def toBasic (c : Credentials) : String :=
  "Basic " ++ String.ofList (Text.Base64.encode (Text.utf8 (c.username ++ ":" ++ c.password)))

/-- The credentials in the first `Authorization` field. -/
def ofHeaders? (hs : Headers) : Option Credentials := (hs.text? "authorization").bind ofBasic?

/-- Whether both halves are the expected ones; both are always looked at. -/
def matchesExpected (supplied expected : Credentials) : Bool :=
  let name := Text.sameBytes (Text.utf8 supplied.username) (Text.utf8 expected.username)
  let word := Text.sameBytes (Text.utf8 supplied.password) (Text.utf8 expected.password)
  name && word

/-- Credentials as shown in diagnostics; the password never is. -/
def display (c : Credentials) : String :=
  "BasicCredentials \x7b username: " ++ Text.quoted c.username ++
    ", password: \"<redacted>\" \x7d"

end Credentials

end ODataGateway
