/-
# ODataGateway.Url.Address — host addresses made of numbers.

An address of the fourth version is written with up to four numbers, of which the last fills all
the bytes that are left; each may be decimal, octal or hexadecimal.  One of the sixth version has
eight pieces, of which a run of zeros may be left out once and the last two may be written as an
address of the fourth version.
-/
import ODataGateway.Text.Basic

namespace ODataGateway.Url

/-! ## The fourth version -/

/-- The value of a digit in a radix. -/
def digitIn? (radix : Nat) (c : Char) : Option Nat :=
  let value :=
    if c.isDigit then c.toNat - '0'.toNat
    else if 'a' ≤ c && c ≤ 'f' then c.toNat - 'a'.toNat + 10
    else if 'A' ≤ c && c ≤ 'F' then c.toNat - 'A'.toNat + 10
    else radix
  if value < radix then some value else none

/-- The number that digits spell in a radix; no digits spell zero. -/
def numberIn? (radix : Nat) (ds : List Char) : Option Nat :=
  ds.foldlM (fun value c => (digitIn? radix c).map (radix * value + ·)) 0

/-- The number of one part: hexadecimal after `0x`, octal after a nought, else decimal. -/
def partNumber? : List Char → Option Nat
  | [] => none
  | '0' :: 'x' :: ds | '0' :: 'X' :: ds => numberIn? 16 ds
  | '0' :: d :: ds => numberIn? 8 (d :: ds)
  | ds => numberIn? 10 ds

/-- The parts between points; a point at the end adds none. -/
def addressParts (s : List Char) : List (List Char) :=
  let parts := Text.pieces '.' s
  if parts.length > 1 && parts.getLast? = some [] then parts.dropLast else parts

/-- Whether a host is to be read as an address: its last part is a number or all digits. -/
def endsInNumber (s : List Char) : Bool :=
  match (addressParts s).getLast? with
  | none | some [] => false
  | some part => part.all Char.isDigit || (partNumber? part).isSome

/-- The address of a list of numbers: each but the last is a byte, the last fills the rest. -/
def joinNumbers? (ns : List Nat) : Option Nat :=
  let whole := ns.dropLast
  let last := ns.getLastD 0
  let scale := Nat.pow 256 (4 - whole.length)
  if ns.isEmpty || ns.length > 4 || whole.any (255 < ·) || scale ≤ last then none
  else some (whole.foldl (fun value n => 256 * value + n) 0 * scale + last)

/-- Reads an address of the fourth version. -/
def ipv4? (s : List Char) : Option Nat := ((addressParts s).mapM partNumber?).bind joinNumbers?

/-- The four bytes of an address, most significant first. -/
def ipv4Bytes (a : Nat) : List Nat :=
  [a / 0x1000000 % 256, a / 0x10000 % 256, a / 0x100 % 256, a % 256]

/-- Writes an address of the fourth version as four decimal bytes. -/
def ipv4Text (a : Nat) : String := ".".intercalate ((ipv4Bytes a).map toString)

/-! ## The sixth version -/

/-- A decimal byte without needless noughts. -/
def plainByte? (ds : List Char) : Option Nat :=
  if ds.isEmpty || ds.length > 3 || (ds.length > 1 && ds.head? = some '0') then none
  else (numberIn? 10 ds).bind fun n => if n < 256 then some n else none

/-- The two pieces of an address of the fourth version written out in full. -/
def tailPieces? (s : List Char) : Option (List Nat) := do
  let [a, b, c, d] ← (Text.pieces '.' s).mapM plainByte? | none
  some [a * 256 + b, c * 256 + d]

/-- A piece of one to four hexadecimal digits. -/
def piece? (ds : List Char) : Option Nat :=
  if ds.isEmpty || ds.length > 4 then none else numberIn? 16 ds

/-- The pieces between colons.  Only the last may be an address of the fourth version. -/
def pieces? (allowTail : Bool) : List (List Char) → Option (List Nat)
  | [] => some []
  | [last] =>
    if allowTail && last.contains '.' then tailPieces? last else (piece? last).map ([·])
  | p :: rest => do
    let n ← piece? p
    let ns ← pieces? allowTail rest
    some (n :: ns)

/-- The pieces of one side of the gap; an empty side has none. -/
def side? (allowTail : Bool) (s : List Char) : Option (List Nat) :=
  if s.isEmpty then some [] else pieces? allowTail (Text.pieces ':' s)

/-- The text before and after the first pair of colons. -/
def splitGap : List Char → Option (List Char × List Char)
  | ':' :: ':' :: rest => some ([], rest)
  | c :: rest => (splitGap rest).map fun (before, after) => (c :: before, after)
  | [] => none

/-- Reads an address of the sixth version, without brackets, as eight pieces.  A gap stands for one
piece at least. -/
def ipv6? (s : List Char) : Option (List Nat) :=
  match splitGap s with
  | none => (side? true s).bind fun ps => if ps.length = 8 then some ps else none
  | some (before, after) => do
    let front ← side? false before
    let back ← side? true after
    let known := front.length + back.length
    if known < 8 then some (front ++ List.replicate (8 - known) 0 ++ back) else none

/-- The length of the run of zeros at the front. -/
def zeroRun (ps : List Nat) : Nat := (ps.takeWhile (· = 0)).length

/-- Where the first longest run of at least two zeros starts, and how long it is. -/
def longestGap (ps : List Nat) : Option (Nat × Nat) :=
  (List.range ps.length).foldl (fun best i =>
    let n := zeroRun (ps.drop i)
    match best with
    | none => if 2 ≤ n then some (i, n) else none
    | some (_, m) => if m < n then some (i, n) else best) none

/-- Pieces in hexadecimal with colons between them. -/
def piecesText (ps : List Nat) : String :=
  ":".intercalate (ps.map fun p => String.ofList (Nat.toDigits 16 p))

/-- Writes an address of the sixth version, its longest run of zeros left out. -/
def ipv6Text (ps : List Nat) : String :=
  match longestGap ps with
  | none => piecesText ps
  | some (i, n) => piecesText (ps.take i) ++ "::" ++ piecesText (ps.drop (i + n))

end ODataGateway.Url
