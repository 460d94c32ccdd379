/-
# ODataGateway.Json.Basic — JSON values, their compact text, and how they fail to have a shape.

Whole numbers within 64 bits stay exact integers; all other numbers are finite binary64 numbers,
and the two are told apart even where they are equal (`1` and `1.0`).  The members of an object
stand in the order in which they are written.  Values that come from a text have their keys in
increasing order and each key once (`Json.insertMember`); values that the service composes have
theirs in the order it gives.

No blanks are written.  In strings the quotation mark, the backslash and the control characters
below the space are escaped, the last by their short names where they have one; all else stands for
itself.  Floats follow `Layout.wire`.
-/
import ODataGateway.Number.Binary64
import ODataGateway.Number.Layout
import ODataGateway.Text.Printable

namespace ODataGateway

/-- A JSON value. -/
inductive Json where
  | null
  | bool (b : Bool)
  | integer (i : Int)
  | float (x : Binary64.Finite)
  | string (s : String)
  | array (items : List Json)
  | object (members : List (String × Json))

namespace Json

/-- The name of a value's kind. -/
def kind : Json → String
  | null => "null"
  | bool _ => "boolean"
  | integer _ | float _ => "number"
  | string _ => "string"
  | array _ => "array"
  | object _ => "object"

/-! ## Members -/

/-- Puts a member into a list that is sorted by key.  A key that is there already gets the new
value. -/
def insertMember (key : String) (value : Json) : List (String × Json) → List (String × Json)
  | [] => [(key, value)]
  | (k, v) :: rest =>
    match compare key k with
    | .lt => (key, value) :: (k, v) :: rest
    | .eq => (key, value) :: rest
    | .gt => (k, v) :: insertMember key value rest

/-- The object of the given members, sorted by key; of a repeated key the last value stays. -/
def ofMembers (members : List (String × Json)) : Json :=
  object (members.foldl (fun sorted m => insertMember m.1 m.2 sorted) [])

/-- The value at a key; only objects have any. -/
def get? : Json → String → Option Json
  | object members, key => members.lookup key
  | _, _ => none

/-! ## Numbers -/

/-- The number that a whole text denotes when it has no fraction and no exponent: an integer if 64
bits hold it, else the nearest finite number.  A negative zero is no integer. -/
def ofInteger? (negative : Bool) (n : Nat) : Option Json :=
  let fits := if negative then n ≠ 0 && n ≤ 0x8000000000000000 else n ≤ 0xFFFFFFFFFFFFFFFF
  if fits then some (integer (if negative then -(n : Int) else n))
  else (Binary64.ofNumeral ⟨negative, n, 0⟩).finite?.map float

/-- The number that a numeral with a fraction or an exponent denotes; none when it overflows. -/
def ofNumeral? (n : Numeral) : Option Json :=
  (Binary64.ofNumeral n).finite?.map float

/-! ## Writing strings -/

/-- The digit of a value below sixteen, in lower case. -/
def hexDigit (n : Nat) : Char := Nat.digitChar n

/-- One character inside a quoted string. -/
def escapeChar (c : Char) : List Char :=
  match c with
  | '"' => ['\\', '"']
  | '\\' => ['\\', '\\']
  | '\x08' => ['\\', 'b']
  | '\x09' => ['\\', 't']
  | '\x0a' => ['\\', 'n']
  | '\x0c' => ['\\', 'f']
  | '\x0d' => ['\\', 'r']
  | c =>
    if c.toNat < 0x20 then
      ['\\', 'u', '0', '0', hexDigit (c.toNat / 16), hexDigit (c.toNat % 16)]
    else [c]

/-- A quoted string. -/
def quote (s : String) : List Char := '"' :: s.toList.flatMap escapeChar ++ ['"']

/-! ## Writing values -/

mutual

/-- The compact text of a value. -/
def write : Json → List Char
  | null => "null".toList
  | bool true => "true".toList
  | bool false => "false".toList
  | integer i => Layout.integer i
  | float x => Layout.wire.number x
  | string s => quote s
  | array items => '[' :: writeItems items ++ [']']
  | object members => '{' :: writeMembers members ++ ['}']

/-- Values with commas between them. -/
def writeItems : List Json → List Char
  | [] => []
  | [v] => write v
  | v :: rest => write v ++ ',' :: writeItems rest

/-- Members with commas between them. -/
def writeMembers : List (String × Json) → List Char
  | [] => []
  | [(k, v)] => quote k ++ ':' :: write v
  | (k, v) :: rest => quote k ++ ':' :: write v ++ ',' :: writeMembers rest

end

/-- The compact text of a value as a string. -/
def text (v : Json) : String := String.ofList (write v)

/-! ## Mismatches -/

/-- Why a JSON value was refused where another shape was expected. -/
inductive Mismatch where
  /-- A value of the wrong kind. -/
  | kind (found : Json) (expected : String)
  /-- A name outside a fixed list. -/
  | name (found : String) (known : List String)
  /-- A sequence that ends before all its parts are there. -/
  | tooShort (length : Nat) (expected : String)
  /-- A sequence with more elements than parts. -/
  | tooLong (length : Nat)

namespace Mismatch

/-- What was found, in words. -/
def describe : Json → String
  | null => "null"
  | bool b => s!"boolean `{b}`"
  | integer i => s!"integer `{i}`"
  | float x =>
    let digits := String.ofList (Layout.plain.number x)
    s!"floating point `{digits}" ++ (if digits.contains '.' then "`" else ".0`")
  | string s => "string " ++ Text.quoted s
  | array _ => "sequence"
  | object _ => "map"

/-- A list of names as the choices that were open. -/
def choices : List String → String
  | [] => "there are no variants"
  | [a] => s!"expected `{a}`"
  | [a, b] => s!"expected `{a}` or `{b}`"
  | names => "expected one of " ++ ", ".intercalate (names.map fun n => s!"`{n}`")

/-- The wording of a mismatch. -/
def message : Mismatch → String
  | kind found expected => s!"invalid type: {describe found}, expected {expected}"
  | name found known => s!"unknown variant `{found}`, {choices known}"
  | tooShort length expected => s!"invalid length {length}, expected {expected}"
  | tooLong length => s!"invalid length {length}, expected fewer elements in array"

end Mismatch

end Json

end ODataGateway
