/-
# ODataGateway.Json.Reader — reading JSON values from text.

The reader is strict: it takes the grammar of the standard and nothing besides, refuses half of a
surrogate pair, a number whose size overflows, and values nested more than `maxDepth` deep.  A
reader of a piece returns the rest of the text together with the fact that it is shorter, which is
why the loops end.
-/
import ODataGateway.Json.Basic

namespace ODataGateway.Json

/-! ## Readers -/

/-- What is left of a text after something was taken off its front. -/
def Rest (s : List Char) := { r : List Char // r.length < s.length }

namespace Rest

/-- The rest itself. -/
def text {s : List Char} (q : Rest s) : List Char := q.1

/-- The rest after the first character. -/
def tail (c : Char) (r : List Char) : Rest (c :: r) := ⟨r, Nat.lt_succ_self r.length⟩

/-- A rest of what follows a character. -/
def behind (c : Char) {r : List Char} (q : Rest r) : Rest (c :: r) :=
  ⟨q.1, Nat.lt_succ_of_lt q.2⟩

/-- A rest of a rest. -/
def trans {s : List Char} (r : Rest s) (q : Rest r.text) : Rest s := ⟨q.1, Nat.lt_trans q.2 r.2⟩

/-- A rest of a text that is no longer than another. -/
def widen {s t : List Char} (q : Rest s) (h : s.length ≤ t.length) : Rest t :=
  ⟨q.1, Nat.lt_of_lt_of_le q.2 h⟩

end Rest

/-- A reader takes a piece off the front of a text, or fails. -/
abbrev Reader (α : Type) := (s : List Char) → Option (α × Rest s)

/-- The four characters that may stand between tokens. -/
def isSpace (c : Char) : Bool := c = ' ' || c = '\t' || c = '\n' || c = '\r'

/-- The text from its first token on. -/
def skipSpace (s : List Char) : List Char := s.dropWhile isSpace

theorem length_skipSpace_le (s : List Char) : (skipSpace s).length ≤ s.length :=
  (List.dropWhile_suffix isSpace).length_le

/-- Skips the spaces in front of a piece. -/
def afterSpace {α : Type} (piece : Reader α) : Reader α := fun s =>
  (piece (skipSpace s)).map fun (x, q) => (x, q.widen (length_skipSpace_le s))

/-- The first character after spaces, and what follows it. -/
def readToken : Reader Char := fun s =>
  match h : skipSpace s with
  | [] => none
  | c :: r => some (c, (Rest.tail c r).widen (h ▸ length_skipSpace_le s))

/-! ## Strings -/

/-- The value of a hexadecimal digit of either case. -/
def hexValue? (c : Char) : Option Nat :=
  if '0' ≤ c && c ≤ '9' then some (c.toNat - '0'.toNat)
  else if 'a' ≤ c && c ≤ 'f' then some (c.toNat - 'a'.toNat + 10)
  else if 'A' ≤ c && c ≤ 'F' then some (c.toNat - 'A'.toNat + 10)
  else none

/-- Takes four hexadecimal digits off the front. -/
def readHex4 : Reader Nat
  | a :: b :: c :: d :: r => do
    let high ← hexValue? a
    let upper ← hexValue? b
    let lower ← hexValue? c
    let low ← hexValue? d
    some (((high * 16 + upper) * 16 + lower) * 16 + low,
      (((Rest.tail d r).behind c).behind b).behind a)
  | _ => none

/-- Takes the low half of a surrogate pair off the front, with its backslash and `u`. -/
def readLowSurrogate : Reader Nat
  | '\\' :: 'u' :: r => do
    let (n, q) ← readHex4 r
    if 0xDC00 ≤ n && n < 0xE000 then some (n, (q.behind 'u').behind '\\') else none
  | _ => none

/-- Takes a character escaped by number off the front, after its backslash and `u`.  A high
surrogate joins with the low one that must follow. -/
def readCodePoint : Reader Char := fun s => do
  let (n, r) ← readHex4 s
  if 0xD800 ≤ n && n < 0xDC00 then
    let (m, q) ← readLowSurrogate r.text
    some (Char.ofNat (0x10000 + (n - 0xD800) * 0x400 + (m - 0xDC00)), r.trans q)
  else if 0xDC00 ≤ n && n < 0xE000 then none
  else some (Char.ofNat n, r)

/-- Takes an escape off the front, after its backslash. -/
def readEscape : Reader Char
  | '"' :: r => some ('"', .tail _ r)
  | '\\' :: r => some ('\\', .tail _ r)
  | '/' :: r => some ('/', .tail _ r)
  | 'b' :: r => some ('\x08', .tail _ r)
  | 'f' :: r => some ('\x0c', .tail _ r)
  | 'n' :: r => some ('\n', .tail _ r)
  | 'r' :: r => some ('\r', .tail _ r)
  | 't' :: r => some ('\t', .tail _ r)
  | 'u' :: r => (readCodePoint r).map fun (c, q) => (c, q.behind 'u')
  | _ => none

/-- Takes one character of a string off the front, escaped or not; a quotation mark is none. -/
def readChar : Reader Char
  | '\\' :: r => (readEscape r).map fun (c, q) => (c, q.behind '\\')
  | '"' :: _ => none
  | c :: r => if c.toNat < 0x20 then none else some (c, .tail c r)
  | [] => none

/-- Takes the characters of a string off the front, up to and with the closing quotation mark. -/
def readChars (s : List Char) : Option (List Char × Rest s) :=
  match s with
  | '"' :: r => some ([], .tail _ r)
  | s =>
    match readChar s with
    | none => none
    | some (c, r) => (readChars r.text).map fun (cs, q) => (c :: cs, r.trans q)
termination_by s.length
decreasing_by exact r.2

/-- Takes a quoted string off the front. -/
def readString : Reader String
  | '"' :: r => (readChars r).map fun (cs, q) => (String.ofList cs, q.behind '"')
  | _ => none

/-! ## Numbers -/

/-- What is left of a text after something that may be empty was taken off its front. -/
def Remainder (s : List Char) := { r : List Char // r.length ≤ s.length }

namespace Remainder

/-- The remainder itself. -/
def text {s : List Char} (q : Remainder s) : List Char := q.1

/-- Nothing was taken. -/
def whole (s : List Char) : Remainder s := ⟨s, Nat.le_refl s.length⟩

/-- A rest is a remainder. -/
def ofRest {s : List Char} (q : Rest s) : Remainder s := ⟨q.1, Nat.le_of_lt q.2⟩

/-- A remainder of a remainder. -/
def trans {s : List Char} (r : Remainder s) (q : Remainder r.text) : Remainder s :=
  ⟨q.1, Nat.le_trans q.2 r.2⟩

end Remainder

/-- A remainder of a rest is a rest. -/
def Rest.transRemainder {s : List Char} (r : Rest s) (q : Remainder r.text) : Rest s :=
  ⟨q.1, Nat.lt_of_le_of_lt q.2 r.2⟩

/-- The remainder after the digits at the front. -/
def afterDigits (s : List Char) : Remainder s :=
  ⟨s.dropWhile Char.isDigit, (List.dropWhile_suffix Char.isDigit).length_le⟩

/-- Takes a run of at least one digit off the front. -/
def readDigits : Reader (List Char)
  | [] => none
  | c :: r =>
    if c.isDigit then
      some (c :: r.takeWhile Char.isDigit, (Rest.tail c r).transRemainder (afterDigits r))
    else none

/-- Takes the whole part of a number off the front: a nought, or digits that do not start with
one. -/
def readWhole : Reader (List Char)
  | '0' :: r => some (['0'], .tail _ r)
  | s => readDigits s

/-- Takes a fraction off the front, if a point is there; at least one digit follows the point. -/
def readFraction : (s : List Char) → Option (Option (List Char) × Remainder s)
  | '.' :: r => (readDigits r).map fun (ds, q) => (some ds, .ofRest (q.behind '.'))
  | s => some (none, .whole s)

/-- Takes a sign off the front, if one is there; true stands for minus. -/
def readSign : (s : List Char) → Bool × Remainder s
  | '-' :: r => (true, .ofRest (.tail _ r))
  | '+' :: r => (false, .ofRest (.tail _ r))
  | s => (false, .whole s)

/-- Takes the value of an exponent off the front: a sign, if one is there, and digits. -/
def readPower : Reader Int := fun s => do
  let (negative, r) := readSign s
  let (ds, q) ← readDigits r.text
  let value : Int := Numeral.digitsValue ds
  some (if negative then -value else value, q.widen r.2)

/-- Takes an exponent off the front, if its mark is there. -/
def readExponent : (s : List Char) → Option (Option Int × Remainder s)
  | [] => some (none, .whole [])
  | c :: r =>
    if c = 'e' || c = 'E' then (readPower r).map fun (e, q) => (some e, .ofRest (q.behind c))
    else some (none, .whole (c :: r))

/-- The value of a number from its parts; without a fraction and an exponent it may be an
integer. -/
def ofParts? (negative : Bool) (whole : List Char) (fraction : Option (List Char))
    (exponent : Option Int) : Option Json :=
  match fraction, exponent with
  | none, none => ofInteger? negative (Numeral.digitsValue whole)
  | _, _ =>
    let fraction := fraction.getD []
    ofNumeral? ⟨negative, Numeral.digitsValue (whole ++ fraction),
      exponent.getD 0 - fraction.length⟩

/-- Takes a number without its sign off the front. -/
def readUnsigned (negative : Bool) : Reader Json := fun s => do
  let (whole, r) ← readWhole s
  let (fraction, f) ← readFraction r.text
  let (exponent, e) ← readExponent f.text
  let value ← ofParts? negative whole fraction exponent
  some (value, r.transRemainder (f.trans e))

/-- Takes a number off the front.  Only a minus may stand before it. -/
def readNumber : Reader Json
  | '-' :: r => (readUnsigned true r).map fun (v, q) => (v, q.behind '-')
  | s => readUnsigned false s

/-! ## Values -/

/-- Takes a sequence off the front: pieces with commas between them, up to and with the closing
character.  At least one piece is there. -/
def readSequence {α : Type} (piece : Reader α) (close : Char) (s : List Char) :
    Option (List α × Rest s) :=
  match piece s with
  | none => none
  | some (x, r) =>
    match readToken r.text with
    | none => none
    | some (c, t) =>
      if c = close then some ([x], r.trans t)
      else if c = ',' then
        (readSequence piece close t.text).map fun (xs, q) => (x :: xs, (r.trans t).trans q)
      else none
termination_by s.length
decreasing_by exact Nat.lt_trans t.2 r.2

/-- Takes what stands between brackets off the front, after the opening one: nothing, or a
sequence. -/
def readBracketed {α : Type} (piece : Reader α) (close : Char) : Reader (List α) := fun s =>
  match readToken s with
  | none => none
  | some (c, r) => if c = close then some ([], r) else readSequence piece close s

/-- Takes a colon off the front. -/
def readColon : Reader Unit := fun s =>
  match readToken s with
  | some (':', r) => some ((), r)
  | _ => none

/-- Takes a member off the front: a string, a colon and a value. -/
def readMember (value : Reader Json) : Reader (String × Json) := fun s => do
  let (key, r) ← afterSpace readString s
  let (_, t) ← readColon r.text
  let (v, q) ← value t.text
  some ((key, v), (r.trans t).trans q)

/-- Takes a value that is neither an array nor an object off the front. -/
def readScalar : Reader Json
  | 'n' :: 'u' :: 'l' :: 'l' :: r =>
    some (null, (((Rest.tail 'l' r).behind 'l').behind 'u').behind 'n')
  | 't' :: 'r' :: 'u' :: 'e' :: r =>
    some (bool true, (((Rest.tail 'e' r).behind 'u').behind 'r').behind 't')
  | 'f' :: 'a' :: 'l' :: 's' :: 'e' :: r =>
    some (bool false, ((((Rest.tail 'e' r).behind 's').behind 'l').behind 'a').behind 'f')
  | '"' :: r => (readString ('"' :: r)).map fun (t, q) => (string t, q)
  | s => readNumber s

/-- Takes an array, an object or a scalar off the front; what stands in brackets is read by
`inner`. -/
def readCompound (inner : Reader Json) : Reader Json
  | '[' :: r => (readBracketed inner ']' r).map fun (vs, q) => (array vs, q.behind '[')
  | '{' :: r =>
    (readBracketed (readMember inner) '}' r).map fun (ms, q) => (ofMembers ms, q.behind '{')
  | s => readScalar s

/-- Takes a value off the front, with the spaces before it.  Arrays and objects may nest to the
given depth. -/
def readValue : (depth : Nat) → Reader Json
  | 0 => afterSpace readScalar
  | depth + 1 => afterSpace (readCompound (readValue depth))

/-- How deep arrays and objects may nest in a text. -/
def maxDepth : Nat := 127

/-- Reads a whole text as one value. -/
def read? (s : List Char) : Option Json := do
  let (v, r) ← readValue maxDepth s
  if (skipSpace r.text).isEmpty then some v else none

end ODataGateway.Json
