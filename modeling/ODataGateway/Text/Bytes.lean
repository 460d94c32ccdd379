/-
# ODataGateway.Text.Bytes — characters as bytes, and bytes as text.

Bytes come back as characters in one of two ways.  The strict reading (`decode?`) refuses
everything that is not well formed.  The forgiving one (`decodeLossy`) puts U+FFFD for each longest
run of bytes that starts a character and is not continued, and for each byte that starts none.

Reading percent signs never fails: one that is not followed by two hexadecimal digits stands for
itself.  Writing them encodes the bytes of the characters in a set, and the sets of the parts of an
address are those defined here; all of them hold the controls and everything beyond ASCII.

Base64 is that of the standard alphabet with padding.  Reading it is strict: it accepts what writing
produces and nothing else, so missing padding, blanks, and bits left over that are not zero are all
refused.
-/
namespace ODataGateway.Text

/-! ## Characters -/

/-- The bytes of a string, those of its characters one after the other. -/
def utf8 (s : String) : List UInt8 := s.toList.flatMap String.utf8EncodeChar

theorem utf8_append (s t : String) : utf8 (s ++ t) = utf8 s ++ utf8 t := by simp [utf8]

/-- What the first bytes of a sequence are. -/
inductive Leading where
  /-- A character and how many bytes it takes up. -/
  | char (c : Char) (length : Nat)
  /-- Bytes that are no character, and how many of them go together. -/
  | broken (length : Nat)

/-- Whether a byte continues a character. -/
def isContinuation (b : UInt8) : Bool := 0x80 ≤ b && b < 0xC0

/-- The character of a code point that is known to be one. -/
def charOf (n : Nat) : Char := Char.ofNat n

/-- The range of second bytes that may follow a first byte: overlong forms, surrogates and code
points past the last are ruled out here. -/
def secondRange (b : UInt8) : UInt8 × UInt8 :=
  if b = 0xE0 then (0xA0, 0xBF)
  else if b = 0xED then (0x80, 0x9F)
  else if b = 0xF0 then (0x90, 0xBF)
  else if b = 0xF4 then (0x80, 0x8F)
  else (0x80, 0xBF)

/-- Whether a second byte may follow a first one. -/
def maySecond (b c : UInt8) : Bool := (secondRange b).1 ≤ c && c ≤ (secondRange b).2

/-- The low six bits of a byte. -/
def sixBits (b : UInt8) : Nat := b.toNat % 64

/-- What stands at the front of a sequence that starts with `b`. -/
def leading (b : UInt8) (rest : List UInt8) : Leading :=
  if b < 0x80 then .char (charOf b.toNat) 1
  else if 0xC2 ≤ b && b < 0xE0 then
    match rest with
    | c :: _ =>
      if maySecond b c then .char (charOf ((b.toNat % 32) * 64 + sixBits c)) 2 else .broken 1
    | [] => .broken 1
  else if 0xE0 ≤ b && b < 0xF0 then
    match rest with
    | c :: d :: _ =>
      if !maySecond b c then .broken 1
      else if !isContinuation d then .broken 2
      else .char (charOf (((b.toNat % 16) * 64 + sixBits c) * 64 + sixBits d)) 3
    | [c] => .broken (if maySecond b c then 2 else 1)
    | [] => .broken 1
  else if 0xF0 ≤ b && b < 0xF5 then
    match rest with
    | c :: d :: e :: _ =>
      if !maySecond b c then .broken 1
      else if !isContinuation d then .broken 2
      else if !isContinuation e then .broken 3
      else
        .char (charOf ((((b.toNat % 8) * 64 + sixBits c) * 64 + sixBits d) * 64 + sixBits e)) 4
    | [c, d] => .broken (if !maySecond b c then 1 else if isContinuation d then 3 else 2)
    | [c] => .broken (if maySecond b c then 2 else 1)
    | [] => .broken 1
  else .broken 1

/-- Reads bytes as characters; none if they are not well formed. -/
def decode? (bytes : List UInt8) : Option (List Char) :=
  match bytes with
  | [] => some []
  | b :: rest =>
    match leading b rest with
    | .char c n => (decode? (rest.drop (n - 1))).map (c :: ·)
    | .broken _ => none
termination_by bytes.length
decreasing_by simp only [List.length_drop, List.length_cons]; omega

/-- Reads bytes as characters, with U+FFFD where they are not well formed. -/
def decodeLossy (bytes : List UInt8) : List Char :=
  match bytes with
  | [] => []
  | b :: rest =>
    match leading b rest with
    | .char c n => c :: decodeLossy (rest.drop (n - 1))
    | .broken n => '\uFFFD' :: decodeLossy (rest.drop (n - 1))
termination_by bytes.length
decreasing_by all_goals simp only [List.length_drop, List.length_cons]; omega

/-! ## Reading percent signs -/

/-- The value of a byte that is a hexadecimal digit. -/
def hexValue? (b : UInt8) : Option Nat :=
  if 0x30 ≤ b && b ≤ 0x39 then some (b.toNat - 0x30)
  else if 0x41 ≤ b && b ≤ 0x46 then some (b.toNat - 0x41 + 10)
  else if 0x61 ≤ b && b ≤ 0x66 then some (b.toNat - 0x61 + 10)
  else none

/-- The byte that two hexadecimal digits spell. -/
def hexByte? (high low : UInt8) : Option UInt8 := do
  let h ← hexValue? high
  let l ← hexValue? low
  some (UInt8.ofNat (h * 16 + l))

/-- Puts the bytes in place that are written with a percent sign. -/
def percentDecode : List UInt8 → List UInt8
  | 0x25 :: h :: l :: rest =>
    match hexByte? h l with
    | some b => b :: percentDecode rest
    | none => 0x25 :: percentDecode (h :: l :: rest)
  | b :: rest => b :: percentDecode rest
  | [] => []

/-! ## Writing percent signs -/

/-- A set of characters that are not written as themselves. -/
abbrev EncodeSet := Char → Bool

namespace EncodeSet

/-- The controls and everything beyond ASCII. -/
def control : EncodeSet := fun c => c.toNat < 0x20 || 0x7E < c.toNat

/-- The set with further characters. -/
def adding (s : EncodeSet) (more : String) : EncodeSet := fun c => s c || more.toList.contains c

/-- The set of fragments. -/
def fragment : EncodeSet := control.adding " \"<>\x60"

/-- The set of query strings. -/
def query : EncodeSet := control.adding " \"#<>"

/-- The set of query strings where the single quote counts too. -/
def specialQuery : EncodeSet := query.adding "'"

/-- The set of paths. -/
def path : EncodeSet := query.adding "?^\x60\x7b\x7d"

/-- The set of user names and passwords. -/
def userinfo : EncodeSet := path.adding "/:;=@[\\]|"

end EncodeSet

/-- A byte as a percent sign and two digits. -/
def percentByte (b : UInt8) : List Char :=
  ['%', (Nat.digitChar (b.toNat / 16)).toUpper, (Nat.digitChar (b.toNat % 16)).toUpper]

/-- Writes a text with the characters of a set encoded. -/
def percentEncode (s : EncodeSet) (text : List Char) : List Char :=
  text.flatMap fun c => if s c then (utf8 (String.singleton c)).flatMap percentByte else [c]

end ODataGateway.Text

namespace ODataGateway.Text.Base64

/-! ## Base64 -/

/-- The sixty-four digits in the order of their values. -/
def alphabet : List Char :=
  "ABCDEFGHIJKLMNOPQRSTUVWXYZabcdefghijklmnopqrstuvwxyz0123456789+/".toList

/-- The digit of a value below sixty-four. -/
def digit (n : Nat) : Char := alphabet.getD n '='

/-- The value of a digit. -/
def value? (c : Char) : Option Nat := alphabet.findIdx? (· == c)

/-- Writes bytes as text, three bytes in four digits. -/
def encode : List UInt8 → List Char
  | [] => []
  | [a] => [digit (a.toNat / 4), digit (a.toNat % 4 * 16), '=', '=']
  | [a, b] =>
    [digit (a.toNat / 4), digit (a.toNat % 4 * 16 + b.toNat / 16), digit (b.toNat % 16 * 4), '=']
  | a :: b :: c :: rest =>
    digit (a.toNat / 4) :: digit (a.toNat % 4 * 16 + b.toNat / 16) ::
      digit (b.toNat % 16 * 4 + c.toNat / 64) :: digit (c.toNat % 64) :: encode rest

/-- Reads text as bytes.  Padding ends the text, and the bits it leaves over are zero. -/
def decode? : List Char → Option (List UInt8)
  | [] => some []
  | [a, b, '=', '='] => do
    let a ← value? a
    let b ← value? b
    if b % 16 = 0 then some [UInt8.ofNat (a * 4 + b / 16)] else none
  | [a, b, c, '='] => do
    let a ← value? a
    let b ← value? b
    let c ← value? c
    if c % 4 = 0 then
      some [UInt8.ofNat (a * 4 + b / 16), UInt8.ofNat (b % 16 * 16 + c / 4)]
    else none
  | a :: b :: c :: d :: rest => do
    let a ← value? a
    let b ← value? b
    let c ← value? c
    let d ← value? d
    let bytes ← decode? rest
    some (UInt8.ofNat (a * 4 + b / 16) :: UInt8.ofNat (b % 16 * 16 + c / 4) ::
      UInt8.ofNat (c % 4 * 64 + d) :: bytes)
  | _ => none

end ODataGateway.Text.Base64
