/-
# ODataGateway.Url.Punycode — labels beyond ASCII written in ASCII.

The ASCII characters of a label come first, as they are.  The others follow as the steps of a walk:
all places of the growing label are gone through, over and over, with the code point going up by
one each time round, and each step says how many places to go before the next character is put in.
Steps are numbers in base 36 whose digits carry their own end mark (`threshold`), and the bias
follows the size of the steps so far (`adapt`).
-/
import ODataGateway.Text.Basic

namespace ODataGateway.Url.Punycode

/-! ## Numbers -/

/-- The digit of a value below 36. -/
def digit (n : Nat) : Char :=
  if n < 26 then Char.ofNat (n + 'a'.toNat) else Char.ofNat (n - 26 + '0'.toNat)

/-- The value of a digit, letters of either case. -/
def value? (c : Char) : Option Nat :=
  if c.isLower then some (c.toNat - 'a'.toNat)
  else if c.isUpper then some (c.toNat - 'A'.toNat)
  else if c.isDigit then some (c.toNat - '0'.toNat + 26)
  else none

/-- The value from which a digit at weight `k` is not the last of its number. -/
def threshold (bias k : Nat) : Nat := min 26 (max 1 (k - bias))

/-- Brings a step down to size, counting how often it had to be divided. -/
def shrink (delta : Nat) (k : Nat) : Nat :=
  if 455 < delta then shrink (delta / 35) (k + 36) else k + 36 * delta / (delta + 38)
termination_by delta
decreasing_by omega

/-- The bias after a step, for a label of `length` characters. -/
def adapt (delta length : Nat) (first : Bool) : Nat :=
  let delta := if first then delta / 700 else delta / 2
  shrink (delta + delta / length) 0

/-! ## Writing -/

/-- The digits of a step. -/
def writeStep (bias k q : Nat) : List Char :=
  let t := threshold bias k
  if q < t then [digit q]
  else digit (t + (q - t) % (36 - t)) :: writeStep bias (k + 36) ((q - t) / (36 - t))
termination_by q
decreasing_by
  have low : 1 ≤ threshold bias k := by simp only [threshold]; omega
  have := Nat.div_le_self (q - threshold bias k) (36 - threshold bias k)
  omega

/-- Where the walk of a writer stands. -/
structure Walk where
  delta : Nat
  bias : Nat
  handled : Nat
  first : Bool
  written : List Char

/-- One place of the walk with code point `n`: a smaller character is passed over, and `n` itself is
written. -/
def Walk.step (n : Nat) (w : Walk) (c : Nat) : Walk :=
  if c < n then { w with delta := w.delta + 1 }
  else if c = n then
    { delta := 0, bias := adapt w.delta (w.handled + 1) w.first, handled := w.handled + 1,
      first := false, written := w.written ++ writeStep w.bias 36 w.delta }
  else w

/-- One time round with code point `n`, after those from `previous` on went by without effect. -/
def Walk.round (label : List Nat) (state : Walk × Nat) (n : Nat) : Walk × Nat :=
  let (w, previous) := state
  let w := label.foldl (Walk.step n) { w with delta := w.delta + (n - previous) * (w.handled + 1) }
  ({ w with delta := w.delta + 1 }, n + 1)

/-- Writes a label in ASCII. -/
def encode (label : List Nat) : List Char :=
  let basic := label.filter (· < 0x80)
  let others := (label.filter (0x80 ≤ ·)).mergeSort.eraseDups
  let start : Walk := ⟨0, 72, basic.length, true, []⟩
  let (w, _) := others.foldl (Walk.round label) (start, 0x80)
  basic.map Char.ofNat ++ (if basic.isEmpty then [] else ['-']) ++ w.written

/-! ## Reading -/

/-- Where the walk of a reader stands.  The number being read has come to `value`, and its next
digit counts `weight` times. -/
structure Trace where
  code : Nat := 0x80
  place : Nat := 0
  bias : Nat := 72
  value : Nat := 0
  weight : Nat := 1
  k : Nat := 36
  first : Bool := true
  label : List Nat

/-- A code point that is a character. -/
def isScalar (n : Nat) : Bool := n < 0xD800 || (0xE000 ≤ n && n < 0x110000)

/-- Takes one digit into account.  The last digit of a step puts a character in. -/
def Trace.step (t : Trace) (c : Char) : Option Trace := do
  let d ← value? c
  let value := t.value + d * t.weight
  let limit := threshold t.bias t.k
  if d < limit then
    let size := t.label.length + 1
    let code := t.code + (t.place + value) / size
    let place := (t.place + value) % size
    if isScalar code then
      some { code, place := place + 1, bias := adapt value size t.first, first := false,
             label := t.label.take place ++ code :: t.label.drop place }
    else none
  else some { t with value, weight := t.weight * (36 - limit), k := t.k + 36 }

/-- A label cut after its ASCII characters. -/
def splitBasic (s : List Char) : List Char × List Char :=
  match Text.splitOnce '-' s.reverse with
  | some (after, before) => if before.isEmpty then ([], s) else (before.reverse, after.reverse)
  | none => ([], s)

/-- Reads a label; a step that is not complete is refused, and so is what is no character. -/
def decode? (s : List Char) : Option (List Nat) := do
  let (basic, digits) := splitBasic s
  if basic.any fun c => 0x80 ≤ c.toNat then none
  else
    let t ← digits.foldlM Trace.step { label := basic.map Char.toNat }
    if t.k = 36 then some t.label else none

end ODataGateway.Url.Punycode
