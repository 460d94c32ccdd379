/-
# ODataGateway.Number.Decimal — the sizes of binary64 numbers, and decimals that round to them.

The unsigned binary64 values are finitely many and ordered, so a magnitude is held as its *place*
in that order: zero is place 0, the least positive value 2^-1074 is place 1, and infinity is the
last place.  Two facts make places convenient.  Comparing magnitudes is comparing places, and every
finite magnitude is a whole number of *units* of 2^-1074 (`unitsAt`), so that rounding is a matter
of natural numbers alone (`Magnitude.nearest`).  The place is also what the low 63 bits of the
interchange format hold, and its parity is the parity of the significand.

A decimal is a natural number of digits scaled by a power of ten.  `Numeral.read?` accepts the
texts `[+-]? (d+ (. d*)? | . d+) ([eE] [+-]? d+)?` over the ASCII digits and nothing else: no
spelling of infinity or of not-a-number, no separators, no blanks.
-/
namespace ODataGateway

/-! ## Places -/

/-- How many places there are from one power of two to the next, 2^52. -/
def Magnitude.span : Nat := 0x10000000000000

/-- The place of infinity, behind 2047 spans. -/
def Magnitude.lastPlace : Nat := 2047 * span

/-- A size that a binary64 number can have, infinity included, as its place from zero upwards. -/
structure Magnitude where
  place : Nat
  place_le : place ≤ Magnitude.lastPlace
deriving DecidableEq

namespace Magnitude

/-- Zero is the first place. -/
def zero : Magnitude := ⟨0, Nat.zero_le lastPlace⟩

/-- Infinity is the last place. -/
def infinite : Magnitude := ⟨lastPlace, Nat.le_refl lastPlace⟩

/-- The magnitude at a place, or infinity when the place lies beyond the last one. -/
def atPlace (p : Nat) : Magnitude := ⟨min p lastPlace, Nat.min_le_right p lastPlace⟩

/-- A magnitude is finite when it lies before the last place. -/
def isFinite (m : Magnitude) : Bool := m.place < lastPlace

theorem isFinite_iff {m : Magnitude} : m.isFinite = true ↔ m ≠ infinite := by
  obtain ⟨p, hp⟩ := m
  rw [isFinite, decide_eq_true_eq, infinite, ne_eq, Magnitude.mk.injEq]
  exact ⟨Nat.ne_of_lt, Nat.lt_of_le_of_ne hp⟩

/-! ## Units -/

/-- How many units of 2^-1074 make one. -/
def one : Nat := 1 <<< 1074

/-- How many units of 2^-1074 the value at a place amounts to.  In the first two spans the values
are one unit apart, and each span after them doubles the distance. -/
def unitsAt (p : Nat) : Nat :=
  if p < span then p else (span + p % span) <<< (p / span - 1)

/-- The size of a finite magnitude in units of 2^-1074. -/
def units (m : Magnitude) : Nat := unitsAt m.place

/-- The last place whose value is at most the given number of units. -/
def placeUnder (u : Nat) : Nat :=
  if u < 2 * span then u else (u.log2 - 52) * span + u >>> (u.log2 - 52)

/-- The place nearest to `num / den` units; halfway between two places the even one. -/
def nearestPlace (num den : Nat) : Nat :=
  let p := placeUnder (num / den)
  match compare (2 * num) ((unitsAt p + unitsAt (p + 1)) * den) with
  | .lt => p
  | .gt => p + 1
  | .eq => if p % 2 = 0 then p else p + 1

/-- The magnitude nearest to `num / den` units of 2^-1074.  A value at or beyond the middle between
the greatest finite magnitude and 2^1024 goes to infinity. -/
def nearest (num den : Nat) : Magnitude := atPlace (nearestPlace num den)

end Magnitude

/-! ## Decimals and their magnitude -/

/-- The decimal `digits · 10^exponent`. -/
structure Decimal where
  digits : Nat
  exponent : Int
deriving DecidableEq, Repr

/-- A power of ten. -/
def tenTo (n : Nat) : Nat := Nat.pow 10 n

/-- The magnitude nearest to a decimal, ties to the even place.  Decimals from 10^400 up are
infinite and those below 10^-399 vanish, whatever their digits, so the powers of ten that are
formed stay within the size of the text. -/
def Decimal.magnitude (d : Decimal) : Magnitude :=
  if d.digits = 0 then .zero
  else if 400 ≤ d.exponent then .infinite
  else if d.exponent + d.digits.log2 + 400 ≤ 0 then .zero
  else
    .nearest (d.digits * tenTo d.exponent.toNat * Magnitude.one) (tenTo (-d.exponent).toNat)

/-! ## Numerals -/

/-- A signed decimal as a text denotes it; the sign of zero counts. -/
structure Numeral where
  negative : Bool
  decimal : Decimal
deriving DecidableEq, Repr

namespace Numeral

/-- The natural number that a run of decimal digits spells. -/
def digitsValue (ds : List Char) : Nat :=
  ds.foldl (fun value c => 10 * value + (c.toNat - '0'.toNat)) 0

/-- Splits an optional sign off the front. -/
def readSign : List Char → Bool × List Char
  | '-' :: r => (true, r)
  | '+' :: r => (false, r)
  | r => (false, r)

/-- Splits the fraction off the front: a point and the digits after it, if there are any. -/
def readFraction : List Char → List Char × List Char
  | '.' :: r => (r.takeWhile Char.isDigit, r.dropWhile Char.isDigit)
  | r => ([], r)

/-- Reads a whole text as an exponent: nothing at all, or `e` with an optional sign and digits. -/
def readExponent? : List Char → Option Int
  | [] => some 0
  | c :: r =>
    let (negative, ds) := readSign r
    if (c = 'e' || c = 'E') && !ds.isEmpty && ds.all Char.isDigit then
      some (if negative then -(digitsValue ds : Int) else digitsValue ds)
    else none

/-- Reads a whole text as a numeral.  At least one digit stands before the exponent. -/
def read? (s : List Char) : Option Numeral :=
  let (negative, r) := readSign s
  let whole := r.takeWhile Char.isDigit
  let (fraction, r) := readFraction (r.dropWhile Char.isDigit)
  if whole.isEmpty && fraction.isEmpty then none
  else (readExponent? r).map fun e =>
    ⟨negative, digitsValue (whole ++ fraction), e - fraction.length⟩

end Numeral

end ODataGateway
