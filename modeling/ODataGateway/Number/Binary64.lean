/-
# ODataGateway.Number.Binary64 — the numbers that rows carry, their order and their whole parts.

A number is not-a-number, or a sign with a magnitude.  The program never calculates with numbers: it
reads them, compares them, cuts them to counts and writes them.  All comparisons go through
`Binary64.rank`, which lines the numbers up on the integers: the two zeros share a rank, and
not-a-number ranks above infinity.  As a *value*, though, not-a-number equals nothing, itself
included (`Binary64.same`).
-/
import ODataGateway.Number.Decimal
import ODataGateway.Text.Basic

namespace ODataGateway

/-- A binary64 number; all the not-a-numbers are one. -/
inductive Binary64 where
  | nan
  | signed (negative : Bool) (magnitude : Magnitude)
deriving DecidableEq

namespace Binary64

/-! ## Where numbers come from -/

/-- Positive zero. -/
def zero : Binary64 := signed false .zero

/-- The number nearest to a numeral; a negative one that vanishes leaves the negative zero. -/
def ofNumeral (n : Numeral) : Binary64 := signed n.negative n.decimal.magnitude

/-- The number nearest to an integer. -/
def ofInt (i : Int) : Binary64 := signed (i < 0) (Decimal.mk i.natAbs 0).magnitude

/-- Reads a word for an infinity or for not-a-number, with an optional sign and in letters of either
case. -/
def readWord? (s : List Char) : Option Binary64 :=
  let (negative, word) := Numeral.readSign s
  let letters := word.map Char.toLower
  if letters = "inf".toList ∨ letters = "infinity".toList then some (signed negative .infinite)
  else if letters = "nan".toList then some nan
  else none

/-- Reads a whole text as a number: a numeral or one of the words. -/
def read? (s : List Char) : Option Binary64 :=
  match Numeral.read? s with
  | some n => some (ofNumeral n)
  | none => readWord? s

/-- Whether a character is a letter that no numeral has. -/
def isForeign (c : Char) : Bool := c.isAlpha && c != 'e' && c != 'E'

/-- Reads a text as a number.  Blanks around it do not count, a blank text is zero, and a text that
is no number is not-a-number.  The words for infinities are no numbers here: a text with a letter
that no numeral has is not read at all. -/
def ofText (s : String) : Binary64 :=
  let t := Text.trim s.toList
  if t.isEmpty then zero
  else if t.any isForeign then nan
  else (read? t).getD nan

/-! ## Order -/

/-- The place of a number on the integers: both zeros at 0, not-a-number past infinity. -/
def rank : Binary64 → Int
  | nan => Magnitude.lastPlace + 1
  | signed negative m => if negative then -(m.place : Int) else m.place

/-- The total order for sorting: by rank, so that not-a-number comes last and ties only with
itself. -/
def order (a b : Binary64) : Ordering := compare a.rank b.rank

/-- Equality as numbers: the two zeros are the same, not-a-number is the same as nothing. -/
def same (a b : Binary64) : Bool := a != nan && b != nan && a.rank == b.rank

/-! ## Finite numbers -/

/-- A number that is neither infinite nor not-a-number. -/
structure Finite where
  negative : Bool
  magnitude : Magnitude
  isFinite : magnitude.isFinite = true
deriving DecidableEq

/-- A finite number among all numbers. -/
def ofFinite (x : Finite) : Binary64 := signed x.negative x.magnitude

/-- The finite number that a number is, if it is one. -/
def finite? : Binary64 → Option Finite
  | nan => none
  | signed negative m => if h : m.isFinite = true then some ⟨negative, m, h⟩ else none

theorem finite?_ofFinite (x : Finite) : (ofFinite x).finite? = some x := dif_pos x.isFinite

theorem finite?_eq_some_iff {y : Binary64} {x : Finite} : y.finite? = some x ↔ y = ofFinite x := by
  constructor
  · intro h
    cases y with
    | nan => exact absurd h.symm (Option.some_ne_none x)
    | signed negative m =>
      by_cases finite : m.isFinite = true
      · have same : some ⟨negative, m, finite⟩ = some x := (dif_pos finite).symm.trans h
        rw [← Option.some.inj same]
        rfl
      · have none : none = some x := (dif_neg finite).symm.trans h
        exact absurd none.symm (Option.some_ne_none x)
  · intro h
    rw [h, finite?_ofFinite]

theorem finite?_signed_eq_none_iff {negative : Bool} {m : Magnitude} :
    (signed negative m).finite? = none ↔ m = .infinite := by
  by_cases finite : m.isFinite = true
  · have found : (signed negative m).finite? = some ⟨negative, m, finite⟩ := dif_pos finite
    rw [found]
    exact iff_of_false (Option.some_ne_none _) (Magnitude.isFinite_iff.mp finite)
  · have missing : (signed negative m).finite? = none := dif_neg finite
    refine iff_of_true missing (Decidable.not_not.mp fun other => ?_)
    exact finite (Magnitude.isFinite_iff.mpr other)

/-! ## Whole parts -/

/-- The greatest count there is, 2^64 - 1. -/
def maxCount : Nat := 0xFFFFFFFFFFFFFFFF

/-- The whole part of a magnitude as a count; from 2^64 up the greatest count. -/
def wholeCount (m : Magnitude) : Nat := min (m.units / Magnitude.one) maxCount

/-- A count made of a number: none of not-a-number, 0 of anything not positive, else the whole
part. -/
def count? : Binary64 → Option Nat
  | nan => none
  | signed true _ => some 0
  | signed false m => some (wholeCount m)

/-- The greatest integer up to which all integers are binary64 numbers and apart, 2^53 - 1. -/
def maxSafeInteger : Nat := 0x1FFFFFFFFFFFFF

/-- The integer that a number is, when it is a whole number of at most `maxSafeInteger` in size. -/
def safeInteger? : Binary64 → Option Int
  | nan => none
  | signed negative m =>
    let whole := m.units / Magnitude.one
    if m.isFinite && m.units % Magnitude.one == 0 && whole ≤ maxSafeInteger then
      some (if negative then -(whole : Int) else whole)
    else none

/-! ## Bits -/

/-- The 64 bits of the interchange format as a natural number; not-a-number is the quiet one. -/
def bits : Binary64 → Nat
  | nan => Magnitude.lastPlace + Magnitude.span / 2
  | signed negative m => if negative then 2048 * Magnitude.span + m.place else m.place

end Binary64

end ODataGateway
