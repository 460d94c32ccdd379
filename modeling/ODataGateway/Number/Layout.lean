/-
# ODataGateway.Number.Layout — the digits that a number is written with, and how they are laid out.

Many decimals round to one magnitude.  The one that is written has the fewest digits of all of
them, and among those with equally many it is the nearest to the exact value.  It is found by
looking at the grids of one digit, two digits and so on: on each grid only the two neighbours of
the exact value matter, and the first grid with a neighbour that reads back wins.  Should the two
neighbours be equally near, `Tie` decides.

The program writes numbers in two manners: as text to compare and show (`Layout.plain`) and as JSON
floats (`Layout.wire`).  Where the point goes, when an exponent appears and how a tie between digits
is settled are the fields of a record.
-/
import ODataGateway.Number.Binary64
import ODataGateway.Number.Decimal

namespace ODataGateway

/-! ## The fewest digits -/

/-- Which of two equally near decimals is written. -/
inductive Tie where
  | even
  | up
deriving DecidableEq, Repr

namespace Magnitude

/-- A decimal reads back as a magnitude when that is the magnitude it rounds to. -/
def readsBack (m : Magnitude) (d : Decimal) : Bool := d.magnitude == m

/-- The exact value of a finite magnitude as a decimal: one unit is 5^1074 · 10^-1074. -/
def exact (m : Magnitude) : Decimal := ⟨m.units * Nat.pow 5 1074, -1074⟩

/-- Moves the zeros at the end of the digits into the exponent. -/
def stripZeros (digits : Nat) (exponent : Int) : Decimal :=
  if h : digits ≠ 0 ∧ digits % 10 = 0 then stripZeros (digits / 10) (exponent + 1)
  else ⟨digits, exponent⟩
termination_by digits
decreasing_by omega

/-- Of two neighbours the one to write, if one reads back: the one that does, and of both the nearer
one.  `side` tells where the exact value lies from their middle. -/
def neighbour? (readsBack : Decimal → Bool) (below above : Decimal) (side : Ordering)
    (preferBelow : Bool) : Option Decimal :=
  match readsBack below, readsBack above with
  | false, false => none
  | true, false => some below
  | false, true => some above
  | true, true =>
    match side with
    | .lt => some below
    | .gt => some above
    | .eq => if preferBelow then some below else some above

/-- The neighbour of the exact value to write on the grid `10^drop` times coarser than the exact
digits, if one reads back. -/
def onGrid? (m : Magnitude) (tie : Tie) (drop : Nat) : Option Decimal :=
  let digits := m.exact.digits
  let lower := digits / tenTo drop
  neighbour? m.readsBack (stripZeros lower (drop - 1074)) (stripZeros (lower + 1) (drop - 1074))
    (compare (2 * digits) ((2 * lower + 1) * tenTo drop)) (tie = .even && lower % 2 = 0)

/-- The shortest decimal that reads back as a finite magnitude other than zero.  Were no grid of up
to seventeen digits to hold one, the exact value is returned, which always reads back. -/
def shortest (m : Magnitude) (tie : Tie) : Decimal :=
  let length := (Nat.toDigits 10 m.exact.digits).length
  ((List.range' 1 17).findSome? fun n => m.onGrid? tie (length - n)).getD
    (stripZeros m.exact.digits m.exact.exponent)

end Magnitude

/-! ## Layouts -/

/-- The decisions that fix the text of a finite number once its digits are known. -/
structure Layout where
  /-- Whether a value whose leading digit has the given power of ten is written without an
  exponent. -/
  positional : Int → Bool
  /-- Whether a whole number keeps a point and a zero. -/
  keepsPoint : Bool
  /-- Which of two equally near shortest decimals is taken. -/
  tie : Tie

namespace Layout

/-- Numbers as text never carry an exponent, and whole ones no point. -/
def plain : Layout where
  positional := fun _ => true
  keepsPoint := false
  tie := .up

/-- JSON floats carry an exponent outside the powers -5 to 15 of the leading digit, and a point
otherwise. -/
def wire : Layout where
  positional := fun e => -5 ≤ e && e ≤ 15
  keepsPoint := true
  tie := .even

/-- A natural number in decimal digits. -/
def natural (n : Nat) : List Char := Nat.toDigits 10 n

/-- An integer in decimal digits, with a minus sign when it is negative. -/
def integer (i : Int) : List Char :=
  if i < 0 then '-' :: natural i.natAbs else natural i.natAbs

/-- The text of a decimal, sign apart.  The point goes after the digits, among them or before them
as the exponent says. -/
def decimal (l : Layout) (d : Decimal) : List Char :=
  let digits := natural d.digits
  let leading : Int := d.exponent + digits.length - 1
  if l.positional leading then
    if 0 ≤ d.exponent then
      digits ++ List.replicate d.exponent.toNat '0' ++ (if l.keepsPoint then ['.', '0'] else [])
    else if 0 ≤ leading then
      digits.take (leading.toNat + 1) ++ '.' :: digits.drop (leading.toNat + 1)
    else
      '0' :: '.' :: List.replicate (-leading - 1).toNat '0' ++ digits
  else
    let fraction := digits.drop 1
    digits.take 1 ++ (if fraction.isEmpty then [] else '.' :: fraction) ++
      'e' :: (if leading < 0 then '-' else '+') :: natural leading.natAbs

/-- The text of a finite magnitude: nought, or the shortest decimal laid out. -/
def magnitude (l : Layout) (m : Magnitude) : List Char :=
  if m.place = 0 then (if l.keepsPoint then ['0', '.', '0'] else ['0'])
  else l.decimal (m.shortest l.tie)

/-- The text of a finite number; a negative zero keeps its sign. -/
def number (l : Layout) (x : Binary64.Finite) : List Char :=
  (if x.negative then ['-'] else []) ++ l.magnitude x.magnitude

end Layout

/-- A number as text: `NaN`, `Infinity`, `-Infinity`, the bare `0` for both zeros, and otherwise
plain digits. -/
def Binary64.text (x : Binary64) : List Char :=
  match x, x.finite? with
  | .nan, _ => "NaN".toList
  | .signed negative _, none => (if negative then ['-'] else []) ++ "Infinity".toList
  | .signed .., some x => if x.magnitude.place = 0 then ['0'] else Layout.plain.number x

end ODataGateway
