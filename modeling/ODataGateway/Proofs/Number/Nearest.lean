/-
# ODataGateway.Proofs.Number.Nearest — what a decimal is rounded to.

`IsNearest` says which magnitude a nonnegative rational rounds to, without saying how it is found:
its place is nearer to the rational than every other place, or as near and even.  The places go on
past infinity with the spacing of binary64, and a rational that rounds to one of those is infinite.
There is at most one such magnitude (`IsNearest.unique`), and `Decimal.magnitude` finds it
(`Decimal.isNearest_magnitude`), also where it does not look at the digits.
-/
import Mathlib.Algebra.Order.Field.Rat
import Mathlib.Algebra.Order.Field.Power
import Mathlib.Data.Rat.Cast.Order
import Mathlib.Tactic.FieldSimp
import Mathlib.Tactic.Linarith
import Mathlib.Tactic.NormNum
import Mathlib.Tactic.Positivity
import ODataGateway.Number.Decimal
import ODataGateway.Proofs.Number.Places

namespace ODataGateway

namespace Magnitude

/-! ## The nearest place -/

/-- The value at a place. -/
def valueAt (p : Nat) : ℚ := unitsAt p / one

/-- The place is nearer to the value than every other one, or as near and even. -/
def NearestPlace (q : ℚ) (p : Nat) : Prop :=
  ∀ p', p' ≠ p → |q - valueAt p| < |q - valueAt p'| ∨ |q - valueAt p| = |q - valueAt p'| ∧ Even p

/-- The magnitude that a value rounds to. -/
def IsNearest (m : Magnitude) (q : ℚ) : Prop := ∃ p, NearestPlace q p ∧ m = atPlace p

theorem one_pos : (0 : ℚ) < one := by
  rw [one_eq]
  positivity

theorem valueAt_strictMono : StrictMono valueAt := fun _ _ h =>
  div_lt_div_of_pos_right (Nat.cast_lt.mpr (unitsAt_strictMono h)) one_pos

theorem valueAt_zero : valueAt 0 = 0 := by
  rw [valueAt, unitsAt_of_lt_span span_pos, Nat.cast_zero, zero_div]

theorem valueAt_lastPlace : valueAt lastPlace = 2 ^ 1024 := by
  rw [valueAt, unitsAt_lastPlace, Nat.cast_mul, mul_div_assoc, div_self one_pos.ne', mul_one,
    Nat.cast_pow, Nat.cast_ofNat]

/-- No other place is strictly nearer than the nearest one. -/
theorem NearestPlace.le {q : ℚ} {p : Nat} (h : NearestPlace q p) (p' : Nat) :
    |q - valueAt p| ≤ |q - valueAt p'| := by
  by_cases same : p' = p
  · rw [same]
  · rcases h p' same with closer | ⟨tie, -⟩
    · exact closer.le
    · exact tie.le

/-- Of two points the lower one is nearer on the lower side of their middle. -/
theorem nearer_left_iff {q a b : ℚ} (hab : a < b) : |q - a| < |q - b| ↔ 2 * q < a + b := by
  have split : (q - b) ^ 2 - (q - a) ^ 2 = (b - a) * (a + b - 2 * q) := by ring
  rw [← sq_lt_sq, ← sub_pos, split, mul_pos_iff_of_pos_left (sub_pos.mpr hab), sub_pos]

/-- And the upper one is on the other side. -/
theorem nearer_right_iff {q a b : ℚ} (hab : a < b) : |q - b| < |q - a| ↔ a + b < 2 * q := by
  have split : (q - a) ^ 2 - (q - b) ^ 2 = (b - a) * (2 * q - (a + b)) := by ring
  rw [← sq_lt_sq, ← sub_pos, split, mul_pos_iff_of_pos_left (sub_pos.mpr hab), sub_pos]

theorem abs_sub_eq_iff {q a b : ℚ} (hab : a < b) : |q - a| = |q - b| ↔ 2 * q = a + b := by
  constructor
  · intro tie
    exact le_antisymm (not_lt.mp fun h => ((nearer_right_iff hab).mpr h).ne' tie)
      (not_lt.mp fun h => ((nearer_left_iff hab).mpr h).ne tie)
  · intro middle
    exact le_antisymm (not_lt.mp fun h => ((nearer_right_iff hab).mp h).ne' middle)
      (not_lt.mp fun h => ((nearer_left_iff hab).mp h).ne middle)

theorem NearestPlace.not_before {q : ℚ} {p p' : Nat} (h : NearestPlace q p)
    (h' : NearestPlace q p') : ¬ p < p' := by
  intro hlt
  have tie : |q - valueAt p| = |q - valueAt p'| := le_antisymm (h.le p') (h'.le p)
  have even : Even p := by
    rcases h p' hlt.ne' with closer | ⟨-, even⟩
    · exact absurd tie closer.ne
    · exact even
  have even' : Even p' := by
    rcases h' p hlt.ne with closer | ⟨-, even'⟩
    · exact absurd tie closer.ne'
    · exact even'
  -- the odd place after `p` lies strictly between the two and is nearer than both
  have hmid : p + 1 < p' := by
    refine lt_of_le_of_ne hlt fun same => ?_
    rw [← same, Nat.even_add_one] at even'
    exact even' even
  have hv : valueAt (p + 1) < valueAt p' := valueAt_strictMono hmid
  have middle : 2 * q = valueAt p + valueAt p' := (abs_sub_eq_iff (valueAt_strictMono hlt)).mp tie
  have nearer : |q - valueAt (p + 1)| < |q - valueAt p| :=
    (nearer_right_iff (valueAt_strictMono (Nat.lt_succ_self p))).mpr (by linarith)
  exact (h.le (p + 1)).not_gt nearer

theorem NearestPlace.unique {q : ℚ} {p p' : Nat} (h : NearestPlace q p) (h' : NearestPlace q p') :
    p = p' :=
  le_antisymm (not_lt.mp (h'.not_before h)) (not_lt.mp (h.not_before h'))

/-- A value rounds to one magnitude only. -/
theorem IsNearest.unique {q : ℚ} {m m' : Magnitude} (h : m.IsNearest q) (h' : m'.IsNearest q) :
    m = m' := by
  obtain ⟨p, hp, rfl⟩ := h
  obtain ⟨p', hp', rfl⟩ := h'
  rw [hp.unique hp']

/-- Of two values the greater one does not round to an earlier place. -/
theorem NearestPlace.mono {q q' : ℚ} {p p' : Nat} (h : NearestPlace q p) (h' : NearestPlace q' p')
    (hle : q ≤ q') : p ≤ p' := by
  by_contra after
  have hlt : p' < p := not_le.mp after
  have hv : valueAt p' < valueAt p := valueAt_strictMono hlt
  -- the first value is not below the middle of the two places, and the second not above it
  have low : valueAt p' + valueAt p ≤ 2 * q :=
    not_lt.mp fun nearer => (h.le p').not_gt ((nearer_left_iff hv).mpr nearer)
  have high : 2 * q' ≤ valueAt p' + valueAt p :=
    not_lt.mp fun nearer => (h'.le p).not_gt ((nearer_right_iff hv).mpr nearer)
  obtain rfl : q = q' := by linarith
  exact hlt.ne' (h.unique h')

/-- Rounding keeps the order of values. -/
theorem IsNearest.place_mono {q q' : ℚ} {m m' : Magnitude} (h : m.IsNearest q)
    (h' : m'.IsNearest q') (hle : q ≤ q') : m.place ≤ m'.place := by
  obtain ⟨p, hp, rfl⟩ := h
  obtain ⟨p', hp', rfl⟩ := h'
  exact min_le_min_right lastPlace (hp.mono hp' hle)

/-! ## Finding it -/

section

variable {q : ℚ} {p : Nat} (low : valueAt p ≤ q) (high : q < valueAt (p + 1))

include low in
/-- Of two places under a value the higher one is nearer. -/
theorem nearer_than_before {p' : Nat} (h : p' < p) : |q - valueAt p| < |q - valueAt p'| := by
  have hv : valueAt p' < valueAt p := valueAt_strictMono h
  exact (nearer_right_iff hv).mpr (by linarith)

include high in
/-- Of two places over a value the lower one is nearer. -/
theorem nearer_than_after {p' : Nat} (h : p + 1 < p') :
    |q - valueAt (p + 1)| < |q - valueAt p'| := by
  have hv : valueAt (p + 1) < valueAt p' := valueAt_strictMono h
  exact (nearer_left_iff hv).mpr (by linarith)

include low high

theorem nearestPlace_of_lt_middle (left : 2 * q < valueAt p + valueAt (p + 1)) :
    NearestPlace q p := by
  have closer : |q - valueAt p| < |q - valueAt (p + 1)| :=
    (nearer_left_iff (valueAt_strictMono (Nat.lt_succ_self p))).mpr left
  intro p' differs
  rcases (by omega : p' < p ∨ p' = p + 1 ∨ p + 1 < p') with h | rfl | h
  · exact Or.inl (nearer_than_before low h)
  · exact Or.inl closer
  · exact Or.inl (closer.trans (nearer_than_after high h))

theorem nearestPlace_of_middle_lt (right : valueAt p + valueAt (p + 1) < 2 * q) :
    NearestPlace q (p + 1) := by
  have closer : |q - valueAt (p + 1)| < |q - valueAt p| :=
    (nearer_right_iff (valueAt_strictMono (Nat.lt_succ_self p))).mpr right
  intro p' differs
  rcases (by omega : p' < p ∨ p' = p ∨ p + 1 < p') with h | rfl | h
  · exact Or.inl (closer.trans (nearer_than_before low h))
  · exact Or.inl closer
  · exact Or.inl (nearer_than_after high h)

theorem nearestPlace_of_middle (middle : 2 * q = valueAt p + valueAt (p + 1)) :
    NearestPlace q (if p % 2 = 0 then p else p + 1) := by
  have tie : |q - valueAt p| = |q - valueAt (p + 1)| :=
    (abs_sub_eq_iff (valueAt_strictMono (Nat.lt_succ_self p))).mpr middle
  by_cases even : p % 2 = 0
  · rw [if_pos even]
    intro p' differs
    rcases (by omega : p' < p ∨ p' = p + 1 ∨ p + 1 < p') with h | rfl | h
    · exact Or.inl (nearer_than_before low h)
    · exact Or.inr ⟨tie, Nat.even_iff.mpr even⟩
    · exact Or.inl (tie ▸ nearer_than_after high h)
  · rw [if_neg even]
    intro p' differs
    rcases (by omega : p' < p ∨ p' = p ∨ p + 1 < p') with h | rfl | h
    · exact Or.inl (tie ▸ nearer_than_before low h)
    · exact Or.inr ⟨tie.symm, Nat.even_iff.mpr (by omega)⟩
    · exact Or.inl (nearer_than_after high h)

end

/-- The computed place is the nearest one. -/
theorem nearestPlace_nearestPlace (num : Nat) {den : Nat} (hden : 0 < den) :
    NearestPlace (num / den / one) (nearestPlace num den) := by
  have hd : (0 : ℚ) < den := Nat.cast_pos.mpr hden
  have hpos : (0 : ℚ) < den * one := mul_pos hd one_pos
  -- multiplied by this, what is compared are the natural numbers that the program compares
  have scale : (num / den / one : ℚ) * (den * one) = num := by
    rw [div_div, div_mul_cancel₀ _ hpos.ne']
  have scaleAt : ∀ p, valueAt p * (den * one) = (unitsAt p * den : Nat) := fun p => by
    rw [valueAt, mul_comm (den : ℚ), ← mul_assoc, div_mul_cancel₀ _ one_pos.ne', Nat.cast_mul]
  generalize (num / den / one : ℚ) = q at scale ⊢
  set p := placeUnder (num / den)
  have low : valueAt p ≤ q := by
    refine le_of_mul_le_mul_right ?_ hpos
    rw [scaleAt, scale, Nat.cast_le]
    calc unitsAt p * den ≤ num / den * den := Nat.mul_le_mul_right den (unitsAt_placeUnder_le _)
      _ ≤ num := Nat.div_mul_le_self num den
  have high : q < valueAt (p + 1) := by
    refine lt_of_mul_lt_mul_right ?_ hpos.le
    rw [scaleAt, scale, Nat.cast_lt]
    exact (Nat.div_lt_iff_lt_mul hden).mp (lt_unitsAt_placeUnder_succ (num / den))
  have double : 2 * q * (den * one) = (2 * num : Nat) := by
    rw [mul_assoc, scale, Nat.cast_mul, Nat.cast_ofNat]
  have middle : (valueAt p + valueAt (p + 1)) * (den * one) =
      ((unitsAt p + unitsAt (p + 1)) * den : Nat) := by
    rw [add_mul, scaleAt, scaleAt, ← Nat.cast_add, ← Nat.add_mul]
  simp only [nearestPlace]
  split
  · next h =>
    refine nearestPlace_of_lt_middle low high (lt_of_mul_lt_mul_right ?_ hpos.le)
    rw [double, middle, Nat.cast_lt]
    exact Nat.compare_eq_lt.mp h
  · next h =>
    refine nearestPlace_of_middle_lt low high (lt_of_mul_lt_mul_right ?_ hpos.le)
    rw [double, middle, Nat.cast_lt]
    exact Nat.compare_eq_gt.mp h
  · next h =>
    refine nearestPlace_of_middle low high (mul_right_cancel₀ hpos.ne' ?_)
    rw [double, middle, Nat.cast_inj]
    exact Nat.compare_eq_eq.mp h

theorem isNearest_nearest (num : Nat) {den : Nat} (hden : 0 < den) :
    (nearest num den).IsNearest (num / den / one) :=
  ⟨nearestPlace num den, nearestPlace_nearestPlace num hden, rfl⟩

/-- Every value that is not negative has a nearest place. -/
theorem exists_nearestPlace {q : ℚ} (hq : 0 ≤ q) : ∃ p, NearestPlace q p := by
  have hnum : 0 ≤ (q * one).num := Rat.num_nonneg.mpr (mul_nonneg hq one_pos.le)
  have hquot : ((q * one).num.toNat / (q * one).den / one : ℚ) = q := by
    rw [← Int.cast_natCast, Int.toNat_of_nonneg hnum, Rat.num_div_den, mul_div_assoc,
      div_self one_pos.ne', mul_one]
  exact ⟨_, hquot ▸ nearestPlace_nearestPlace _ (q * one).den_pos⟩

/-! ## Values out of reach -/

/-- What is not less than 2^1024 rounds to infinity. -/
theorem isNearest_infinite {q : ℚ} (h : 2 ^ 1024 ≤ q) : infinite.IsNearest q := by
  have low : valueAt lastPlace ≤ q := valueAt_lastPlace ▸ h
  obtain ⟨p, hp⟩ := exists_nearestPlace ((by positivity : (0 : ℚ) ≤ 2 ^ 1024).trans h)
  have hle : lastPlace ≤ p := not_lt.mp fun hlt =>
    (hp.le lastPlace).not_gt (nearer_than_before low hlt)
  refine ⟨p, hp, ?_⟩
  simp only [infinite, atPlace, Nat.min_eq_right hle]

/-- What rounds to infinity has passed the middle between the greatest finite value and the first
one out of reach, or lies on it. -/
theorem IsNearest.eq_infinite_iff {q : ℚ} {m : Magnitude} (h : m.IsNearest q) :
    m = infinite ↔ valueAt (lastPlace - 1) + 2 ^ 1024 ≤ 2 * q := by
  obtain ⟨p, hp, rfl⟩ := h
  have reached : atPlace p = infinite ↔ lastPlace ≤ p := by
    rw [atPlace, infinite, Magnitude.mk.injEq, min_eq_right_iff]
  rw [reached, ← valueAt_lastPlace]
  have last : lastPlace - 1 < lastPlace := by decide
  constructor
  · intro beyond
    have below : valueAt (lastPlace - 1) < valueAt p := valueAt_strictMono (last.trans_le beyond)
    have middle : valueAt (lastPlace - 1) + valueAt p ≤ 2 * q :=
      not_lt.mp fun nearer => (hp.le (lastPlace - 1)).not_gt ((nearer_left_iff below).mpr nearer)
    have above : valueAt lastPlace ≤ valueAt p := valueAt_strictMono.monotone beyond
    linarith
  · intro middle
    by_contra inside
    have under : p ≤ lastPlace - 1 := Nat.le_sub_one_of_lt (not_le.mp inside)
    have low : valueAt p ≤ valueAt (lastPlace - 1) := valueAt_strictMono.monotone under
    have hlt : valueAt p < valueAt lastPlace := valueAt_strictMono (not_le.mp inside)
    rcases hp lastPlace (not_le.mp inside).ne' with nearer | ⟨tie, even⟩
    · have before := (nearer_left_iff hlt).mp nearer
      linarith
    · -- a tie with infinity is one of the greatest finite place, which is odd
      have onMiddle := (abs_sub_eq_iff hlt).mp tie
      have greatest : p = lastPlace - 1 := valueAt_strictMono.injective (by linarith)
      rw [greatest, Nat.even_iff] at even
      exact absurd even (by decide)

/-- What is less than half a unit rounds to zero. -/
theorem isNearest_zero {q : ℚ} (hq : 0 ≤ q) (h : 2 * q * one < 1) : zero.IsNearest q := by
  have first : valueAt (0 + 1) = 1 / one := by
    rw [valueAt, unitsAt_of_lt_span (by decide), Nat.cast_one]
  have hfirst : 2 * q < valueAt (0 + 1) := by rwa [first, lt_div_iff₀ one_pos]
  refine ⟨0, nearestPlace_of_lt_middle ?_ ?_ ?_, rfl⟩
  · rwa [valueAt_zero]
  · linarith
  · rwa [valueAt_zero, zero_add]

end Magnitude

/-! ## Decimals -/

namespace Decimal

open Magnitude

/-- The number that a decimal denotes. -/
def value (d : Decimal) : ℚ := d.digits * 10 ^ d.exponent

theorem value_nonneg (d : Decimal) : 0 ≤ d.value := by
  unfold value
  positivity

/-- A power of two against one of ten, without working them out. -/
theorem two_pow_le_ten_zpow {a : Nat} {n : ℤ} (h : (a : ℤ) ≤ 3 * n) : (2 : ℚ) ^ a ≤ 10 ^ n := by
  lift n to ℕ using by omega
  rw [zpow_natCast]
  calc (2 : ℚ) ^ a ≤ 2 ^ (3 * n) := pow_le_pow_right₀ (by norm_num) (by omega)
    _ = (2 ^ 3) ^ n := pow_mul ..
    _ ≤ 10 ^ n := pow_le_pow_left₀ (by norm_num) (by norm_num) n

/-- A decimal whose last digit stands for 10^400 or more is too great. -/
theorem le_value_of_exponent {d : Decimal} (hd : d.digits ≠ 0) (h : 400 ≤ d.exponent) :
    2 ^ 1024 ≤ d.value := by
  have hdigits : (1 : ℚ) ≤ d.digits := Nat.one_le_cast.mpr (Nat.one_le_iff_ne_zero.mpr hd)
  calc (2 : ℚ) ^ 1024 ≤ 10 ^ d.exponent := two_pow_le_ten_zpow (by push_cast; omega)
    _ ≤ d.value := le_mul_of_one_le_left (by positivity) hdigits

/-- A decimal whose first digit stands for less than 10^-399 is too small. -/
theorem value_lt_of_exponent {d : Decimal} (h : d.exponent + d.digits.log2 + 400 ≤ 0) :
    2 * d.value * one < 1 := by
  have hdigits : (d.digits : ℚ) ≤ 10 ^ (d.digits.log2 + 1 : ℤ) := by
    calc (d.digits : ℚ) ≤ 2 ^ (d.digits.log2 + 1) := by exact_mod_cast Nat.lt_log2_self.le
      _ ≤ 10 ^ (d.digits.log2 + 1 : ℤ) := two_pow_le_ten_zpow (by push_cast; omega)
  have hvalue : d.value ≤ 10 ^ (-399 : ℤ) := by
    calc d.value ≤ 10 ^ (d.digits.log2 + 1 : ℤ) * 10 ^ d.exponent :=
          mul_le_mul_of_nonneg_right hdigits (by positivity)
      _ = 10 ^ (d.digits.log2 + 1 + d.exponent : ℤ) := (zpow_add₀ (by norm_num) ..).symm
      _ ≤ 10 ^ (-399 : ℤ) := zpow_le_zpow_right₀ (by norm_num) (by omega)
  have hone : (one : ℚ) ≤ 10 ^ (398 : ℤ) := by
    rw [one_eq, Nat.cast_pow, Nat.cast_ofNat]
    exact two_pow_le_ten_zpow (by norm_num)
  calc 2 * d.value * one ≤ 2 * 10 ^ (-399 : ℤ) * 10 ^ (398 : ℤ) :=
        mul_le_mul (mul_le_mul_of_nonneg_left hvalue (by norm_num)) hone one_pos.le (by positivity)
    _ = 2 * 10 ^ (-399 + 398 : ℤ) := by
        rw [mul_assoc, zpow_add₀ (by norm_num) (-399) 398]
    _ < 1 := by norm_num

theorem cast_tenTo (n : Nat) : (tenTo n : ℚ) = 10 ^ n := by
  rw [tenTo, Nat.pow_eq, Nat.cast_pow, Nat.cast_ofNat]

/-- A power of ten as a quotient of whole ones. -/
theorem tenTo_div_tenTo (e : ℤ) : (tenTo e.toNat / tenTo (-e).toNat : ℚ) = 10 ^ e := by
  rw [cast_tenTo, cast_tenTo]
  rcases e.eq_nat_or_neg with ⟨n, rfl | rfl⟩ <;> simp

/-- A decimal is rounded to the magnitude nearest to the number that it denotes. -/
theorem isNearest_magnitude (d : Decimal) : d.magnitude.IsNearest d.value := by
  unfold magnitude
  split
  · next h =>
    have hvalue : d.value = 0 := by rw [value, h, Nat.cast_zero, zero_mul]
    exact isNearest_zero hvalue.ge (by rw [hvalue]; norm_num)
  · split
    · next hd h => exact isNearest_infinite (le_value_of_exponent hd h)
    · split
      · next h => exact isNearest_zero d.value_nonneg (value_lt_of_exponent h)
      · have hden : 0 < tenTo (-d.exponent).toNat := Nat.pow_pos (by norm_num)
        have hvalue : ((d.digits * tenTo d.exponent.toNat * one : Nat) /
            (tenTo (-d.exponent).toNat : Nat) / one : ℚ) = d.value := by
          push_cast
          rw [div_right_comm, mul_div_cancel_right₀ _ one_pos.ne', mul_div_assoc, tenTo_div_tenTo,
            value]
        exact hvalue ▸ isNearest_nearest _ hden

/-- In the middle between two neighbours the even one is taken. -/
example :
    (Decimal.mk 9007199254740993 0).magnitude = (Decimal.mk 9007199254740992 0).magnitude := by
  decide +kernel

end Decimal

end ODataGateway
