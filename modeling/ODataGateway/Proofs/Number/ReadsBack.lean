/-
# ODataGateway.Proofs.Number.ReadsBack — the digits that are chosen for a magnitude denote it.

Rounding looks at the value of a decimal only (`Decimal.magnitude_congr`), and the value of a
magnitude rounds to that magnitude (`Magnitude.isNearest_valueAt`).  The search for the fewest
digits keeps to decimals that read back, and what it falls back on is the exact value, so
`Magnitude.shortest` reads back in every case.
-/
import ODataGateway.Number.Layout
import ODataGateway.Proofs.Number.Nearest

namespace ODataGateway

/-! ## Rounding what needs no rounding -/

namespace Magnitude

/-- A place is the nearest one to its own value. -/
theorem nearestPlace_valueAt (p : Nat) : NearestPlace (valueAt p) p := by
  intro p' differs
  left
  rw [sub_self, abs_zero, abs_pos, sub_ne_zero]
  intro same
  exact differs (valueAt_strictMono.injective same).symm

/-- A magnitude is what its own value rounds to. -/
theorem isNearest_valueAt (m : Magnitude) : m.IsNearest (valueAt m.place) := by
  refine ⟨m.place, nearestPlace_valueAt m.place, ?_⟩
  obtain ⟨p, hp⟩ := m
  simp only [atPlace, Nat.min_eq_left hp]

theorem valueAt_eq_zero_iff {p : Nat} : valueAt p = 0 ↔ p = 0 := by
  rw [← valueAt_zero, valueAt_strictMono.injective.eq_iff]

theorem valueAt_nonneg (p : Nat) : 0 ≤ valueAt p := by
  rw [← valueAt_zero, valueAt_strictMono.le_iff_le]
  exact Nat.zero_le p

theorem eq_zero_of_place {m : Magnitude} (h : m.place = 0) : m = zero := by
  obtain ⟨p, hp⟩ := m
  subst h
  rfl

end Magnitude

namespace Decimal

open Magnitude

/-- What a decimal rounds to depends on its value alone. -/
theorem magnitude_congr {d e : Decimal} (h : d.value = e.value) : d.magnitude = e.magnitude :=
  d.isNearest_magnitude.unique (h ▸ e.isNearest_magnitude)

/-- A decimal that has the value of a magnitude rounds to it. -/
theorem magnitude_eq_of_value {d : Decimal} {m : Magnitude} (h : d.value = valueAt m.place) :
    d.magnitude = m :=
  d.isNearest_magnitude.unique (h ▸ m.isNearest_valueAt)

theorem magnitude_of_digits_eq_zero {d : Decimal} (h : d.digits = 0) : d.magnitude = .zero :=
  if_pos h

end Decimal

/-! ## The shortest decimal -/

namespace Magnitude

/-- Zeros at the end of the digits may stand in the exponent. -/
theorem value_stripZeros (digits : Nat) (exponent : Int) :
    (stripZeros digits exponent).value = Decimal.value ⟨digits, exponent⟩ := by
  fun_induction stripZeros digits exponent with
  | case1 digits exponent h ih =>
    have hdigits : (digits : ℚ) = (digits / 10 : Nat) * 10 := by
      have whole : digits = digits / 10 * 10 := by omega
      exact_mod_cast whole
    rw [ih]
    simp only [Decimal.value]
    rw [hdigits, zpow_add₀ (by norm_num), zpow_one]
    ring
  | case2 => rfl

/-- One unit is 5^1074 · 10^-1074, and the like for any other power. -/
theorem value_scaled (units k : Nat) :
    Decimal.value ⟨units * Nat.pow 5 k, -k⟩ = units / 2 ^ k := by
  have ten : (10 : ℚ) ^ (-k : ℤ) = (5 ^ k)⁻¹ * (2 ^ k)⁻¹ := by
    rw [zpow_neg, zpow_natCast, ← mul_inv, ← mul_pow]
    norm_num
  have five : (5 : ℚ) ^ k ≠ 0 := pow_ne_zero _ (by norm_num)
  rw [Decimal.value, ten, Nat.pow_eq]
  push_cast
  rw [← mul_assoc, mul_assoc (units : ℚ), mul_inv_cancel₀ five, mul_one, div_eq_mul_inv]

/-- The exact decimal has the value of the magnitude. -/
theorem value_exact (m : Magnitude) : m.exact.value = valueAt m.place := by
  have exponent : (-1074 : ℤ) = -((1074 : ℕ) : ℤ) := rfl
  rw [exact, exponent, valueAt, one_eq]
  -- the power stays a variable and is not worked out
  generalize 1074 = k
  rw [value_scaled, units, Nat.cast_pow, Nat.cast_ofNat]

theorem readsBack_iff {m : Magnitude} {d : Decimal} : m.readsBack d = true ↔ d.magnitude = m := by
  rw [readsBack, beq_iff_eq]

/-- The neighbour that is chosen is one that reads back. -/
theorem readsBack_neighbour? {readsBack : Decimal → Bool} {below above d : Decimal}
    {side : Ordering} {preferBelow : Bool}
    (h : neighbour? readsBack below above side preferBelow = some d) : readsBack d = true := by
  unfold neighbour? at h
  split at h
  · exact nomatch h
  · next hbelow _ => exact Option.some.inj h ▸ hbelow
  · next _ habove => exact Option.some.inj h ▸ habove
  · next hbelow habove =>
    -- both read back: whichever is nearer, or preferred in a tie
    split at h
    · exact Option.some.inj h ▸ hbelow
    · exact Option.some.inj h ▸ habove
    · split at h
      · exact Option.some.inj h ▸ hbelow
      · exact Option.some.inj h ▸ habove

theorem magnitude_onGrid? {m : Magnitude} {tie : Tie} {drop : Nat} {d : Decimal}
    (h : m.onGrid? tie drop = some d) : d.magnitude = m := by
  unfold onGrid? at h
  exact readsBack_iff.mp (readsBack_neighbour? h)

/-- The shortest decimal reads back. -/
theorem magnitude_shortest (m : Magnitude) (tie : Tie) : (m.shortest tie).magnitude = m := by
  unfold shortest
  extract_lets length
  clear_value length
  cases found : (List.range' 1 17).findSome? fun n => m.onGrid? tie (length - n) with
  | none =>
    rw [Option.getD_none]
    apply Decimal.magnitude_eq_of_value
    rw [value_stripZeros]
    exact m.value_exact
  | some d =>
    obtain ⟨n, -, hn⟩ := List.exists_of_findSome?_eq_some found
    rw [Option.getD_some]
    exact magnitude_onGrid? hn

/-- Of the least magnitude one digit reads back, where the exact value has 751. -/
example : (atPlace 1).shortest .even = ⟨5, -324⟩ := by decide +kernel

/-- The shortest decimal of a magnitude other than zero has a digit. -/
theorem digits_shortest_ne_zero {m : Magnitude} (h : m.place ≠ 0) (tie : Tie) :
    (m.shortest tie).digits ≠ 0 := by
  intro none
  apply h
  rw [← m.magnitude_shortest tie, Decimal.magnitude_of_digits_eq_zero none]
  rfl

end Magnitude

end ODataGateway
