/-
# ODataGateway.Proofs.Number.Counts — natural numbers that are sent as counts.

Up to 2^53 every natural number is a binary64 number (`Magnitude.exists_place_of_le`), so its
decimal digits are read without loss and give the same count back (`Binary64.count?_ofText_nat`).
One more than 2^53 is no binary64 number any longer, and its digits are read as 2^53.
-/
import ODataGateway.Proofs.Number.Laid
import ODataGateway.Proofs.Number.Spelled
import ODataGateway.Query.Options

namespace ODataGateway

/-! ## Whole numbers among the magnitudes -/

namespace Magnitude

/-- Twice the value of a place is the value of a place. -/
theorem exists_place_double (p : Nat) : ∃ q, unitsAt q = 2 * unitsAt p := by
  rcases place_cases p with h | ⟨k, f, hf, rfl⟩
  · refine ⟨2 * p, ?_⟩
    rw [unitsAt_of_lt_span h]
    apply unitsAt_of_lt_two_spans
    omega
  · -- one span further on the values are twice as far apart
    refine ⟨(k + 1 + 1) * span + f, ?_⟩
    rw [unitsAt_span_add hf, unitsAt_span_add hf]
    ring

/-- A number of 53 binary digits, or the next one after them, is a value in every scale. -/
theorem exists_place_scaled {n : Nat} (h : n ≤ 2 * span) (k : Nat) :
    ∃ p, unitsAt p = n * 2 ^ k := by
  induction k with
  | zero =>
    rcases (by omega : n < 2 * span ∨ n = 2 * span) with small | rfl
    · exact ⟨n, by rw [unitsAt_of_lt_two_spans small, pow_zero, mul_one]⟩
    · refine ⟨(1 + 1) * span + 0, ?_⟩
      rw [unitsAt_span_add span_pos]
      ring
  | succ k ih =>
    obtain ⟨p, hp⟩ := ih
    obtain ⟨q, hq⟩ := exists_place_double p
    refine ⟨q, ?_⟩
    rw [hq, hp]
    ring

/-- A natural number of 53 binary digits before any number of zeros is a magnitude, as far as the
magnitudes go. -/
theorem exists_units_scaled {n : Nat} (digits : n ≤ 2 * span) {k : Nat}
    (inside : n * 2 ^ k ≤ 2 ^ 1024) : ∃ m : Magnitude, m.units = n * 2 ^ k * one := by
  have scale : ∀ e, 2 ^ (k + e) = 2 ^ k * 2 ^ e := fun e => pow_add 2 k e
  obtain ⟨p, hp⟩ := exists_place_scaled digits (k + 1074)
  rw [scale, ← one_eq, ← Nat.mul_assoc] at hp
  have first : p ≤ lastPlace := by
    rw [← unitsAt_strictMono.le_iff_le, hp, unitsAt_lastPlace]
    exact Nat.mul_le_mul_right one inside
  exact ⟨⟨p, first⟩, hp⟩

/-- Every natural number up to 2^53 is a magnitude. -/
theorem exists_place_of_le {n : Nat} (h : n ≤ 2 ^ 53) : ∃ m : Magnitude, m.units = n * one := by
  have digits : n ≤ 2 * span := by
    rw [span_eq]
    omega
  have inside : n * 2 ^ 0 ≤ 2 ^ 1024 := by
    rw [pow_zero, mul_one]
    exact h.trans (pow_le_pow_right₀ one_le_two (by omega))
  obtain ⟨m, hm⟩ := exists_units_scaled digits inside
  exact ⟨m, by rw [hm, pow_zero, mul_one]⟩

/-- A whole number of ones rounds to the magnitude that it is. -/
theorem isNearest_of_units {m : Magnitude} {n : Nat} (h : m.units = n * one) : m.IsNearest n := by
  have value : valueAt m.place = n := by
    rw [valueAt, ← Magnitude.units, h, Nat.cast_mul, mul_div_cancel_right₀ _ one_pos.ne']
  exact value ▸ m.isNearest_valueAt

end Magnitude

/-- A natural number up to 2^53 is not changed by rounding. -/
theorem Decimal.units_magnitude_nat {n : Nat} (h : n ≤ 2 ^ 53) :
    (Decimal.mk n 0).magnitude.units = n * Magnitude.one := by
  obtain ⟨m, hm⟩ := Magnitude.exists_place_of_le h
  have value : (Decimal.mk n 0).value = n := by rw [Decimal.value, zpow_zero, mul_one]
  have nearest : (Decimal.mk n 0).magnitude.IsNearest n := value ▸ Decimal.isNearest_magnitude _
  rw [nearest.unique (Magnitude.isNearest_of_units hm), hm]

/-! ## Digits -/

/-- Digits alone are read as the number that they spell. -/
theorem Numeral.read?_digits {ds : List Char} (nonempty : ds ≠ [])
    (digits : ∀ c ∈ ds, c.isDigit = true) : read? ds = some ⟨false, digitsValue ds, 0⟩ := by
  obtain ⟨c, r, rfl⟩ := List.exists_cons_of_ne_nil nonempty
  have noSign : ([], false) ∈ signs := List.mem_cons_self ..
  have unsigned : readSign (c :: r) = (false, c :: r) :=
    readSign_append noSign (digits c (List.mem_cons_self ..)) r
  -- the run of digits is the whole text
  have whole := Text.takeWhile_run digits Text.halts_nil
  have rest := Text.dropWhile_run digits Text.halts_nil
  rw [List.append_nil] at whole rest
  rw [read?, unsigned]
  simp only [whole, rest, readFraction, readExponent?, List.append_nil]
  rfl

namespace Layout

theorem toList_toString_nat (n : Nat) : (toString n).toList = natural n := String.toList_ofList

theorem isBlank_of_mem_natural {n : Nat} {c : Char} (h : c ∈ natural n) : Text.isBlank c = false :=
  Cursor.isBlank_of_isDigit (isDigit_of_mem_natural h)

theorem trim_natural (n : Nat) : Text.trim (natural n) = natural n := by
  apply Text.trim_eq_self
  · exact Text.halts_of_forall fun c hc => isBlank_of_mem_natural hc
  · apply Text.halts_of_forall
    intro c hc
    exact isBlank_of_mem_natural (List.mem_reverse.mp hc)

end Layout

namespace Binary64

/-- The digits of a natural number are read as the number nearest to it. -/
theorem ofText_nat (n : Nat) : ofText (toString n) = ofNumeral ⟨false, n, 0⟩ := by
  have nonempty : Layout.natural n ≠ [] := (Layout.isWhole_natural n).ne_nil
  apply ofText_of_read?
  rw [Layout.toList_toString_nat, Layout.trim_natural,
    Numeral.read?_digits nonempty fun c hc => Layout.isDigit_of_mem_natural hc,
    Layout.digitsValue_natural]

/-- Up to 2^53 a natural number is the count that is made of its digits. -/
theorem count?_ofText_nat {n : Nat} (h : n ≤ 2 ^ 53) : (ofText (toString n)).count? = some n := by
  have pos : 0 < Magnitude.one := Nat.cast_pos.mp Magnitude.one_pos
  have limit : n ≤ maxCount := by
    unfold maxCount
    omega
  rw [ofText_nat]
  show some (min ((Decimal.mk n 0).magnitude.units / Magnitude.one) maxCount) = some n
  rw [Decimal.units_magnitude_nat h, Nat.mul_div_cancel n pos, Nat.min_eq_left limit]

/-- The first number that is lost. -/
example : (ofText "9007199254740993").count? = some 9007199254740992 := by decide +kernel

end Binary64

/-! ## Counts in options -/

namespace Paging

theorem number?_nat (n : Nat) : number? (some (toString n)) = some (.ofText (toString n)) := by
  have notBlank : Text.allBlank (toString n) = false := by
    obtain ⟨c, r, hr⟩ := List.exists_cons_of_ne_nil (Layout.isWhole_natural n).ne_nil
    have digit : c ∈ Layout.natural n := hr ▸ List.mem_cons_self ..
    rw [Text.allBlank, Layout.toList_toString_nat, List.all_eq_false]
    exact ⟨c, digit, Bool.eq_false_iff.mp (Layout.isBlank_of_mem_natural digit)⟩
  exact number?_of_given notBlank

theorem skip_nat {n : Nat} (h : n ≤ 2 ^ 53) : skip (some (toString n)) = some n := by
  rw [skip, number?_nat, Option.map_some, Binary64.count?_ofText_nat h]
  rfl

theorem top_nat {n : Nat} (h : n ≤ 2 ^ 53) : top (some (toString n)) = some n := by
  rw [top, number?_nat, Option.bind_some, Binary64.count?_ofText_nat h]

end Paging

end ODataGateway
