/-
# ODataGateway.Proofs.Number.Places — the values at the places of a magnitude.

From one place to the next the value grows by a power of two (`unitsAt_succ`), so the values are
strictly ordered as their places are, and `placeUnder` finds the last place whose value does not
exceed a given number of units.
-/
import Mathlib.Algebra.Order.Ring.Nat
import Mathlib.Order.Monotone.Basic
import Mathlib.Tactic.Ring
import ODataGateway.Number.Decimal

namespace ODataGateway.Magnitude

/-! ## Values grow with their places -/

theorem span_eq : span = 2 ^ 52 := rfl

theorem span_pos : 0 < span := by decide

theorem one_eq : one = 2 ^ 1074 := by
  unfold one
  -- kept a variable, so that no power is worked out
  generalize 1074 = e
  exact Nat.one_shiftLeft e

theorem unitsAt_of_lt_span {p : Nat} (h : p < span) : unitsAt p = p := if_pos h

/-- In the span after the first `k + 1` ones the values are `2^k` units apart. -/
theorem unitsAt_span_add {f : Nat} (hf : f < span) (k : Nat) :
    unitsAt ((k + 1) * span + f) = (span + f) * 2 ^ k := by
  have hlt : ¬ (k + 1) * span + f < span := by
    rw [Nat.add_mul, Nat.one_mul]
    omega
  have hmod : ((k + 1) * span + f) % span = f := by
    rw [Nat.add_comm, Nat.add_mul_mod_self_right, Nat.mod_eq_of_lt hf]
  have hdiv : ((k + 1) * span + f) / span = k + 1 := by
    rw [Nat.add_comm, Nat.add_mul_div_right _ _ span_pos, Nat.div_eq_of_lt hf, Nat.zero_add]
  rw [unitsAt, if_neg hlt, hmod, hdiv, Nat.shiftLeft_eq, Nat.add_sub_cancel]

/-- A place is in the first span, or some way into a later one. -/
theorem place_cases (p : Nat) : p < span ∨ ∃ k f, f < span ∧ p = (k + 1) * span + f := by
  by_cases h : p < span
  · exact Or.inl h
  · have hpos : 1 ≤ p / span := (Nat.one_le_div_iff span_pos).mpr (Nat.not_lt.mp h)
    refine Or.inr ⟨p / span - 1, p % span, Nat.mod_lt p span_pos, ?_⟩
    rw [Nat.sub_add_cancel hpos, Nat.mul_comm]
    exact (Nat.div_add_mod p span).symm

/-- The distance to the next value. -/
theorem unitsAt_succ (p : Nat) : unitsAt (p + 1) = unitsAt p + 2 ^ (p / span - 1) := by
  rcases place_cases p with h | ⟨k, f, hf, rfl⟩
  · rw [unitsAt_of_lt_span h, Nat.div_eq_of_lt h]
    rcases (by omega : p + 1 < span ∨ p + 1 = span) with h' | h'
    · rw [unitsAt_of_lt_span h']
      rfl
    · rw [h']
      simpa [h'] using unitsAt_span_add span_pos 0
  · have hdiv : ((k + 1) * span + f) / span - 1 = k := by
      rw [Nat.add_comm, Nat.add_mul_div_right _ _ span_pos, Nat.div_eq_of_lt hf]
      omega
    rw [hdiv, unitsAt_span_add hf]
    rcases (by omega : f + 1 < span ∨ f + 1 = span) with h' | h'
    · rw [Nat.add_assoc, unitsAt_span_add h']
      ring
    · -- the last place of a span: the next one starts the span after it
      have hnext : (k + 1) * span + f + 1 = (k + 1 + 1) * span + 0 := by
        rw [Nat.add_assoc, h']
        ring
      rw [hnext, unitsAt_span_add span_pos]
      calc (span + 0) * 2 ^ (k + 1) = (span + (f + 1)) * 2 ^ k := by rw [h']; ring
        _ = (span + f) * 2 ^ k + 2 ^ k := by ring

/-- Values are ordered as their places are. -/
theorem unitsAt_strictMono : StrictMono unitsAt := by
  refine strictMono_nat_of_lt_succ fun p => ?_
  rw [unitsAt_succ]
  exact Nat.lt_add_of_pos_right (Nat.two_pow_pos _)

/-- Infinity stands where 2^1024 would. -/
theorem unitsAt_lastPlace : unitsAt lastPlace = 2 ^ 1024 * one := by
  have h : unitsAt lastPlace = (span + 0) * 2 ^ 2046 := unitsAt_span_add span_pos 2046
  have regroup : ∀ a b c d : Nat, a + b = c + d → 2 ^ a * 2 ^ b = 2 ^ c * 2 ^ d :=
    fun a b c d same => by rw [← Nat.pow_add, ← Nat.pow_add, same]
  rw [h, one_eq, span_eq, Nat.add_zero]
  exact regroup 52 2046 1024 1074 (by omega)

/-! ## The place under a number of units -/

theorem unitsAt_of_lt_two_spans {u : Nat} (h : u < 2 * span) : unitsAt u = u := by
  rcases place_cases u with h' | ⟨k, f, hf, rfl⟩
  · exact unitsAt_of_lt_span h'
  · have hk : k = 0 := by
      rw [Nat.add_mul, Nat.one_mul] at h
      by_contra hne
      have : span ≤ k * span := Nat.le_mul_of_pos_left span (Nat.pos_of_ne_zero hne)
      omega
    subst hk
    rw [unitsAt_span_add hf]
    ring

/-- From two spans on, the place under `u` is found by keeping 53 binary digits of `u`. -/
theorem placeUnder_of_le {u : Nat} (h : 2 * span ≤ u) :
    ∃ k f, f < span ∧ placeUnder u = (k + 1) * span + f ∧ (span + f) = u / 2 ^ k := by
  have hu : u ≠ 0 := by have := span_pos; omega
  have hlog : 53 ≤ u.log2 := (Nat.le_log2 hu).mpr (by rw [span_eq] at h; omega)
  obtain ⟨k, hk⟩ : ∃ k, u.log2 = k + 52 := ⟨u.log2 - 52, by omega⟩
  have hlow : span ≤ u / 2 ^ k := by
    rw [Nat.le_div_iff_mul_le (Nat.two_pow_pos k), span_eq, ← Nat.pow_add, Nat.add_comm, ← hk]
    exact Nat.log2_self_le hu
  have hhigh : u / 2 ^ k < 2 * span := by
    have hlt : u < 2 ^ (u.log2 + 1) := Nat.lt_log2_self
    rw [Nat.div_lt_iff_lt_mul (Nat.two_pow_pos k), span_eq]
    calc u < 2 ^ (k + 52 + 1) := hk ▸ hlt
      _ = 2 * 2 ^ 52 * 2 ^ k := by ring
  refine ⟨k, u / 2 ^ k - span, by omega, ?_, by omega⟩
  rw [placeUnder, if_neg (by omega), hk, Nat.add_sub_cancel, Nat.shiftRight_eq_div_pow, Nat.add_mul,
    Nat.one_mul]
  omega

theorem unitsAt_placeUnder_le (u : Nat) : unitsAt (placeUnder u) ≤ u := by
  by_cases h : u < 2 * span
  · rw [placeUnder, if_pos h, unitsAt_of_lt_two_spans h]
  · obtain ⟨k, f, hf, hplace, hdigits⟩ := placeUnder_of_le (Nat.not_lt.mp h)
    rw [hplace, unitsAt_span_add hf, hdigits]
    exact Nat.div_mul_le_self u (2 ^ k)

theorem lt_unitsAt_placeUnder_succ (u : Nat) : u < unitsAt (placeUnder u + 1) := by
  by_cases h : u < 2 * span
  · rw [placeUnder, if_pos h, unitsAt_succ, unitsAt_of_lt_two_spans h]
    exact Nat.lt_add_of_pos_right (Nat.two_pow_pos _)
  · obtain ⟨k, f, hf, hplace, hdigits⟩ := placeUnder_of_le (Nat.not_lt.mp h)
    have hdiv : ((k + 1) * span + f) / span - 1 = k := by
      rw [Nat.add_comm, Nat.add_mul_div_right _ _ span_pos, Nat.div_eq_of_lt hf]
      omega
    rw [hplace, unitsAt_succ, hdiv, unitsAt_span_add hf, hdigits]
    calc u < 2 ^ k * (u / 2 ^ k + 1) := Nat.lt_mul_div_succ u (Nat.two_pow_pos k)
      _ = u / 2 ^ k * 2 ^ k + 2 ^ k := by ring

end ODataGateway.Magnitude
