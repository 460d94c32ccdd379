/-
# ODataGateway.Proofs.Number.Laid — the texts of decimals, in the parts that readers look for.

A reader of numbers looks for a whole part, a fraction behind a point and an exponent behind its
mark.  The text that a layout gives a decimal has these parts and they denote the decimal again:
without an exponent (`Layout.decimal_positional`) and with one (`Layout.decimal_exponential`).
-/
import ODataGateway.Number.Layout
import ODataGateway.Proofs.Number.ReadsBack
import ODataGateway.Proofs.Query.LiteralSpelling
import Mathlib.Tactic.IntervalCases

namespace ODataGateway

/-! ## Whole parts and fractions -/

namespace Numeral

/-- The digits of a whole part: a nought alone, or digits that do not start with one. -/
def IsWhole (ds : List Char) : Prop :=
  ds = ['0'] ∨ ∃ c r, ds = c :: r ∧ c ≠ '0' ∧ ∀ x ∈ c :: r, x.isDigit = true

theorem isWhole_cons {c : Char} {r : List Char} (first : c ≠ '0')
    (digits : ∀ x ∈ c :: r, x.isDigit = true) : IsWhole (c :: r) :=
  Or.inr ⟨c, r, rfl, first, digits⟩

theorem IsWhole.isDigit {ds : List Char} (h : IsWhole ds) : ∀ x ∈ ds, x.isDigit = true := by
  rcases h with rfl | ⟨c, r, rfl, -, digits⟩
  · intro x hx
    rw [List.mem_singleton.mp hx]
    rfl
  · exact digits

theorem IsWhole.ne_nil {ds : List Char} (h : IsWhole ds) : ds ≠ [] := by
  rcases h with rfl | ⟨c, r, rfl, -, -⟩
  · exact List.cons_ne_nil _ _
  · exact List.cons_ne_nil _ _

theorem isDigit_of_mem_zeros {n : Nat} {x : Char} (h : x ∈ List.replicate n '0') :
    x.isDigit = true := by
  rw [List.eq_of_mem_replicate h]
  rfl

theorem digitsValue_zeros (n : Nat) : digitsValue (List.replicate n '0') = 0 := by
  induction n with
  | zero => rfl
  | succ n ih => exact ih

/-- Zeros put behind digits multiply what they denote. -/
theorem denoted_zeros_behind (ds : List Char) (n : Nat) {fraction : List Char}
    (h : digitsValue fraction = 0) :
    denoted (ds ++ List.replicate n '0') fraction = digitsValue ds * 10 ^ n := by
  rw [denoted, h, digitsValue_append, digitsValue_zeros, List.length_replicate]
  push_cast
  rw [add_zero, zero_div, add_zero]

/-- A point put among digits divides what they denote. -/
theorem denoted_cut (ds : List Char) (n : Nat) :
    denoted (ds.take n) (ds.drop n) = digitsValue ds * 10 ^ (-(ds.length - n : ℕ) : ℤ) := by
  rw [← value_digits, List.take_append_drop, List.length_drop]
  rfl

/-- A point and zeros put before digits divide what they denote further. -/
theorem denoted_zeros_before (ds : List Char) (n : Nat) :
    denoted ['0'] (List.replicate n '0' ++ ds) =
      digitsValue ds * 10 ^ (-(n + ds.length : ℕ) : ℤ) := by
  have spelled : digitsValue (['0'] ++ (List.replicate n '0' ++ ds)) = digitsValue ds := by
    rw [digitsValue_append, digitsValue_append, digitsValue_zeros]
    show 0 * _ + (0 * _ + _) = _
    rw [Nat.zero_mul, Nat.zero_mul, Nat.zero_add, Nat.zero_add]
  rw [← value_digits, spelled, List.length_append, List.length_replicate]
  rfl

end Numeral

/-! ## Natural numbers -/

namespace Layout

open Numeral

theorem isDigit_of_mem_natural {n : Nat} {c : Char} (h : c ∈ natural n) : c.isDigit = true :=
  Nat.isDigit_of_mem_toDigits (by decide) (by decide) h

/-- The digits of a number spell it. -/
theorem digitsValue_natural (n : Nat) : digitsValue (natural n) = n :=
  Nat.ofDigitChars_toDigits (by decide) (by decide)

theorem digitChar_ne_zero {n : Nat} (h : n ≠ 0) (small : n < 10) : n.digitChar ≠ '0' := by
  interval_cases n
  · exact absurd rfl h
  all_goals decide

/-- A number other than nought does not start with one. -/
theorem natural_eq_cons {n : Nat} (h : n ≠ 0) : ∃ c r, natural n = c :: r ∧ c ≠ '0' := by
  induction n using Nat.strong_induction_on with
  | _ n ih =>
    by_cases small : n < 10
    · exact ⟨n.digitChar, [], Nat.toDigits_of_lt_base small, digitChar_ne_zero h small⟩
    · -- the first digit is that of the number without its last one
      obtain ⟨c, r, hr, hc⟩ := ih (n / 10) (by omega) (by omega)
      have split : natural n = natural (n / 10) ++ [(n % 10).digitChar] :=
        Nat.toDigits_of_base_le (by decide) (by omega)
      refine ⟨c, r ++ [(n % 10).digitChar], ?_, hc⟩
      rw [split, hr]
      rfl

theorem isWhole_natural (n : Nat) : IsWhole (natural n) := by
  by_cases h : n = 0
  · subst h
    exact Or.inl rfl
  · obtain ⟨c, r, hr, hc⟩ := natural_eq_cons h
    rw [hr]
    refine isWhole_cons hc ?_
    intro x hx
    exact isDigit_of_mem_natural (hr ▸ hx)

/-! ## Decimals -/

/-- The power of ten that the leading digit of a decimal stands for. -/
def leading (d : Decimal) : Int := d.exponent + (natural d.digits).length - 1

section

variable {l : Layout} {d : Decimal} (hd : d.digits ≠ 0)

/-- What a text without an exponent has to be: a whole part and a fraction that denote the decimal.
The fraction is missing only where the layout lets whole numbers go without a point. -/
def IsPositional (l : Layout) (d : Decimal) (text : List Char) : Prop :=
  ∃ whole fraction, text = whole ++ pointed fraction ∧ IsWhole whole ∧
    (∀ c ∈ fraction, c.isDigit = true) ∧ denoted whole fraction = d.value ∧
    (l.keepsPoint = true → fraction ≠ [])

include hd

/-- Zeros may fill the places up to the point. -/
theorem isPositional_whole (h : 0 ≤ d.exponent) :
    IsPositional l d (natural d.digits ++ List.replicate d.exponent.toNat '0' ++
      (if l.keepsPoint then ['.', '0'] else [])) := by
  obtain ⟨c, r, hr, hc⟩ := natural_eq_cons hd
  have whole : IsWhole (natural d.digits ++ List.replicate d.exponent.toNat '0') := by
    have digits : ∀ x ∈ natural d.digits ++ List.replicate d.exponent.toNat '0',
        x.isDigit = true := by
      intro x hx
      rcases List.mem_append.mp hx with hx | hx
      · exact isDigit_of_mem_natural hx
      · exact isDigit_of_mem_zeros hx
    rw [hr] at digits ⊢
    exact isWhole_cons hc digits
  have value : ∀ fraction, digitsValue fraction = 0 →
      denoted (natural d.digits ++ List.replicate d.exponent.toNat '0') fraction = d.value := by
    intro fraction none
    rw [denoted_zeros_behind _ _ none, digitsValue_natural, Decimal.value, ← zpow_natCast,
      Int.toNat_of_nonneg h]
  by_cases point : l.keepsPoint = true
  · refine ⟨_, ['0'], ?_, whole, ?_, value ['0'] rfl, fun _ => List.cons_ne_nil _ _⟩
    · rw [if_pos point]
      rfl
    · intro x hx
      exact isDigit_of_mem_zeros (n := 1) hx
  · refine ⟨_, [], ?_, whole, fun c hc => absurd hc List.not_mem_nil, value [] rfl,
      fun h => absurd h point⟩
    rw [if_neg point]
    rfl

/-- The point may stand among the digits. -/
theorem isPositional_inside (part : d.exponent < 0) (h : 0 ≤ leading d) :
    IsPositional l d ((natural d.digits).take ((leading d).toNat + 1) ++
      '.' :: (natural d.digits).drop ((leading d).toNat + 1)) := by
  obtain ⟨c, r, hr, hc⟩ := natural_eq_cons hd
  unfold leading at h ⊢
  generalize hn : (d.exponent + (natural d.digits).length - 1).toNat = n
  have behind : (((natural d.digits).length - (n + 1) : ℕ) : ℤ) = -d.exponent := by omega
  have more : (natural d.digits).drop (n + 1) ≠ [] := by
    rw [ne_eq, List.drop_eq_nil_iff]
    omega
  refine ⟨(natural d.digits).take (n + 1), (natural d.digits).drop (n + 1), ?_, ?_, ?_, ?_,
    fun _ => more⟩
  · obtain ⟨x, s, hs⟩ := List.exists_cons_of_ne_nil more
    rw [hs]
    rfl
  · have digits : ∀ x ∈ (natural d.digits).take (n + 1), x.isDigit = true := by
      intro x hx
      exact isDigit_of_mem_natural (List.mem_of_mem_take hx)
    rw [hr] at digits ⊢
    exact isWhole_cons hc digits
  · intro x hx
    exact isDigit_of_mem_natural (List.mem_of_mem_drop hx)
  · rw [denoted_cut, digitsValue_natural, behind, neg_neg]
    rfl

omit hd in
/-- All digits may stand after the point, and zeros before them. -/
theorem isPositional_before (h : leading d < 0) :
    IsPositional l d ('0' :: '.' :: List.replicate (-leading d - 1).toNat '0' ++
      natural d.digits) := by
  unfold leading at h ⊢
  generalize hn : (-(d.exponent + (natural d.digits).length - 1) - 1).toNat = n
  have behind : ((n + (natural d.digits).length : ℕ) : ℤ) = -d.exponent := by omega
  have some : List.replicate n '0' ++ natural d.digits ≠ [] := by
    rw [ne_eq, List.append_eq_nil_iff, not_and_or]
    exact Or.inr (isWhole_natural d.digits).ne_nil
  refine ⟨['0'], List.replicate n '0' ++ natural d.digits, ?_, Or.inl rfl, ?_, ?_, fun _ => some⟩
  · obtain ⟨x, s, hs⟩ := List.exists_cons_of_ne_nil some
    rw [List.cons_append, List.cons_append, hs]
    rfl
  · intro x hx
    rcases List.mem_append.mp hx with hx | hx
    · exact isDigit_of_mem_zeros hx
    · exact isDigit_of_mem_natural hx
  · rw [denoted_zeros_before, digitsValue_natural, behind, neg_neg]
    rfl

/-- Without an exponent the text has a whole part and a fraction, wherever the point goes. -/
theorem decimal_positional (hl : l.positional (leading d) = true) :
    IsPositional l d (l.decimal d) := by
  show IsPositional l d (if l.positional (leading d) then _ else _)
  rw [if_pos hl]
  split
  · next h => exact isPositional_whole hd h
  · next part =>
    split
    · next h => exact isPositional_inside hd (not_le.mp part) h
    · next h => exact isPositional_before (not_le.mp h)

/-- With an exponent the text is a digit, a fraction if there are further digits, and the exponent
with its sign. -/
theorem decimal_exponential (hl : l.positional (leading d) = false) :
    ∃ c fraction, l.decimal d = c :: (pointed fraction ++ 'e' ::
        (if leading d < 0 then '-' else '+') :: natural (leading d).natAbs) ∧
      c ≠ '0' ∧ (∀ x ∈ c :: fraction, x.isDigit = true) ∧
      denoted [c] fraction * 10 ^ leading d = d.value := by
  obtain ⟨c, r, hr, hc⟩ := natural_eq_cons hd
  refine ⟨c, r, ?_, hc, ?_, ?_⟩
  · show (if l.positional (leading d) then _ else _) = _
    rw [if_neg (by rw [hl]; exact Bool.false_ne_true), hr]
    have lead : d.exponent + ((c :: r).length : ℤ) - 1 = leading d := by rw [leading, hr]
    rw [lead]
    show [c] ++ (if r.isEmpty then [] else '.' :: r) ++ _ = _
    cases r <;> rfl
  · intro x hx
    exact isDigit_of_mem_natural (hr ▸ hx)
  · have exponent : leading d - r.length = d.exponent := by
      rw [leading, hr, List.length_cons]
      push_cast
      ring
    have spelled : digitsValue ([c] ++ r) = d.digits := by
      rw [← digitsValue_natural d.digits, hr]
      rfl
    rw [← value_shifted, exponent, spelled]

/-- The last power of ten without an exponent, and the first with one. -/
example : wire.decimal ⟨1, 15⟩ = "1000000000000000.0".toList ∧
    wire.decimal ⟨1, 16⟩ = "1e+16".toList := by decide +kernel

end

end Layout

end ODataGateway
