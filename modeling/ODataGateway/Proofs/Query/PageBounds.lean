/-
# ODataGateway.Proofs.Query.PageBounds — the counts of pages follow the numbers that they denote.

A count is read by way of a binary64 number: the text is rounded, cut to its whole part and held
within 64 bits.  None of these steps turns the order of two texts around, and none of them changes a
natural number up to 2^53, so what is said of counts holds of the numbers that the texts denote
(`Numeral.Denotes`), however they are spelled (`Paging.bounds_exact`).
-/
import ODataGateway.Proofs.Number.Counts
import ODataGateway.Proofs.Plan.Degraded

namespace ODataGateway

/-! ## What a text denotes -/

/-- The text is a numeral with blanks around it, and this is the number that it denotes. -/
def Numeral.Denotes (s : String) (a : ℚ) : Prop :=
  ∃ negative q, Spells (Text.trim s.toList) negative q ∧ a = if negative then -q else q

namespace Numeral

variable {s : String} {a a' : ℚ}

/-- A text has one sign and one size. -/
theorem Spells.unique {t : List Char} {negative negative' : Bool} {q q' : ℚ}
    (h : Spells t negative q) (h' : Spells t negative' q') : negative = negative' ∧ q = q' := by
  obtain ⟨n, read, rfl, rfl⟩ := read?_of_spells h
  obtain ⟨n', read', rfl, rfl⟩ := read?_of_spells h'
  obtain rfl : n = n' := Option.some.inj (read.symm.trans read')
  exact ⟨rfl, rfl⟩

/-- A size is not negative. -/
theorem Spells.nonneg {t : List Char} {negative : Bool} {q : ℚ} (h : Spells t negative q) :
    0 ≤ q := by
  obtain ⟨n, -, -, rfl⟩ := read?_of_spells h
  exact n.decimal.value_nonneg

theorem Denotes.unique (h : Denotes s a) (h' : Denotes s a') : a = a' := by
  obtain ⟨negative, q, spelled, rfl⟩ := h
  obtain ⟨negative', q', spelled', rfl⟩ := h'
  obtain ⟨rfl, rfl⟩ := spelled.unique spelled'
  rfl

/-- Nothing is denoted by a blank text. -/
theorem Denotes.not_blank (h : Denotes s a) : Text.allBlank s = false := by
  obtain ⟨negative, q, spelled, -⟩ := h
  rw [Bool.eq_false_iff]
  intro blank
  rw [Text.allBlank_iff.mp blank] at spelled
  obtain ⟨n, read, -⟩ := read?_of_spells spelled
  have nothing : read? [] = none := rfl
  exact absurd (read.symm.trans nothing) (Option.some_ne_none n)

end Numeral

/-! ## Whole parts -/

namespace Binary64

open Magnitude

variable {m m' : Magnitude} {q : ℚ}

/-- Whole parts keep the order of magnitudes. -/
theorem wholeCount_mono (h : m.place ≤ m'.place) : wholeCount m ≤ wholeCount m' := by
  have units : m.units ≤ m'.units := unitsAt_strictMono.monotone h
  exact min_le_min_right maxCount (Nat.div_le_div_right units)

theorem wholeCount_le (m : Magnitude) : wholeCount m ≤ 2 ^ 64 - 1 := min_le_right _ maxCount

theorem wholeCount_of_units {n : Nat} (h : m.units = n * one) : wholeCount m = min n maxCount := by
  have pos : 0 < one := Nat.cast_pos.mp one_pos
  rw [wholeCount, h, Nat.mul_div_cancel n pos]

/-- A natural number up to 2^53 is its own whole part. -/
theorem wholeCount_nat {n : Nat} (h : m.IsNearest n) (small : n ≤ 2 ^ 53) : wholeCount m = n := by
  obtain ⟨m', units⟩ := exists_place_of_le small
  have limit : n ≤ maxCount := by
    unfold maxCount
    omega
  rw [h.unique (isNearest_of_units units), wholeCount_of_units units, min_eq_left limit]

/-- From 2^64 on the whole part is the greatest count. -/
theorem wholeCount_of_le (h : m.IsNearest q) (large : 2 ^ 64 ≤ q) : wholeCount m = 2 ^ 64 - 1 := by
  have inside : 1 * 2 ^ 64 ≤ 2 ^ 1024 := by
    rw [one_mul]
    exact pow_le_pow_right₀ one_le_two (by omega)
  obtain ⟨m', units⟩ := exists_units_scaled (by decide) inside
  have first : wholeCount m' = 2 ^ 64 - 1 := by
    rw [wholeCount_of_units units]
    decide
  have nearest : m'.IsNearest (2 ^ 64) := by
    have power : ((1 * 2 ^ 64 : ℕ) : ℚ) = 2 ^ 64 := by norm_num
    exact power ▸ isNearest_of_units units
  apply le_antisymm (wholeCount_le m)
  rw [← first]
  exact wholeCount_mono (nearest.place_mono h large)

/-! ## Counts -/

/-- The count that a number is cut to: 0 if it is not positive, else the whole part of what it
rounds to. -/
inductive CountOf : ℚ → Nat → Prop
  | notPositive {a : ℚ} (h : a ≤ 0) : CountOf a 0
  | rounded {a : ℚ} {m : Magnitude} (h : 0 ≤ a) (nearest : m.IsNearest a) :
      CountOf a (wholeCount m)

namespace CountOf

variable {a b : ℚ} {n n' : Nat}

theorem le_max (h : CountOf a n) : n ≤ 2 ^ 64 - 1 := by
  cases h with
  | notPositive => exact Nat.zero_le _
  | rounded _ nearest => exact wholeCount_le _

/-- A natural number up to 2^53 is kept. -/
theorem eq_nat {k : Nat} (h : CountOf k n) (small : k ≤ 2 ^ 53) : n = k := by
  cases h with
  | notPositive h =>
    have zero : k = 0 := Nat.le_zero.mp (by exact_mod_cast h)
    exact zero.symm
  | rounded _ nearest => exact wholeCount_nat nearest small

theorem eq_zero (h : CountOf a n) (notPositive : a ≤ 0) : n = 0 := by
  cases h with
  | notPositive => rfl
  | rounded nonneg nearest =>
    have zero : a = (0 : ℕ) := by
      rw [Nat.cast_zero]
      exact le_antisymm notPositive nonneg
    exact wholeCount_nat (zero ▸ nearest) (Nat.zero_le _)

/-- From 2^64 on the count is the greatest one. -/
theorem eq_max (h : CountOf a n) (large : 2 ^ 64 ≤ a) : n = 2 ^ 64 - 1 := by
  cases h with
  | notPositive h => norm_num at large; linarith
  | rounded _ nearest => exact wholeCount_of_le nearest large

/-- Counts keep the order of numbers. -/
theorem mono (h : CountOf a n) (h' : CountOf b n') (hle : a ≤ b) : n ≤ n' := by
  cases h' with
  | notPositive notPositive => exact (h.eq_zero (hle.trans notPositive)).le
  | rounded _ nearest' =>
    cases h with
    | notPositive => exact Nat.zero_le _
    | rounded _ nearest => exact wholeCount_mono (nearest.place_mono nearest' hle)

end CountOf

/-- The count in a text is that of the number which the text denotes. -/
theorem count?_of_denotes {s : String} {a : ℚ} (h : Numeral.Denotes s a) :
    ∃ n, (ofText s).count? = some n ∧ CountOf a n := by
  obtain ⟨negative, q, spelled, rfl⟩ := h
  obtain ⟨m, read, nearest⟩ := ofText_of_spells spelled
  rw [read]
  cases negative with
  | true => exact ⟨0, rfl, .notPositive (neg_nonpos.mpr spelled.nonneg)⟩
  | false => exact ⟨wholeCount m, rfl, .rounded spelled.nonneg nearest⟩

/-- A text that is not blank is a number just if it denotes one. -/
theorem ofText_eq_nan_iff {s : String} (given : Text.allBlank s = false) :
    ofText s = nan ↔ ¬ ∃ a, Numeral.Denotes s a := by
  constructor
  · rintro unread ⟨a, negative, q, spelled, -⟩
    obtain ⟨m, read, -⟩ := ofText_of_spells spelled
    exact absurd (read.symm.trans unread) Binary64.noConfusion
  · intro nothing
    by_contra number
    rcases form_of_ofText_ne_nan number with blank | ⟨negative, q, spelled⟩
    · exact absurd (given.symm.trans (Text.allBlank_iff.mpr blank)) Bool.false_ne_true
    · exact nothing ⟨_, negative, q, spelled, rfl⟩

end Binary64

/-! ## Bounds of pages -/

namespace Paging

open Numeral (Denotes)

variable {s : String}

/-- Where a text denotes a number, both bounds are its count. -/
theorem bounds_of_denotes {a : ℚ} (h : Denotes s a) :
    ∃ n, skip (some s) = some n ∧ top (some s) = some n ∧ Binary64.CountOf a n := by
  obtain ⟨n, count, isCount⟩ := Binary64.count?_of_denotes h
  have number := number?_of_given h.not_blank
  refine ⟨n, ?_, ?_, isCount⟩
  · rw [skip, number, Option.map_some, count, Option.getD_some]
  · rw [top, number, Option.bind_some, count]

example : skip (some "2.9") = some 2 ∧ top (some "-1") = some 0 := by decide +kernel

/-- What the bounds of a page are.  An absent or blank text gives none, and a text that is not blank
and no number gives 0 to pass over and no limit.  Every other text denotes one number, whatever its
spelling, and gives one count for both: a natural number up to 2^53 is kept, 0 stands for all that
is not positive and 2^64 - 1 for all that is 2^64 or more, and the count of a text that denotes a
greater number is not smaller. -/
theorem bounds_exact (s : String) :
    (skip none = none ∧ top none = none) ∧
    (Text.allBlank s = true → skip (some s) = none ∧ top (some s) = none) ∧
    (Text.allBlank s = false → (Binary64.ofText s = .nan ↔ ¬ ∃ a, Denotes s a) ∧
      (Binary64.ofText s = .nan → skip (some s) = some 0 ∧ top (some s) = none)) ∧
    ∀ a, Denotes s a → Text.allBlank s = false ∧ (∀ a', Denotes s a' → a' = a) ∧
      ∃ n ≤ 2 ^ 64 - 1, skip (some s) = some n ∧ top (some s) = some n ∧
        (∀ k : Nat, k ≤ 2 ^ 53 → a = k → n = k) ∧ (a ≤ 0 → n = 0) ∧
        (2 ^ 64 ≤ a → n = 2 ^ 64 - 1) ∧
        ∀ s' b, Denotes s' b → a ≤ b →
          ∃ n', skip (some s') = some n' ∧ top (some s') = some n' ∧ n ≤ n' := by
  refine ⟨⟨rfl, rfl⟩, ?_, ?_, ?_⟩
  · intro blank
    rw [skip, top, number?_of_allBlank blank]
    exact ⟨rfl, rfl⟩
  · intro given
    refine ⟨Binary64.ofText_eq_nan_iff given, fun unread => ?_⟩
    rw [skip, top, number?_of_given given, unread]
    exact ⟨rfl, rfl⟩
  · intro a h
    obtain ⟨n, skipped, limited, count⟩ := bounds_of_denotes h
    refine ⟨h.not_blank, fun a' h' => h'.unique h, n, count.le_max, skipped, limited, ?_,
      count.eq_zero, count.eq_max, ?_⟩
    · rintro k small rfl
      exact count.eq_nat small
    · intro s' b h' hle
      obtain ⟨n', skipped', limited', count'⟩ := bounds_of_denotes h'
      exact ⟨n', skipped', limited', count.mono count' hle⟩

/-- Nine with a sign, noughts, a point and an exponent, a number beyond 64 bits, a word and a
blank. -/
theorem bounds_exact_spellings :
    (Denotes " +0090.0e-1" 9 ∧ skip (some " +0090.0e-1") = some 9 ∧
      top (some " +0090.0e-1") = some 9) ∧
    (Denotes "2e19" (2 * 10 ^ 19) ∧ top (some "2e19") = some (2 ^ 64 - 1)) ∧
    (Text.allBlank "ten" = false ∧ Binary64.ofText "ten" = .nan ∧ skip (some "ten") = some 0 ∧
      top (some "ten") = none) ∧
    Text.allBlank "\u2003" = true ∧ skip (some "\u2003") = none := by
  have nine : Denotes " +0090.0e-1" 9 := by
    have read : Numeral.read? (Text.trim " +0090.0e-1".toList) = some ⟨false, 900, -2⟩ := by decide
    refine ⟨false, _, Numeral.spells_of_read? read, ?_⟩
    norm_num [Decimal.value]
  have large : Denotes "2e19" (2 * 10 ^ 19) := by
    have read : Numeral.read? (Text.trim "2e19".toList) = some ⟨false, 2, 19⟩ := by decide
    refine ⟨false, _, Numeral.spells_of_read? read, ?_⟩
    norm_num [Decimal.value]
  have word : Text.allBlank "ten" = false ∧ Binary64.ofText "ten" = .nan := by decide +kernel
  have blank : Text.allBlank "\u2003" = true := by decide
  obtain ⟨-, -, n, -, skipped, limited, exact, -⟩ := (bounds_exact " +0090.0e-1").2.2.2 9 nine
  obtain rfl : n = 9 := exact 9 (by norm_num) (by norm_num)
  obtain ⟨-, -, n, -, -, limited', -, -, greatest, -⟩ := (bounds_exact "2e19").2.2.2 _ large
  obtain rfl : n = 2 ^ 64 - 1 := greatest (by norm_num)
  obtain ⟨skip_word, top_word⟩ := ((bounds_exact "ten").2.2.1 word.1).2 word.2
  exact ⟨⟨nine, skipped, limited⟩, ⟨large, limited'⟩, ⟨word.1, word.2, skip_word, top_word⟩,
    blank, ((bounds_exact "\u2003").2.1 blank).1⟩

end Paging

end ODataGateway
