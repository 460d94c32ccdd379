/-
# ODataGateway.Proofs.Json.NumberSpelling — numbers as the standard has them written.

`Json.SpellsNumber` is the grammar of numbers in JSON texts, with the number that a text denotes.
Such a text is a numeral, and it is read as a JSON value unless it overflows.  Short whole numbers
become exact integers and all others floats, but the number in the value is in either case the one
nearest to what the text denotes (`Json.SpellsNumber.of_read?`), and that is also the number which
the text gives as a string, whatever blanks stand around it (`Json.SpellsNumber.number_string`).
-/
import ODataGateway.Row
import ODataGateway.Proofs.Json.RoundTrip

namespace ODataGateway

open Numeral (IsWhole Power pointed denoted digitsValue signs)

/-! ## Numerals -/

namespace Numeral

variable {t : List Char} {c : Char}

/-- No character of a numeral is a blank. -/
theorem Allowed.isBlank (h : Allowed c) : Text.isBlank c = false := by
  rcases h with digit | mark
  · exact Cursor.isBlank_of_isDigit digit
  · simp only [marks, List.mem_cons, List.not_mem_nil, or_false] at mark
    rcases mark with rfl | rfl | rfl | rfl | rfl <;> decide

/-- Trimming takes away the blanks around a numeral and nothing else. -/
theorem Spells.trim_pad {negative : Bool} {q : ℚ} (h : Spells t negative q) {a b : List Char}
    (blanks : ∀ c ∈ a ++ b, Text.isBlank c = true) : Text.trim (a ++ t ++ b) = t := by
  have none : ∀ c ∈ t, Text.isBlank c = false := fun c hc => (h.allowed c hc).isBlank
  rw [Text.trim_pad (fun c hc => blanks c (List.mem_append_left _ hc))
    fun c hc => blanks c (List.mem_append_right _ hc)]
  apply Text.trim_eq_self (Text.halts_of_forall none)
  exact Text.halts_of_forall fun c hc => none c (List.mem_reverse.mp hc)

/-- What the parts of a numeral are rounded to. -/
theorem isNearest_parts (whole fraction : List Char) (e : Int) :
    (Decimal.mk (digitsValue (whole ++ fraction)) (e - fraction.length)).magnitude.IsNearest
      (denoted whole fraction * 10 ^ e) := by
  rw [← value_shifted]
  exact Decimal.isNearest_magnitude _

end Numeral

namespace Json

/-! ## The grammar -/

/-- The text is a number by the grammar of the standard, with this sign and of this size: a minus or
nothing, a whole part that starts with a nought only if it is nought, digits behind a point or
nothing, and an exponent or nothing. -/
inductive SpellsNumber : List Char → Bool → ℚ → Prop
  | mk {whole fraction power : List Char} {e : Int} (negative : Bool) (isWhole : IsWhole whole)
      (digits : ∀ c ∈ fraction, c.isDigit = true) (exponent : Power power e) :
      SpellsNumber ((if negative then ['-'] else []) ++ (whole ++ (pointed fraction ++ power)))
        negative (denoted whole fraction * 10 ^ e)

variable {t : List Char} {negative : Bool} {q : ℚ} {m : Magnitude}

/-- Numbers are numerals. -/
theorem SpellsNumber.spells (h : SpellsNumber t negative q) : Numeral.Spells t negative q := by
  cases h with
  | @mk whole fraction power e negative isWhole digits exponent =>
    have signed : ((if negative then ['-'] else []), negative) ∈ signs := by
      cases negative <;> simp [signs]
    have significand := Numeral.significand_pointed isWhole.ne_nil fun c hc =>
      (List.mem_append.mp hc).elim (isWhole.isDigit c) (digits c)
    rw [← List.append_assoc whole]
    exact .mk signed significand exponent

/-- What a number denotes has a nearest magnitude. -/
theorem SpellsNumber.exists_isNearest (h : SpellsNumber t negative q) :
    ∃ m : Magnitude, m.IsNearest q := by
  cases h with
  | @mk whole fraction power e => exact ⟨_, Numeral.isNearest_parts whole fraction e⟩

theorem SpellsNumber.ne_nil (h : SpellsNumber t negative q) : t ≠ [] := by
  cases h with
  | mk negative isWhole digits exponent =>
    intro empty
    exact isWhole.ne_nil (List.append_eq_nil_iff.mp (List.append_eq_nil_iff.mp empty).2).1

/-! ## What they are read as -/

/-- A value is a number, an integer or a float. -/
def IsNumber (v : Json) : Prop := (∃ i, v = .integer i) ∨ ∃ x, v = .float x

/-- What is read of a numeral: nothing if it overflows, and otherwise a number, which is the nearest
one. -/
inductive Reads (n : Numeral) : Option Json → Prop
  | overflow (beyond : n.decimal.magnitude = .infinite) : Reads n none
  | value {v : Json} (reached : n.decimal.magnitude ≠ .infinite) (isNumber : v.IsNumber)
      (number : v.number = .ofNumeral n) : Reads n (some v)

/-- With a fraction or an exponent a number is a float. -/
theorem reads_ofNumeral? (n : Numeral) : Reads n (ofNumeral? n) := by
  unfold ofNumeral?
  cases finite : (Binary64.ofNumeral n).finite? with
  | none => exact .overflow (Binary64.finite?_signed_eq_none_iff.mp finite)
  | some x =>
    have number : Binary64.ofNumeral n = .ofFinite x := Binary64.finite?_eq_some_iff.mp finite
    refine .value ?_ (Or.inr ⟨x, rfl⟩) number.symm
    intro beyond
    have none : (Binary64.ofNumeral n).finite? = none :=
      Binary64.finite?_signed_eq_none_iff.mpr beyond
    exact absurd (finite.symm.trans none) (Option.some_ne_none x)

/-- Whole numbers within 64 bits do not overflow. -/
theorem magnitude_ne_infinite {n : Nat} (h : n ≤ 0xFFFFFFFFFFFFFFFF) :
    (Decimal.mk n 0).magnitude ≠ .infinite := by
  intro beyond
  have middle := (Decimal.isNearest_magnitude ⟨n, 0⟩).eq_infinite_iff.mp beyond
  have low := Magnitude.valueAt_nonneg (Magnitude.lastPlace - 1)
  have value : Decimal.value ⟨n, 0⟩ = n := by rw [Decimal.value, zpow_zero, mul_one]
  have bound : (n : ℚ) ≤ 2 ^ 64 := by exact_mod_cast h.trans (by norm_num)
  have far : (2 : ℚ) * 2 ^ 64 < 2 ^ 1024 := by
    rw [← pow_succ']
    exact pow_lt_pow_right₀ one_lt_two (by norm_num)
  rw [value] at middle
  generalize (2 : ℚ) ^ 1024 = top at middle far
  linarith

/-- A whole number is an integer or a float, and is the same number as either. -/
theorem reads_ofInteger? (negative : Bool) (n : Nat) :
    Reads ⟨negative, n, 0⟩ (ofInteger? negative n) := by
  unfold ofInteger?
  extract_lets fits
  by_cases fit : fits = true
  · rw [if_pos fit]
    -- a negative integer is not nought, so its sign is that of the numeral
    cases negative with
    | true =>
      obtain ⟨positive, bound⟩ := Bool.and_eq_true_iff.mp fit
      have nonzero : n ≠ 0 := of_decide_eq_true positive
      have within : n ≤ 0x8000000000000000 := of_decide_eq_true bound
      have below : -(n : Int) < 0 := by omega
      refine .value (magnitude_ne_infinite (by omega)) (Or.inl ⟨_, rfl⟩) ?_
      show Binary64.ofInt _ = _
      simp only [if_true, Binary64.ofInt, Binary64.ofNumeral, below, decide_true, Int.natAbs_neg,
        Int.natAbs_natCast]
    | false =>
      have within : n ≤ 0xFFFFFFFFFFFFFFFF := of_decide_eq_true fit
      have above : ¬ (n : Int) < 0 := by omega
      refine .value (magnitude_ne_infinite within) (Or.inl ⟨_, rfl⟩) ?_
      show Binary64.ofInt _ = _
      simp only [Bool.false_eq_true, if_false, Binary64.ofInt, Binary64.ofNumeral, above,
        decide_false, Int.natAbs_natCast]
  · rw [if_neg fit]
    exact reads_ofNumeral? ⟨negative, n, 0⟩

/-- The parts of a number make what is read of its numeral. -/
theorem reads_ofParts? (negative : Bool) (whole fraction : List Char) {power : List Char} {e : Int}
    (exponent : Power power e) :
    Reads ⟨negative, digitsValue (whole ++ fraction), e - fraction.length⟩
      (ofParts? negative whole (if fraction = [] then none else some fraction)
        (if power = [] then none else some e)) := by
  by_cases plain : fraction = [] ∧ power = []
  · obtain ⟨rfl, rfl⟩ := plain
    cases exponent
    rw [List.append_nil]
    exact reads_ofInteger? negative (digitsValue whole)
  · have parts : fraction ≠ [] ∨ (if power = [] then none else some e) ≠ none := by
      rcases not_and_or.mp plain with given | given
      · exact Or.inl given
      · rw [if_neg given]
        exact Or.inr (Option.some_ne_none e)
    have denoted : (if power = [] then none else some e).getD 0 = e := by
      cases exponent <;> rfl
    rw [ofParts?_float parts, denoted]
    exact reads_ofNumeral? _

/-- A number of the grammar is found wherever it may stand, with what is read of its numeral as the
result. -/
theorem SpellsNumber.exists_finds (h : SpellsNumber t negative q) (nearest : m.IsNearest q) :
    ∃ n result, n.negative = negative ∧ n.decimal.magnitude = m ∧ Reads n result ∧
      ∀ d rest, Ends rest → Finds (readValue d) (t ++ rest) result rest := by
  cases h with
  | @mk whole fraction power e negative isWhole digits exponent =>
    refine ⟨_, _, rfl, ?_, reads_ofParts? negative whole fraction exponent, ?_⟩
    · exact (Numeral.isNearest_parts whole fraction e).unique nearest
    · intro d rest ends
      exact finds_value_of_number d (starts_parts isWhole _)
        (finds_parts isWhole digits exponent ends)

/-- A number is read unless it overflows.  The value has the nearest number in it. -/
theorem SpellsNumber.exists_read?_iff (h : SpellsNumber t negative q) (nearest : m.IsNearest q) :
    (∃ v, read? t = some v) ↔ m ≠ .infinite := by
  obtain ⟨n, result, -, rfl, reads, finds⟩ := h.exists_finds nearest
  have found := finds maxDepth [] Text.halts_nil
  rw [List.append_nil] at found
  cases reads with
  | overflow beyond =>
    refine iff_of_false ?_ (not_not.mpr beyond)
    intro given
    obtain ⟨v, read⟩ := given
    rw [read?, found.eq_none] at read
    cases read
  | value reached => exact iff_of_true ⟨_, read?_of_takes found.takes⟩ reached

/-- What a number is read as is taken wherever its text may stand, and has the nearest number in
it. -/
theorem SpellsNumber.of_read? (h : SpellsNumber t negative q) (nearest : m.IsNearest q) {v : Json}
    (read : read? t = some v) :
    v.IsNumber ∧ v.number = .signed negative m ∧
      ∀ d rest, Ends rest → Takes (readValue d) (t ++ rest) v rest := by
  have reached := (h.exists_read?_iff nearest).mp ⟨v, read⟩
  obtain ⟨n, result, rfl, rfl, reads, finds⟩ := h.exists_finds nearest
  cases reads with
  | overflow beyond => exact absurd beyond reached
  | @value w _ isNumber number =>
    have found := finds maxDepth [] Text.halts_nil
    rw [List.append_nil] at found
    obtain rfl := Option.some.inj ((read?_of_takes found.takes).symm.trans read)
    exact ⟨isNumber, number, fun d rest ends => (finds d rest ends).takes⟩

/-- The string of the same text gives the nearest number as well. -/
theorem SpellsNumber.number_string (h : SpellsNumber t negative q) (nearest : m.IsNearest q)
    {a b : List Char} (blanks : ∀ c ∈ a ++ b, Text.isBlank c = true) :
    (string (String.ofList (a ++ t ++ b))).number = .signed negative m := by
  have trimmed : Text.trim (String.ofList (a ++ t ++ b)).toList = t := by
    rw [String.toList_ofList, h.spells.trim_pad blanks]
  obtain ⟨m', number, nearest'⟩ := Binary64.ofText_of_spells (trimmed ▸ h.spells)
  rw [← nearest'.unique nearest]
  exact number

end Json

end ODataGateway
