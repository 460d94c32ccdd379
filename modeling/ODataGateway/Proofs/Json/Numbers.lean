/-
# ODataGateway.Proofs.Json.Numbers — numbers are read back.

A reader of numbers finds a whole part, a fraction and an exponent, and the texts of integers and
floats are made of just these.  What tells the two apart is that a float always has a fraction or
an exponent, so an integer is read back as one (`takes_integer`) and a float as the float that it
is, the negative zero included (`takes_float`).
-/
import ODataGateway.Json.Basic
import ODataGateway.Proofs.Json.Taking
import ODataGateway.Proofs.Number.Laid
import ODataGateway.Proofs.Number.Spelled

namespace ODataGateway.Json

open Layout (leading natural)
open Numeral (IsWhole Power pointed digitsValue signs)
open Text (Halts halts_cons_iff takeWhile_run dropWhile_run)

/-! ## Parts -/

/-- No number goes on here. -/
def Ends (rest : List Char) : Prop :=
  Halts (fun c => c.isDigit || c = '.' || c = 'e' || c = 'E') rest

/-- The reader takes something that may be empty off the front of the text and leaves the rest. -/
def Leaves {α : Type} (piece : (s : List Char) → Option (α × Remainder s)) (s : List Char) (x : α)
    (rest : List Char) : Prop :=
  ∃ q : Remainder s, piece s = some (x, q) ∧ q.text = rest

section

variable {s t r rest whole fraction ds : List Char} {c : Char}

theorem Ends.halts_isDigit (h : Ends rest) : Halts Char.isDigit rest := by
  intro c hc
  have other := h c hc
  simp only [Bool.or_eq_false_iff] at other
  exact other.1.1.1

/-- A run of digits is read up to where it ends. -/
theorem takes_digits (nonempty : ds ≠ []) (digits : ∀ x ∈ ds, x.isDigit = true)
    (halts : Halts Char.isDigit rest) : Takes readDigits (ds ++ rest) ds rest := by
  cases ds with
  | nil => exact absurd rfl nonempty
  | cons c r =>
    have others : ∀ x ∈ r, x.isDigit = true := fun x hx => digits x (List.mem_cons_of_mem _ hx)
    have read : readDigits (c :: r ++ rest) =
        some (c :: (r ++ rest).takeWhile Char.isDigit,
          (Rest.tail c (r ++ rest)).transRemainder (afterDigits (r ++ rest))) :=
      if_pos (digits c (List.mem_cons_self ..))
    rw [takeWhile_run others halts] at read
    exact ⟨_, read, dropWhile_run others halts⟩

theorem takes_whole (h : IsWhole whole) (halts : Halts Char.isDigit rest) :
    Takes readWhole (whole ++ rest) whole rest := by
  rcases h with rfl | ⟨c, r, rfl, first, digits⟩
  · exact ⟨_, rfl, rfl⟩
  · obtain ⟨q, read, left⟩ := takes_digits (List.cons_ne_nil c r) digits halts
    refine ⟨q, ?_, left⟩
    rw [readWhole, read]
    rintro r' same
    exact first (List.cons.inj same).1

/-- Where no point is there is no fraction. -/
theorem leaves_fraction_none (h : Halts (fun c => c = '.') s) : Leaves readFraction s none s := by
  refine ⟨.whole s, ?_, rfl⟩
  rw [readFraction]
  rintro r rfl
  exact absurd (halts_cons_iff.mp h) (by decide)

theorem leaves_fraction_some (nonempty : fraction ≠ [])
    (digits : ∀ x ∈ fraction, x.isDigit = true) (halts : Halts Char.isDigit rest) :
    Leaves readFraction (pointed fraction ++ rest) (some fraction) rest := by
  obtain ⟨q, read, left⟩ := takes_digits nonempty digits halts
  cases fraction with
  | nil => exact absurd rfl nonempty
  | cons c r =>
    have step : readFraction ('.' :: (c :: r ++ rest)) =
        some (some (c :: r), .ofRest (q.behind '.')) := by
      rw [readFraction, read]
      rfl
    exact ⟨_, step, left⟩

/-- The digits of a power may stand behind a sign. -/
theorem takes_power {sign : List Char} {negative : Bool} (signed : (sign, negative) ∈ signs)
    (nonempty : ds ≠ []) (digits : ∀ x ∈ ds, x.isDigit = true) (halts : Halts Char.isDigit rest) :
    Takes readPower (sign ++ (ds ++ rest))
      (if negative then -(digitsValue ds : Int) else digitsValue ds) rest := by
  obtain ⟨q, read, left⟩ := takes_digits nonempty digits halts
  simp only [signs, List.mem_cons, Prod.mk.injEq, List.not_mem_nil, or_false] at signed
  rcases signed with ⟨rfl, rfl⟩ | ⟨rfl, rfl⟩ | ⟨rfl, rfl⟩
  · obtain ⟨c, r, rfl⟩ := List.exists_cons_of_ne_nil nonempty
    obtain ⟨plus, minus⟩ := Numeral.ne_sign_of_isDigit (digits c (List.mem_cons_self ..))
    have unsigned : readSign (c :: r ++ rest) = (false, .whole (c :: r ++ rest)) := by
      rw [List.cons_append, readSign]
      · rintro t same
        exact minus (List.cons.inj same).1
      · rintro t same
        exact plus (List.cons.inj same).1
    have step : readPower (c :: r ++ rest) =
        (readDigits (c :: r ++ rest)).bind fun p => some ((digitsValue p.1 : Int), p.2) := by
      unfold readPower
      rw [unsigned]
      rfl
    rw [read] at step
    exact ⟨_, step, left⟩
  · have step : readPower ('+' :: (ds ++ rest)) =
        (readDigits (ds ++ rest)).bind fun p =>
          some ((digitsValue p.1 : Int), p.2.behind '+') := rfl
    rw [read] at step
    exact ⟨_, step, left⟩
  · have step : readPower ('-' :: (ds ++ rest)) =
        (readDigits (ds ++ rest)).bind fun p =>
          some (-(digitsValue p.1 : Int), p.2.behind '-') := rfl
    rw [read] at step
    exact ⟨_, step, left⟩

section

variable {power : List Char} {e : Int}

/-- What follows digits is neither a digit nor a point. -/
theorem halts_power (exponent : Power power e) (ends : Ends rest) :
    Halts (fun c => c.isDigit || c = '.') (power ++ rest) := by
  cases exponent with
  | none =>
    intro c hc
    have other := ends c hc
    simp only [Bool.or_eq_false_iff] at other ⊢
    exact other.1.1
  | marked mark => rcases mark with rfl | rfl <;> exact halts_cons_iff.mpr (by decide)

/-- An exponent is read, and so is its absence. -/
theorem leaves_exponent (exponent : Power power e) (ends : Ends rest) :
    Leaves readExponent (power ++ rest) (if power = [] then none else some e) rest := by
  cases exponent with
  | none =>
    cases rest with
    | nil => exact ⟨_, rfl, rfl⟩
    | cons c r =>
      have noMark : ¬ (c = 'e' || c = 'E') = true := by
        intro mark
        rw [Bool.or_eq_true, decide_eq_true_eq, decide_eq_true_eq] at mark
        rcases mark with rfl | rfl
        · exact absurd (halts_cons_iff.mp ends) (by decide)
        · exact absurd (halts_cons_iff.mp ends) (by decide)
      exact ⟨.whole (c :: r), if_neg noMark, rfl⟩
  | @marked mark sign ds negative mark_eq signed nonempty digits =>
    obtain ⟨q, read, left⟩ := takes_power signed nonempty digits ends.halts_isDigit
    have marked : (mark = 'e' || mark = 'E') = true := by
      rwa [Bool.or_eq_true, decide_eq_true_eq, decide_eq_true_eq]
    have step : readExponent (mark :: (sign ++ (ds ++ rest))) =
        some (some (if negative then -(digitsValue ds : Int) else digitsValue ds),
          .ofRest (q.behind mark)) := by
      rw [readExponent, if_pos marked, read]
      rfl
    rw [if_neg (List.cons_ne_nil _ _), List.cons_append, List.append_assoc]
    exact ⟨_, step, left⟩

end

/-! ## Numbers from their parts -/

section

variable {negative : Bool} {part : Option (List Char)} {power : Option Int}
  {result : Option Json}

/-- A number is read part by part. -/
theorem finds_unsigned (hwhole : Takes readWhole s whole r) (hpart : Leaves readFraction r part t)
    (hpower : Leaves readExponent t power rest) :
    Finds (readUnsigned negative) s (ofParts? negative whole part power) rest := by
  obtain ⟨q, readWhole, rfl⟩ := hwhole
  obtain ⟨q', readPart, rfl⟩ := hpart
  obtain ⟨q'', readPower, rfl⟩ := hpower
  refine ⟨q.transRemainder (q'.trans q''), ?_, rfl⟩
  simp only [readUnsigned, readWhole, readPart, readPower, Option.bind_eq_bind, Option.bind_some]
  cases ofParts? negative whole part power <;> rfl

/-- A minus makes a number negative, and a number without one starts with a digit. -/
theorem finds_signed (h : Finds (readUnsigned negative) (c :: s) result rest)
    (digit : c.isDigit = true) :
    Finds readNumber ((if negative then ['-'] else []) ++ c :: s) result rest := by
  obtain ⟨q, read, left⟩ := h
  cases negative with
  | true =>
    have step : readNumber ('-' :: c :: s) = result.map fun v => (v, q.behind '-') := by
      rw [readNumber, read, Option.map_map]
      rfl
    exact ⟨_, step, left⟩
  | false =>
    have step : readNumber (c :: s) = result.map fun v => (v, q) := by
      rw [readNumber, read]
      rintro r same
      rw [(List.cons.inj same).1] at digit
      exact absurd digit (by decide)
    exact ⟨_, step, left⟩

/-- The parts of a number are found again, and what they make is the result. -/
theorem finds_parts {power : List Char} {e : Int} (hwhole : IsWhole whole)
    (digits : ∀ x ∈ fraction, x.isDigit = true) (exponent : Power power e) (ends : Ends rest) :
    Finds readNumber
      ((if negative then ['-'] else []) ++ (whole ++ (pointed fraction ++ power)) ++ rest)
      (ofParts? negative whole (if fraction = [] then none else some fraction)
        (if power = [] then none else some e)) rest := by
  -- the whole part ends where no digit follows, and the fraction is looked for by its point
  have behind := halts_power exponent ends
  have noDigit : Halts Char.isDigit (power ++ rest) := by
    intro c hc
    exact (Bool.or_eq_false_iff.mp (behind c hc)).1
  have noPoint : Halts (fun c => c = '.') (power ++ rest) := by
    intro c hc
    exact (Bool.or_eq_false_iff.mp (behind c hc)).2
  have wholeEnds : Halts Char.isDigit (pointed fraction ++ (power ++ rest)) := by
    cases fraction with
    | nil => exact noDigit
    | cons c r => exact halts_cons_iff.mpr (by decide)
  have part : Leaves readFraction (pointed fraction ++ (power ++ rest))
      (if fraction = [] then none else some fraction) (power ++ rest) := by
    by_cases none : fraction = []
    · rw [if_pos none, none]
      exact leaves_fraction_none noPoint
    · rw [if_neg none]
      exact leaves_fraction_some none digits noDigit
  have unsigned : Finds (readUnsigned negative) (whole ++ (pointed fraction ++ (power ++ rest)))
      (ofParts? negative whole (if fraction = [] then none else some fraction)
        (if power = [] then none else some e)) rest :=
    finds_unsigned (takes_whole hwhole wholeEnds) part (leaves_exponent exponent ends)
  obtain ⟨c, w, rfl⟩ := List.exists_cons_of_ne_nil hwhole.ne_nil
  have signed := finds_signed unsigned (hwhole.isDigit c (List.mem_cons_self ..))
  rw [List.append_assoc, List.append_assoc, List.append_assoc]
  exact signed

end

end

/-! ## Numbers as they are written -/

/-- The text of an exponent as it is written, if there is one. -/
def powerText : Option Int → List Char
  | none => []
  | some e => 'e' :: (if e < 0 then '-' else '+') :: natural e.natAbs

/-- The text of a number as it is written, in the parts that its reader looks for. -/
def numberText (negative : Bool) (whole fraction : List Char) (power : Option Int) : List Char :=
  (if negative then ['-'] else []) ++ (whole ++ (pointed fraction ++ powerText power))

/-- The exponents that are written are exponents. -/
theorem power_powerText (power : Option Int) : Power (powerText power) (power.getD 0) := by
  cases power with
  | none => exact .none
  | some e =>
    have signed : ((if e < 0 then ['-'] else ['+']), decide (e < 0)) ∈ signs := by
      by_cases negative : e < 0 <;> simp [negative, signs]
    have marked := Power.marked (Or.inl rfl : 'e' = 'e' ∨ 'e' = 'E') signed
      (Layout.isWhole_natural e.natAbs).ne_nil fun x hx => Layout.isDigit_of_mem_natural hx
    have value : (if decide (e < 0) then -(digitsValue (natural e.natAbs) : Int)
        else digitsValue (natural e.natAbs)) = e := by
      rw [Layout.digitsValue_natural]
      split <;> simp only [decide_eq_true_eq] at * <;> omega
    have text : powerText (some e) =
        'e' :: ((if e < 0 then ['-'] else ['+']) ++ natural e.natAbs) := by
      rw [powerText]
      split <;> rfl
    rw [text]
    rwa [value] at marked

/-- A written number is read as what its parts make. -/
theorem takes_number {negative : Bool} {whole fraction rest : List Char} {power : Option Int}
    {v : Json} (hwhole : IsWhole whole) (digits : ∀ x ∈ fraction, x.isDigit = true)
    (ends : Ends rest)
    (value : ofParts? negative whole (if fraction = [] then none else some fraction) power =
      some v) :
    Takes readNumber (numberText negative whole fraction power ++ rest) v rest := by
  have part : (if powerText power = [] then none else some (power.getD 0)) = power := by
    cases power <;> rfl
  have found : Finds readNumber (numberText negative whole fraction power ++ rest)
      (ofParts? negative whole (if fraction = [] then none else some fraction)
        (if powerText power = [] then none else some (power.getD 0))) rest :=
    finds_parts hwhole digits (power_powerText power) ends
  rw [part, value] at found
  exact found.takes

/-! ## Integers -/

/-- A number within 64 bits is an integer, if it has neither fraction nor exponent. -/
theorem ofInteger?_natAbs {i : Int} (low : -0x8000000000000000 ≤ i)
    (high : i ≤ 0xFFFFFFFFFFFFFFFF) : ofInteger? (i < 0) i.natAbs = some (.integer i) := by
  by_cases negative : i < 0
  · have fits : (decide (i.natAbs ≠ 0) && decide (i.natAbs ≤ 0x8000000000000000)) = true := by
      rw [Bool.and_eq_true, decide_eq_true_eq, decide_eq_true_eq]
      omega
    have value : -(i.natAbs : Int) = i := by omega
    simp only [ofInteger?, negative, decide_true, if_true, fits, value]
  · have fits : i.natAbs ≤ 0xFFFFFFFFFFFFFFFF := by omega
    have value : (i.natAbs : Int) = i := by omega
    simp only [ofInteger?, negative, decide_false, Bool.false_eq_true, if_false, fits, decide_true,
      if_true, value]

theorem numberText_integer (i : Int) :
    Layout.integer i = numberText (i < 0) (natural i.natAbs) [] none := by
  have text : numberText (i < 0) (natural i.natAbs) [] none =
      (if (decide (i < 0)) = true then ['-'] else []) ++ (natural i.natAbs ++ []) := rfl
  rw [text, List.append_nil]
  by_cases negative : i < 0 <;> simp [Layout.integer, negative]

/-- An integer is read back. -/
theorem takes_integer {i : Int} {rest : List Char} (low : -0x8000000000000000 ≤ i)
    (high : i ≤ 0xFFFFFFFFFFFFFFFF) (ends : Ends rest) :
    Takes readNumber (Layout.integer i ++ rest) (.integer i) rest := by
  rw [numberText_integer]
  refine takes_number (Layout.isWhole_natural _) nofun ends ?_
  rw [if_pos rfl, ofParts?, Layout.digitsValue_natural]
  exact ofInteger?_natAbs low high

/-! ## Floats -/

/-- The text of a float has a fraction or an exponent, and what it denotes is rounded to the
float. -/
theorem numberText_float (x : Binary64.Finite) :
    ∃ whole fraction power, Layout.wire.number x = numberText x.negative whole fraction power ∧
      IsWhole whole ∧ (∀ c ∈ fraction, c.isDigit = true) ∧ (fraction ≠ [] ∨ power ≠ none) ∧
      (Decimal.mk (digitsValue (whole ++ fraction)) (power.getD 0 - fraction.length)).magnitude =
        x.magnitude := by
  have sign : ∀ text, Layout.wire.magnitude x.magnitude = text →
      Layout.wire.number x = (if x.negative then ['-'] else []) ++ text := by
    rintro text rfl
    rfl
  -- nought has a text of its own; other sizes are laid out with or without an exponent
  by_cases zero : x.magnitude.place = 0
  · refine ⟨['0'], ['0'], none, sign _ (if_pos zero), Or.inl rfl, ?_, Or.inl nofun, ?_⟩
    · exact List.all_eq_true.mp (by decide)
    · rw [Magnitude.eq_zero_of_place zero]
      exact Decimal.magnitude_of_digits_eq_zero rfl
  · have digits := Magnitude.digits_shortest_ne_zero zero Layout.wire.tie
    have laid : Layout.wire.magnitude x.magnitude =
        Layout.wire.decimal (x.magnitude.shortest Layout.wire.tie) := if_neg zero
    have rounds := x.magnitude.magnitude_shortest Layout.wire.tie
    generalize x.magnitude.shortest Layout.wire.tie = d at digits laid rounds
    cases layout : Layout.wire.positional (leading d) with
    | true =>
      obtain ⟨whole, fraction, text, hwhole, hfraction, denotes, point⟩ :=
        Layout.decimal_positional digits layout
      refine ⟨whole, fraction, none, sign _ ?_, hwhole, hfraction, Or.inl (point rfl), ?_⟩
      · rw [laid, text, powerText, List.append_nil]
      · rw [← rounds]
        apply Decimal.magnitude_congr
        rw [Numeral.value_shifted, denotes, Option.getD_none, zpow_zero, mul_one]
    | false =>
      obtain ⟨c, fraction, text, first, hdigits, denotes⟩ :=
        Layout.decimal_exponential digits layout
      have hfraction : ∀ x ∈ fraction, x.isDigit = true :=
        fun x hx => hdigits x (List.mem_cons_of_mem _ hx)
      have hwhole : IsWhole [c] := by
        refine Numeral.isWhole_cons first fun x hx => hdigits x ?_
        rw [List.mem_singleton.mp hx]
        exact List.mem_cons_self ..
      refine ⟨[c], fraction, some (leading d), sign _ ?_, hwhole, hfraction, Or.inr nofun, ?_⟩
      · rw [laid, text]
        rfl
      · rw [← rounds]
        apply Decimal.magnitude_congr
        rw [Numeral.value_shifted, Option.getD_some, denotes]

/-- What is rounded to a finite number is that number. -/
theorem ofNumeral?_finite {x : Binary64.Finite} {d : Decimal} (h : d.magnitude = x.magnitude) :
    ofNumeral? ⟨x.negative, d⟩ = some (.float x) := by
  have same : Binary64.ofNumeral ⟨x.negative, d⟩ = .ofFinite x := by
    rw [Binary64.ofNumeral, h]
    rfl
  rw [ofNumeral?, same, Binary64.finite?_ofFinite]
  rfl

/-- With a fraction or an exponent a number is a float. -/
theorem ofParts?_float {negative : Bool} {whole fraction : List Char} {power : Option Int}
    (h : fraction ≠ [] ∨ power ≠ none) :
    ofParts? negative whole (if fraction = [] then none else some fraction) power =
      ofNumeral? ⟨negative, digitsValue (whole ++ fraction), power.getD 0 - fraction.length⟩ := by
  by_cases none : fraction = []
  · obtain ⟨e, rfl⟩ := Option.ne_none_iff_exists'.mp (h.resolve_left (not_not.mpr none))
    rw [if_pos none, none]
    rfl
  · rw [if_neg none]
    cases power <;> rfl

/-- A float is read back. -/
theorem takes_float (x : Binary64.Finite) {rest : List Char} (ends : Ends rest) :
    Takes readNumber (Layout.wire.number x ++ rest) (.float x) rest := by
  obtain ⟨whole, fraction, power, text, hwhole, digits, parts, rounds⟩ := numberText_float x
  rw [text]
  refine takes_number hwhole digits ends ?_
  rw [ofParts?_float parts]
  exact ofNumeral?_finite rounds

end ODataGateway.Json
