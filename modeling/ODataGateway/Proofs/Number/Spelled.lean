/-
# ODataGateway.Proofs.Number.Spelled — which texts are read as numbers.

`Numeral.Spells` says how a numeral is written and which number it denotes: a sign, digits around a
point, and an exponent, where only digits are needed.  The texts of this form are just those that
`Numeral.read?` reads (`Numeral.spells_of_read?`, `Numeral.read?_of_spells`).  `Binary64.read?` knows
words for the infinities and for not-a-number as well, but each of them has a letter that no numeral
has, and `Binary64.ofText` stops there.  So the texts that it reads as numbers are the numerals,
between blanks, and the blank texts (`Binary64.ofText_exact`).
-/
import ODataGateway.Number.Binary64
import ODataGateway.Proofs.Query.LiteralSpelling
import ODataGateway.Proofs.Text.Runs

namespace ODataGateway

open Text (Halts halts_nil halts_cons_iff takeWhile_run dropWhile_run)

namespace Numeral

variable {s t : List Char} {c : Char} {negative : Bool} {q : ℚ} {e : Int}

/-! ## How numerals are written -/

/-- The text of a numeral between its sign and its exponent, `d+ (. d*)? | . d+`, and the number
that it denotes. -/
inductive Significand : List Char → ℚ → Prop
  | whole {ds : List Char} (nonempty : ds ≠ []) (digits : ∀ c ∈ ds, c.isDigit = true) :
      Significand ds (denoted ds [])
  | pointed {ds es : List Char} (nonempty : ds ≠ []) (digits : ∀ c ∈ ds ++ es, c.isDigit = true) :
      Significand (ds ++ '.' :: es) (denoted ds es)
  | bare {es : List Char} (nonempty : es ≠ []) (digits : ∀ c ∈ es, c.isDigit = true) :
      Significand ('.' :: es) (denoted [] es)

/-- The text of an exponent, `([eE] [+-]? d+)?`, and the power of ten that it denotes. -/
inductive Power : List Char → Int → Prop
  | none : Power [] 0
  | marked {mark : Char} {sign ds : List Char} {negative : Bool} (mark_eq : mark = 'e' ∨ mark = 'E')
      (signed : (sign, negative) ∈ signs) (nonempty : ds ≠ [])
      (digits : ∀ c ∈ ds, c.isDigit = true) :
      Power (mark :: (sign ++ ds)) (if negative then -(digitsValue ds : Int) else digitsValue ds)

/-- The text is a numeral with this sign and of this size. -/
inductive Spells : List Char → Bool → ℚ → Prop
  | mk {sign body power : List Char} {negative : Bool} {q : ℚ} {e : Int}
      (signed : (sign, negative) ∈ signs) (significand : Significand body q)
      (exponent : Power power e) : Spells (sign ++ (body ++ power)) negative (q * 10 ^ e)

/-- The text is a numeral. -/
def Form (t : List Char) : Prop := ∃ negative q, Spells t negative q

/-- Digits with a fraction behind a point, or with none. -/
theorem significand_pointed {whole fraction : List Char} (nonempty : whole ≠ [])
    (digits : ∀ c ∈ whole ++ fraction, c.isDigit = true) :
    Significand (whole ++ pointed fraction) (denoted whole fraction) := by
  cases fraction with
  | nil =>
    rw [List.append_nil] at digits
    rw [pointed, List.append_nil]
    exact .whole nonempty digits
  | cons c r => exact .pointed nonempty digits

/-! ## Exponents -/

/-- An exponent starts with its mark, so neither the digits nor the point before it go on. -/
theorem Power.halts (h : Power t e) : Halts Char.isDigit t := by
  cases h with
  | none => exact halts_nil
  | marked mark_eq => rcases mark_eq with rfl | rfl <;> exact halts_cons_iff.mpr (by decide)

theorem Power.readFraction (h : Power t e) : readFraction t = ([], t) := by
  cases h with
  | none => rfl
  | marked mark_eq => rcases mark_eq with rfl | rfl <;> rfl

/-- Reading accepts the exponents, and gives the powers that they denote. -/
theorem readExponent?_eq_some_iff : readExponent? t = some e ↔ Power t e := by
  constructor
  · intro h
    cases t with
    | nil =>
      obtain rfl : 0 = e := Option.some.inj h
      exact .none
    | cons mark r =>
      obtain ⟨sign, signed, hr⟩ := readSign_spec r
      simp only [readExponent?] at h
      generalize readSign r = read at h signed hr
      obtain ⟨negative, ds⟩ := read
      split at h
      · next given =>
        obtain rfl := Option.some.inj h
        simp only [Bool.and_eq_true, Bool.or_eq_true, decide_eq_true_eq, Bool.not_eq_true',
          List.isEmpty_eq_false_iff, List.all_eq_true] at given
        obtain ⟨⟨mark_eq, nonempty⟩, digits⟩ := given
        rw [hr]
        exact .marked mark_eq signed nonempty digits
      · exact absurd h.symm (Option.some_ne_none e)
  · intro h
    cases h with
    | none => rfl
    | @marked mark sign ds negative mark_eq signed nonempty digits =>
      have read : readSign (sign ++ ds) = (negative, ds) := by
        obtain ⟨d, r, rfl⟩ := List.exists_cons_of_ne_nil nonempty
        exact readSign_append signed (digits d (List.mem_cons_self ..)) r
      have given : ((mark = 'e' || mark = 'E') && !ds.isEmpty && ds.all Char.isDigit) = true := by
        simp only [Bool.and_eq_true, Bool.or_eq_true, decide_eq_true_eq, Bool.not_eq_true',
          List.isEmpty_eq_false_iff, List.all_eq_true]
        exact ⟨⟨mark_eq, nonempty⟩, digits⟩
      simp only [readExponent?, read, given, if_true]

/-! ## Numerals -/

/-- Digits, what is read as the fraction behind them, and what is left. -/
theorem significand_of_readFraction {whole rest fraction power : List Char}
    (digits : ∀ c ∈ whole, c.isDigit = true) (read : readFraction rest = (fraction, power))
    (nonempty : whole ≠ [] ∨ fraction ≠ []) :
    ∃ body, whole ++ rest = body ++ power ∧ Significand body (denoted whole fraction) := by
  unfold readFraction at read
  split at read
  · next r =>
    obtain ⟨hfraction, hpower⟩ := Prod.mk.inj read
    have hr : r = fraction ++ power := by
      rw [← hfraction, ← hpower, List.takeWhile_append_dropWhile]
    have digits' : ∀ c ∈ fraction, c.isDigit = true := by
      rw [← hfraction]
      exact fun _ => List.mem_takeWhile_imp
    rw [hr]
    rcases eq_or_ne whole [] with rfl | hwhole
    · exact ⟨'.' :: fraction, rfl, .bare (nonempty.resolve_left (absurd rfl)) digits'⟩
    · refine ⟨whole ++ '.' :: fraction, ?_, .pointed hwhole ?_⟩
      · rw [List.append_assoc, List.cons_append]
      · intro c hc
        exact (List.mem_append.mp hc).elim (digits c) (digits' c)
  · obtain ⟨rfl, rfl⟩ := Prod.mk.inj read
    exact ⟨whole, rfl, .whole (nonempty.resolve_right (absurd rfl)) digits⟩

/-- What is read as a numeral is written as one and denotes what was read. -/
theorem spells_of_read? {n : Numeral} (h : read? s = some n) :
    Spells s n.negative n.decimal.value := by
  obtain ⟨sign, signed, hs⟩ := readSign_spec s
  simp only [read?] at h
  generalize readSign s = read at h signed hs
  obtain ⟨negative, r⟩ := read
  have hr : r.takeWhile Char.isDigit ++ r.dropWhile Char.isDigit = r :=
    List.takeWhile_append_dropWhile
  have digits : ∀ c ∈ r.takeWhile Char.isDigit, c.isDigit = true :=
    fun _ => List.mem_takeWhile_imp
  generalize r.takeWhile Char.isDigit = whole at h hr digits
  generalize hread : readFraction (r.dropWhile Char.isDigit) = read at h
  obtain ⟨fraction, power⟩ := read
  split at h
  · exact absurd h.symm (Option.some_ne_none n)
  · next given =>
    obtain ⟨e, exponent, rfl⟩ := Option.map_eq_some_iff.mp h
    have nonempty : whole ≠ [] ∨ fraction ≠ [] := by
      rw [Bool.and_eq_true, List.isEmpty_iff, List.isEmpty_iff] at given
      exact not_and_or.mp given
    obtain ⟨body, hbody, significand⟩ := significand_of_readFraction digits hread nonempty
    rw [hs, ← hr, hbody, value_shifted]
    exact .mk signed significand (readExponent?_eq_some_iff.mp exponent)

/-- A numeral starts, behind its sign, with a digit or a point. -/
theorem Significand.head (h : Significand t q) : ∃ c r, t = c :: r ∧ c ≠ '+' ∧ c ≠ '-' := by
  cases h with
  | whole nonempty digits =>
    obtain ⟨c, r, rfl⟩ := List.exists_cons_of_ne_nil nonempty
    exact ⟨c, r, rfl, ne_sign_of_isDigit (digits c (List.mem_cons_self ..))⟩
  | pointed nonempty digits =>
    obtain ⟨c, r, rfl⟩ := List.exists_cons_of_ne_nil nonempty
    exact ⟨c, _, rfl, ne_sign_of_isDigit (digits c (List.mem_cons_self ..))⟩
  | bare => exact ⟨'.', _, rfl, by decide⟩

theorem readFraction_pointed {fraction power : List Char}
    (digits : ∀ c ∈ fraction, c.isDigit = true) (exponent : Power power e) :
    readFraction ('.' :: (fraction ++ power)) = (fraction, power) := by
  rw [readFraction, takeWhile_run digits exponent.halts, dropWhile_run digits exponent.halts]

/-- What stands before an exponent is cut at its point. -/
theorem Significand.parts {power : List Char} (h : Significand t q) (exponent : Power power e) :
    ∃ whole rest fraction, t ++ power = whole ++ rest ∧ (∀ c ∈ whole, c.isDigit = true) ∧
      Halts Char.isDigit rest ∧ readFraction rest = (fraction, power) ∧
      (whole ≠ [] ∨ fraction ≠ []) ∧ denoted whole fraction = q := by
  have point : ∀ s, Halts Char.isDigit ('.' :: s) := fun s => halts_cons_iff.mpr (by decide)
  cases h with
  | whole nonempty digits =>
    exact ⟨t, power, [], rfl, digits, exponent.halts, exponent.readFraction, Or.inl nonempty, rfl⟩
  | @pointed ds es nonempty digits =>
    have whole : ∀ c ∈ ds, c.isDigit = true := fun c hc => digits c (List.mem_append_left _ hc)
    have fraction : ∀ c ∈ es, c.isDigit = true := fun c hc => digits c (List.mem_append_right _ hc)
    refine ⟨ds, '.' :: (es ++ power), es, ?_, whole, point _, readFraction_pointed fraction exponent,
      Or.inl nonempty, rfl⟩
    rw [List.append_assoc, List.cons_append]
  | @bare es nonempty digits =>
    exact ⟨[], '.' :: (es ++ power), es, rfl, fun c hc => absurd hc List.not_mem_nil, point _,
      readFraction_pointed digits exponent, Or.inr nonempty, rfl⟩

/-- What is written as a numeral is read as one and denotes what is read. -/
theorem read?_of_spells (h : Spells s negative q) :
    ∃ n, read? s = some n ∧ n.negative = negative ∧ n.decimal.value = q := by
  cases h with
  | @mk sign body power _ q e signed significand exponent =>
    have unsigned : readSign (sign ++ (body ++ power)) = (negative, body ++ power) := by
      obtain ⟨c, r, rfl, plus, minus⟩ := significand.head
      exact readSign_append_of_ne signed plus minus _
    obtain ⟨whole, rest, fraction, hparts, digits, halts, read, nonempty, rfl⟩ :=
      significand.parts exponent
    have given : ¬ (whole.isEmpty && fraction.isEmpty) = true := by
      rw [Bool.and_eq_true, List.isEmpty_iff, List.isEmpty_iff]
      exact not_and_or.mpr nonempty
    refine ⟨⟨negative, digitsValue (whole ++ fraction), e - fraction.length⟩, ?_, rfl,
      value_shifted whole fraction e⟩
    rw [read?, unsigned, hparts]
    simp only [takeWhile_run digits halts, dropWhile_run digits halts, read, if_neg given,
      readExponent?_eq_some_iff.mpr exponent, Option.map_some]

/-! ## Characters of numerals -/

/-- The characters that a numeral may have besides digits. -/
def marks : List Char := ['+', '-', '.', 'e', 'E']

/-- Whether a character may stand in a numeral. -/
def Allowed (c : Char) : Prop := c.isDigit = true ∨ c ∈ marks

theorem allowed_of_mem_sign {sign : List Char} (signed : (sign, negative) ∈ signs) :
    ∀ c ∈ sign, Allowed c := by
  simp only [signs, List.mem_cons, Prod.mk.injEq, List.not_mem_nil, or_false] at signed
  rcases signed with ⟨rfl, -⟩ | ⟨rfl, -⟩ | ⟨rfl, -⟩ <;> simp [Allowed, marks]

theorem Significand.allowed (h : Significand t q) : ∀ c ∈ t, Allowed c := by
  have point : Allowed '.' := Or.inr (by decide)
  intro c hc
  cases h with
  | whole nonempty digits => exact Or.inl (digits c hc)
  | pointed nonempty digits =>
    rcases List.mem_append.mp hc with before | behind
    · exact Or.inl (digits c (List.mem_append_left _ before))
    · rcases List.mem_cons.mp behind with rfl | fraction
      · exact point
      · exact Or.inl (digits c (List.mem_append_right _ fraction))
  | bare nonempty digits =>
    rcases List.mem_cons.mp hc with rfl | fraction
    · exact point
    · exact Or.inl (digits c fraction)

theorem Power.allowed (h : Power t e) : ∀ c ∈ t, Allowed c := by
  intro c hc
  cases h with
  | none => exact absurd hc List.not_mem_nil
  | marked mark_eq signed nonempty digits =>
    rcases List.mem_cons.mp hc with rfl | behind
    · rcases mark_eq with rfl | rfl <;> exact Or.inr (by decide)
    · rcases List.mem_append.mp behind with sign | digit
      · exact allowed_of_mem_sign signed c sign
      · exact Or.inl (digits c digit)

/-- A numeral has no other characters. -/
theorem Spells.allowed (h : Spells s negative q) : ∀ c ∈ s, Allowed c := by
  intro c hc
  cases h with
  | mk signed significand exponent =>
    rcases List.mem_append.mp hc with sign | unsigned
    · exact allowed_of_mem_sign signed c sign
    · rcases List.mem_append.mp unsigned with body | power
      · exact significand.allowed c body
      · exact exponent.allowed c power

end Numeral

namespace Binary64

open Numeral (Spells Form Allowed signs)

variable {s : String} {t : List Char} {c : Char}

/-! ## Words for numbers -/

theorem isAlpha_of_isDigit (digit : c.isDigit = true) : c.isAlpha = false := by
  rw [Bool.eq_false_iff]
  intro letter
  -- letters start behind the digits
  have range : 48 ≤ c.toNat ∧ c.toNat ≤ 57 := Char.isDigit_iff_toNat.mp digit
  have ranges : ((65 ≤ c.val ∧ c.val ≤ 90 : Bool) || (97 ≤ c.val && c.val ≤ 122)) = true := letter
  simp only [Bool.or_eq_true, Bool.and_eq_true, decide_eq_true_eq,
    UInt32.le_iff_toNat_le] at ranges
  have beyond : 65 ≤ c.toNat := by
    rcases ranges with ⟨low, -⟩ | ⟨low, -⟩
    · exact low
    · exact le_trans (by decide) low
  omega

theorem isForeign_of_allowed (h : Allowed c) : isForeign c = false := by
  rcases h with digit | mark
  · rw [isForeign, isAlpha_of_isDigit digit]
    rfl
  · simp only [Numeral.marks, List.mem_cons, List.not_mem_nil, or_false] at mark
    rcases mark with rfl | rfl | rfl | rfl | rfl <;> decide

/-- The words for infinities and for not-a-number. -/
def words : List (List Char) := ["inf".toList, "infinity".toList, "nan".toList]

/-- The text is one of the words in letters of either case, with or without a sign. -/
def Word (t : List Char) : Prop :=
  ∃ sign negative word, (sign, negative) ∈ signs ∧ word.map Char.toLower ∈ words ∧ t = sign ++ word

theorem mem_words_iff {letters : List Char} :
    letters ∈ words ↔
      (letters = "inf".toList ∨ letters = "infinity".toList) ∨ letters = "nan".toList := by
  rw [words, List.mem_cons, List.mem_cons, List.mem_singleton, or_assoc]

/-- The words are what is read besides numerals. -/
theorem isSome_readWord?_iff : (readWord? t).isSome = true ↔ Word t := by
  have known : ∀ (negative : Bool) (letters : List Char),
      (if letters = "inf".toList ∨ letters = "infinity".toList then
        some (signed negative .infinite)
      else if letters = "nan".toList then some nan else none).isSome = true ↔ letters ∈ words := by
    intro negative letters
    rw [mem_words_iff]
    split
    · next infinite => exact iff_of_true rfl (Or.inl infinite)
    · next finite =>
      rw [or_iff_right finite]
      split
      · next same => exact iff_of_true rfl same
      · next other => exact iff_of_false Bool.false_ne_true other
  constructor
  · intro h
    obtain ⟨sign, signed, ht⟩ := Numeral.readSign_spec t
    exact ⟨sign, _, _, signed, (known _ _).mp h, ht⟩
  · rintro ⟨sign, negative, word, signed, hword, rfl⟩
    have read : Numeral.readSign (sign ++ word) = (negative, word) := by
      cases word with
      | nil => exact absurd hword (by decide)
      | cons c r =>
        have letter : c.toLower = 'i' ∨ c.toLower = 'n' := by
          rcases mem_words_iff.mp hword with (h | h) | h
          · exact Or.inl (List.cons.inj h).1
          · exact Or.inl (List.cons.inj h).1
          · exact Or.inr (List.cons.inj h).1
        apply Numeral.readSign_append_of_ne signed <;> rintro rfl <;>
          exact absurd letter (by decide)
    rw [readWord?, read]
    exact (known _ _).mpr hword

/-- Without the screen for letters numerals and words are read alike. -/
theorem isSome_read?_iff : (read? t).isSome = true ↔ Form t ∨ Word t := by
  unfold read?
  cases read : Numeral.read? t with
  | some n => exact iff_of_true rfl (Or.inl ⟨_, _, Numeral.spells_of_read? read⟩)
  | none =>
    have noNumeral : ¬ Form t := by
      rintro ⟨negative, q, h⟩
      obtain ⟨n, hn, -⟩ := Numeral.read?_of_spells h
      exact absurd (hn.symm.trans read) (Option.some_ne_none n)
    rw [or_iff_right noNumeral]
    exact isSome_readWord?_iff

theorem isForeign_of_toLower (h : c.toLower = 'n') : isForeign c = true := by
  have either : c = 'n' ∨ c = 'N' := by
    unfold Char.toLower at h
    split at h
    · right
      have capital : c.val + ('a'.val - 'A'.val) = 'N'.val + ('a'.val - 'A'.val) :=
        congrArg Char.val h
      exact Char.ext ((UInt32.add_left_inj _).mp capital)
    · exact Or.inl h
  rcases either with rfl | rfl <;> decide

/-- Each of the words has a letter that no numeral has. -/
theorem exists_foreign_of_word (h : Word t) : ∃ c ∈ t, isForeign c = true := by
  obtain ⟨sign, negative, word, -, hword, rfl⟩ := h
  have shared : ∀ w ∈ words, 'n' ∈ w := by decide
  obtain ⟨c, hc, lower⟩ := List.mem_map.mp (shared _ hword)
  exact ⟨c, List.mem_append_right _ hc, isForeign_of_toLower lower⟩

/-! ## Numbers in texts -/

theorem ofText_of_blank (h : Text.trim s.toList = []) : ofText s = zero := by
  unfold ofText
  rw [h]
  rfl

/-- A text with a letter that no numeral has is not read. -/
theorem ofText_of_foreign (h : ∃ c ∈ Text.trim s.toList, isForeign c = true) : ofText s = nan := by
  have given : (Text.trim s.toList).isEmpty = false := by
    obtain ⟨c, hc, -⟩ := h
    exact List.isEmpty_eq_false_iff.mpr (List.ne_nil_of_mem hc)
  have foreign : (Text.trim s.toList).any isForeign = true := List.any_eq_true.mpr h
  unfold ofText
  simp only [given, foreign, Bool.false_eq_true, if_false, if_true]

/-- A numeral between blanks is read as the number nearest to it. -/
theorem ofText_of_read? {n : Numeral} (h : Numeral.read? (Text.trim s.toList) = some n) :
    ofText s = ofNumeral n := by
  have given : (Text.trim s.toList).isEmpty = false := by
    rw [List.isEmpty_eq_false_iff]
    intro empty
    rw [empty] at h
    have nothing : Numeral.read? [] = none := rfl
    exact absurd (h.symm.trans nothing) (Option.some_ne_none n)
  have ownLetters : (Text.trim s.toList).any isForeign = false := by
    rw [List.any_eq_false]
    intro c hc
    rw [isForeign_of_allowed ((Numeral.spells_of_read? h).allowed c hc)]
    exact Bool.false_ne_true
  unfold ofText
  simp only [given, ownLetters, Bool.false_eq_true, if_false, read?, h, Option.getD_some]

theorem ofText_of_spells {negative : Bool} {q : ℚ} (h : Spells (Text.trim s.toList) negative q) :
    ∃ m, ofText s = signed negative m ∧ m.IsNearest q := by
  obtain ⟨n, read, rfl, rfl⟩ := Numeral.read?_of_spells h
  exact ⟨n.decimal.magnitude, ofText_of_read? read, n.decimal.isNearest_magnitude⟩

/-- Only blank texts and numerals are read as numbers: the words do not pass. -/
theorem form_of_ofText_ne_nan (h : ofText s ≠ nan) :
    Text.trim s.toList = [] ∨ Form (Text.trim s.toList) := by
  by_contra neither
  obtain ⟨given, unspelled⟩ := not_or.mp neither
  have ownLetters : ¬ ∃ c ∈ Text.trim s.toList, isForeign c = true :=
    fun foreign => h (ofText_of_foreign foreign)
  have unread : read? (Text.trim s.toList) = none := by
    rw [← Option.not_isSome_iff_eq_none, isSome_read?_iff]
    rintro (form | word)
    · exact unspelled form
    · exact ownLetters (exists_foreign_of_word word)
  apply h
  rw [← List.isEmpty_iff] at given
  rw [← List.any_eq_true] at ownLetters
  unfold ofText
  simp only [if_neg given, if_neg ownLetters, unread, Option.getD_none]

/-- A literal has no blanks at its ends. -/
theorem trim_of_literal {l : Literal} (h : Literal.Spells t l) : Text.trim t = t := by
  apply Text.trim_eq_self h.halts_front
  obtain ⟨r, c, rfl, hc⟩ := h.not_blank_last
  rw [List.reverse_append]
  exact halts_cons_iff.mpr hc

/-- The literals that are numbers are numerals without an exponent. -/
theorem spells_of_literal {x : Binary64} (h : Literal.Spells t (.number x)) :
    ∃ negative m q, x = signed negative m ∧ m.IsNearest q ∧ Spells t negative q := by
  cases h with
  | @number sign whole fraction negative m signed nonempty digits nearest =>
    refine ⟨negative, m, Numeral.denoted whole fraction, rfl, nearest, ?_⟩
    have spelled := Spells.mk signed (Numeral.significand_pointed nonempty digits) .none
    rwa [List.append_nil, zpow_zero, mul_one] at spelled

/-- What is read as a number, and as which one. Without its blanks at the ends such a text is empty,
which is zero, or a numeral, which is the number nearest to it with its sign: an infinity only where
the numeral is out of reach. So it has no characters but ASCII digits and the few marks of numerals.
The words for infinities and for not-a-number would be read besides numerals, but no text that is
one of them gets so far. And the literals of filters that are numbers are numerals of the same
value. -/
theorem ofText_exact (s : String) :
    (ofText s ≠ nan ↔ Text.trim s.toList = [] ∨ Form (Text.trim s.toList)) ∧
    (Text.trim s.toList = [] → ofText s = zero) ∧
    (∀ negative q, Spells (Text.trim s.toList) negative q →
      ∃ m, ofText s = signed negative m ∧ m.IsNearest q ∧
        (m = .infinite ↔ Magnitude.valueAt (Magnitude.lastPlace - 1) + 2 ^ 1024 ≤ 2 * q)) ∧
    (ofText s ≠ nan → ∀ c ∈ Text.trim s.toList, Allowed c) ∧
    ((read? (Text.trim s.toList)).isSome = true ↔
      Form (Text.trim s.toList) ∨ Word (Text.trim s.toList)) ∧
    (Word (Text.trim s.toList) → ofText s = nan) ∧
    (∀ (c : Cursor) (x : Binary64), c.rest = s.toList → (Literal.read c).1 = .ok (.number x) →
      x ≠ nan ∧ ofText s = x) := by
  have spelled : ∀ negative q, Spells (Text.trim s.toList) negative q → ofText s ≠ nan := by
    intro negative q h
    obtain ⟨m, hm, -⟩ := ofText_of_spells h
    rw [hm]
    exact Binary64.noConfusion
  refine ⟨⟨form_of_ofText_ne_nan, ?_⟩, ofText_of_blank, ?_, ?_, isSome_read?_iff, ?_, ?_⟩
  · rintro (blank | ⟨negative, q, h⟩)
    · rw [ofText_of_blank blank]
      exact Binary64.noConfusion
    · exact spelled negative q h
  · intro negative q h
    obtain ⟨m, hm, nearest⟩ := ofText_of_spells h
    exact ⟨m, hm, nearest, nearest.eq_infinite_iff⟩
  · intro number c hc
    rcases form_of_ofText_ne_nan number with blank | ⟨negative, q, h⟩
    · rw [blank] at hc
      exact absurd hc List.not_mem_nil
    · exact h.allowed c hc
  · intro word
    exact ofText_of_foreign (exists_foreign_of_word word)
  · intro c x rest read
    have literal : Literal.Spells s.toList (.number x) := rest ▸ Literal.read_eq_ok_iff.mp read
    obtain ⟨negative, m, q, rfl, nearest, numeral⟩ := spells_of_literal literal
    rw [← trim_of_literal literal] at numeral
    obtain ⟨m', hm', nearest'⟩ := ofText_of_spells numeral
    rw [hm', nearest'.unique nearest]
    exact ⟨Binary64.noConfusion, rfl⟩

/-- A numeral with an exponent between blanks, an infinity that is none, and a literal. -/
theorem ofText_exact_exponent :
    (Spells "-.5E+1".toList true 5 ∧ ∃ m, ofText " -.5E+1 " = signed true m ∧ m.IsNearest 5) ∧
    (Word "+INF".toList ∧ ofText "+INF" = nan) ∧
    ∃ x, (Literal.read (.start "007.50")).1 = .ok (.number x) ∧ ofText "007.50" = x := by
  refine ⟨?_, ?_, ofNumeral ⟨false, 750, -2⟩, rfl, ?_⟩
  · have trimmed : Text.trim " -.5E+1 ".toList = "-.5E+1".toList := by decide
    have read : Numeral.read? "-.5E+1".toList = some ⟨true, 5, 0⟩ := by decide
    have five : Decimal.value ⟨5, 0⟩ = 5 := by norm_num [Decimal.value]
    have spelled : Spells "-.5E+1".toList true 5 := five ▸ Numeral.spells_of_read? read
    obtain ⟨m, hm, nearest, -⟩ := (ofText_exact " -.5E+1 ").2.2.1 true 5 (trimmed ▸ spelled)
    exact ⟨spelled, m, hm, nearest⟩
  · have trimmed : Text.trim "+INF".toList = "+INF".toList := by decide
    have word : Word "+INF".toList := ⟨['+'], false, "INF".toList, by decide, by decide, rfl⟩
    exact ⟨word, (ofText_exact "+INF").2.2.2.2.2.1 (trimmed ▸ word)⟩
  · exact ((ofText_exact "007.50").2.2.2.2.2.2 (.start "007.50") _ rfl rfl).2

end Binary64

end ODataGateway
