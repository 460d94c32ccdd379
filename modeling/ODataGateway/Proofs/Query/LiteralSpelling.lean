/-
# ODataGateway.Proofs.Query.LiteralSpelling — which texts spell a literal.

`Literal.Spells` lists the three forms that a literal can have, each with what it stands for; for a
number this is the binary64 number nearest to the decimal that the text denotes.  Reading a literal
succeeds on just these texts and gives what they stand for (`read_eq_ok_iff`), so no text has two
of the forms or two meanings (`Spells.unique`).
-/
import ODataGateway.Proofs.Number.Nearest
import ODataGateway.Proofs.Query.Reading
import ODataGateway.Query.Filter

namespace ODataGateway

open Text (Halts halts_cons_iff takeWhile_run dropWhile_run)

/-! ## The forms -/

namespace Numeral

/-- The signs that a number may start with, and whether they make it negative. -/
def signs : List (List Char × Bool) := [([], false), (['+'], false), (['-'], true)]

/-- The text of a fraction: a point and its digits, or nothing if there are none. -/
def pointed : List Char → List Char
  | [] => []
  | ds => '.' :: ds

/-- The number that digits before and after a point denote. -/
def denoted (whole fraction : List Char) : ℚ :=
  digitsValue whole + digitsValue fraction / 10 ^ fraction.length

end Numeral

namespace Literal

/-- The text spells the literal. -/
inductive Spells : List Char → Literal → Prop
  /-- A text between single quotes that holds none; it stands for itself. -/
  | quoted {t : List Char} (noQuote : '\'' ∉ t) :
      Spells ('\'' :: t ++ ['\'']) (.text (String.ofList t))
  /-- A number `[+-]? d+ (. d+)?`; it stands for the nearest binary64 number of its sign. -/
  | number {sign whole fraction : List Char} {negative : Bool} {m : Magnitude}
      (signed : (sign, negative) ∈ Numeral.signs) (nonempty : whole ≠ [])
      (digits : ∀ c ∈ whole ++ fraction, c.isDigit = true)
      (nearest : m.IsNearest (Numeral.denoted whole fraction)) :
      Spells (sign ++ (whole ++ Numeral.pointed fraction)) (.number (.signed negative m))
  /-- A date `dddd-dd-dd`; it stands for itself. -/
  | date {year month day : List Char} (digits : ∀ c ∈ year ++ month ++ day, c.isDigit = true)
      (lengths : year.length = 4 ∧ month.length = 2 ∧ day.length = 2) :
      Spells (year ++ '-' :: month ++ '-' :: day)
        (.date (String.ofList (year ++ '-' :: month ++ '-' :: day)))

/-- The form of a literal that is a text. -/
def QuotedForm (t : List Char) : Prop := ∃ u, '\'' ∉ u ∧ t = '\'' :: u ++ ['\'']

/-- The form of a literal that is a number. -/
def NumberForm (t : List Char) : Prop :=
  ∃ sign whole fraction, (∃ negative, (sign, negative) ∈ Numeral.signs) ∧ whole ≠ [] ∧
    (∀ c ∈ whole ++ fraction, c.isDigit = true) ∧ t = sign ++ (whole ++ Numeral.pointed fraction)

/-- The form of a literal that is a date. -/
def DateForm (t : List Char) : Prop :=
  ∃ year month day, (∀ c ∈ year ++ month ++ day, c.isDigit = true) ∧
    (year.length = 4 ∧ month.length = 2 ∧ day.length = 2) ∧ t = year ++ '-' :: month ++ '-' :: day

end Literal

/-! ## Numbers -/

namespace Numeral

theorem readSign_spec (s : List Char) :
    ∃ sign, (sign, (readSign s).1) ∈ signs ∧ s = sign ++ (readSign s).2 := by
  unfold readSign
  split
  · exact ⟨['-'], by simp [signs], rfl⟩
  · exact ⟨['+'], by simp [signs], rfl⟩
  · exact ⟨[], by simp [signs], rfl⟩

/-- A sign is taken off whatever is no sign itself. -/
theorem readSign_append_of_ne {sign : List Char} {negative : Bool}
    (signed : (sign, negative) ∈ signs) {c : Char} (plus : c ≠ '+') (minus : c ≠ '-')
    (r : List Char) : readSign (sign ++ c :: r) = (negative, c :: r) := by
  simp only [signs, List.mem_cons, Prod.mk.injEq, List.not_mem_nil, or_false] at signed
  rcases signed with ⟨rfl, rfl⟩ | ⟨rfl, rfl⟩ | ⟨rfl, rfl⟩
  · rw [List.nil_append]
    unfold readSign
    split
    · next same => exact absurd (List.cons.inj same).1 minus
    · next same => exact absurd (List.cons.inj same).1 plus
    · rfl
  · rfl
  · rfl

theorem ne_sign_of_isDigit {c : Char} (digit : c.isDigit = true) : c ≠ '+' ∧ c ≠ '-' := by
  refine ⟨?_, ?_⟩ <;> rintro rfl <;> exact absurd digit (by decide)

theorem readSign_append {sign : List Char} {negative : Bool} (signed : (sign, negative) ∈ signs)
    {c : Char} (hc : c.isDigit = true) (r : List Char) :
    readSign (sign ++ c :: r) = (negative, c :: r) :=
  readSign_append_of_ne signed (ne_sign_of_isDigit hc).1 (ne_sign_of_isDigit hc).2 r

/-- The digits of a decimal with a point, read without the point. -/
theorem digitsValue_append (ds es : List Char) :
    digitsValue (ds ++ es) = digitsValue ds * 10 ^ es.length + digitsValue es := by
  -- the fold over the second part, started anywhere
  have shift : ∀ (es : List Char) (v : Nat),
      es.foldl (fun value c => 10 * value + (c.toNat - '0'.toNat)) v =
        v * 10 ^ es.length + digitsValue es := by
    intro es
    induction es with
    | nil => intro v; simp [digitsValue]
    | cons c es ih =>
      intro v
      rw [digitsValue, List.foldl_cons, List.foldl_cons, ih, ih, List.length_cons]
      ring
  rw [digitsValue, List.foldl_append, shift]
  rfl

theorem value_digits (whole fraction : List Char) :
    Decimal.value ⟨digitsValue (whole ++ fraction), -fraction.length⟩ = denoted whole fraction := by
  have hpos : (10 : ℚ) ^ fraction.length ≠ 0 := by positivity
  rw [Decimal.value, digitsValue_append, zpow_neg, zpow_natCast, denoted]
  push_cast
  rw [← div_eq_mul_inv, add_div, mul_div_cancel_right₀ _ hpos]

/-- Digits before and after a point, moved by a power of ten, as one decimal. -/
theorem value_shifted (whole fraction : List Char) (e : Int) :
    Decimal.value ⟨digitsValue (whole ++ fraction), e - fraction.length⟩ =
      denoted whole fraction * 10 ^ e := by
  rw [← value_digits, Decimal.value, Decimal.value, sub_eq_add_neg, zpow_add₀ (by norm_num)]
  ring

theorem halts_pointed (fraction : List Char) : Halts Char.isDigit (pointed fraction) := by
  cases fraction with
  | nil => exact Text.halts_nil
  | cons c r => exact halts_cons_iff.mpr (by decide)

end Numeral

namespace Literal

open Numeral

/-- What is read as a number is spelled as one. -/
theorem spelled_of_numeral? {s : List Char} {n : Numeral} (h : numeral? s = some n) :
    ∃ sign whole fraction, (sign, n.negative) ∈ signs ∧ whole ≠ [] ∧
      (∀ c ∈ whole ++ fraction, c.isDigit = true) ∧ s = sign ++ (whole ++ pointed fraction) ∧
      n.decimal = ⟨digitsValue (whole ++ fraction), -fraction.length⟩ := by
  obtain ⟨sign, signed, hs⟩ := readSign_spec s
  simp only [numeral?] at h
  generalize readSign s = r at h signed hs
  obtain ⟨negative, r⟩ := r
  have hr : r = r.takeWhile Char.isDigit ++ r.dropWhile Char.isDigit :=
    List.takeWhile_append_dropWhile.symm
  have digits : ∀ c ∈ r.takeWhile Char.isDigit, c.isDigit = true :=
    fun _ => List.mem_takeWhile_imp
  generalize r.takeWhile Char.isDigit = whole at h hr digits
  generalize r.dropWhile Char.isDigit = rest at h hr
  subst hr
  split at h
  · exact nomatch h
  · next nonempty =>
    rw [List.isEmpty_iff] at nonempty
    split at h
    · obtain rfl := Option.some.inj h
      exact ⟨sign, whole, [], signed, nonempty, by simpa using digits, hs, by simp⟩
    · next fraction =>
      split at h
      · next fractionDigits =>
        obtain rfl := Option.some.inj h
        simp only [Bool.and_eq_true, Bool.not_eq_true', List.isEmpty_eq_false_iff,
          List.all_eq_true] at fractionDigits
        obtain ⟨hne, hall⟩ := fractionDigits
        refine ⟨sign, whole, fraction, signed, nonempty, ?_, ?_, rfl⟩
        · exact fun c hc => (List.mem_append.mp hc).elim (digits c) (hall c)
        · cases fraction with
          | nil => exact absurd rfl hne
          | cons c r => exact hs
      · exact nomatch h
    · exact nomatch h

/-- What is spelled as a number is read as that number. -/
theorem numeral?_spelled {sign whole fraction : List Char} {negative : Bool}
    (signed : (sign, negative) ∈ signs) (nonempty : whole ≠ [])
    (digits : ∀ c ∈ whole ++ fraction, c.isDigit = true) :
    numeral? (sign ++ (whole ++ pointed fraction)) =
      some ⟨negative, digitsValue (whole ++ fraction), -fraction.length⟩ := by
  have hwhole : ∀ c ∈ whole, c.isDigit = true := fun c hc => digits c (List.mem_append_left _ hc)
  have hfraction : ∀ c ∈ fraction, c.isDigit = true := fun c hc =>
    digits c (List.mem_append_right _ hc)
  have hsign : readSign (sign ++ (whole ++ pointed fraction)) =
      (negative, whole ++ pointed fraction) := by
    cases whole with
    | nil => exact absurd rfl nonempty
    | cons c r => exact readSign_append signed (hwhole c (List.mem_cons_self ..)) _
  simp only [numeral?, hsign, takeWhile_run hwhole (halts_pointed fraction),
    dropWhile_run hwhole (halts_pointed fraction), List.isEmpty_iff, nonempty, if_false]
  cases fraction with
  | nil => simp [pointed]
  | cons c r =>
    have hall : (c :: r).all Char.isDigit = true := List.all_eq_true.mpr hfraction
    simp only [pointed, hall, List.isEmpty_cons, Bool.not_false, Bool.and_self, if_true]

/-! ## Dates -/

theorem isDate_iff {s : List Char} : isDate s = true ↔ DateForm s := by
  constructor
  · intro h
    unfold isDate at h
    split at h
    · next a b c d e f g i =>
      exact ⟨[a, b, c, d], [e, f], [g, i], List.all_eq_true.mp h, ⟨rfl, rfl, rfl⟩, rfl⟩
    · exact nomatch h
  · rintro ⟨year, month, day, digits, ⟨hy, hm, hd⟩, rfl⟩
    match year, hy, month, hm, day, hd with
    | [a, b, c, d], _, [e, f], _, [g, i], _ => exact List.all_eq_true.mpr digits

/-- A date is no number: there is a hyphen in it where a number has none. -/
theorem numeral?_date {year month day : List Char}
    (digits : ∀ c ∈ year ++ month ++ day, c.isDigit = true) (nonempty : year ≠ []) :
    numeral? (year ++ '-' :: month ++ '-' :: day) = none := by
  have hyear : ∀ c ∈ year, c.isDigit = true := fun c hc => digits c (by simp [hc])
  -- the digits of the year end at a hyphen, which is neither the end nor a point
  have halts : Halts Char.isDigit ('-' :: (month ++ '-' :: day)) := halts_cons_iff.mpr (by decide)
  have hsign : readSign (year ++ '-' :: (month ++ '-' :: day)) =
      (false, year ++ '-' :: (month ++ '-' :: day)) := by
    have unsigned : ([], false) ∈ signs := List.mem_cons_self ..
    cases year with
    | nil => exact absurd rfl nonempty
    | cons c r => exact readSign_append unsigned (hyear c (List.mem_cons_self ..)) _
  rw [List.append_assoc, List.cons_append]
  simp only [numeral?, hsign, takeWhile_run hyear halts, dropWhile_run hyear halts,
    List.isEmpty_iff, nonempty, if_false]
  rfl

/-! ## The ends of a literal -/

/-- A quotation starts with its quote, and what is none with a sign or a digit. -/
theorem Spells.head {s : List Char} {l : Literal} (h : Spells s l) :
    ∃ c r, s = c :: r ∧
      (c = '\'' ∧ (∃ t, l = .text t) ∨
        (c = '+' ∨ c = '-' ∨ c.isDigit = true) ∧ ∀ t, l ≠ .text t) := by
  cases h with
  | quoted => exact ⟨_, _, rfl, Or.inl ⟨rfl, _, rfl⟩⟩
  | @number sign whole fraction _ _ signed nonempty digits =>
    cases whole with
    | nil => exact absurd rfl nonempty
    | cons c r =>
      have hc : c.isDigit = true := digits c (by simp)
      simp only [signs, List.mem_cons, Prod.mk.injEq, List.not_mem_nil, or_false] at signed
      rcases signed with ⟨rfl, -⟩ | ⟨rfl, -⟩ | ⟨rfl, -⟩
      · exact ⟨_, _, rfl, Or.inr ⟨Or.inr (Or.inr hc), nofun⟩⟩
      · exact ⟨_, _, rfl, Or.inr ⟨Or.inl rfl, nofun⟩⟩
      · exact ⟨_, _, rfl, Or.inr ⟨Or.inr (Or.inl rfl), nofun⟩⟩
  | @date year _ _ digits lengths =>
    cases year with
    | nil => exact absurd lengths.1 (by decide)
    | cons c r =>
      have hc : c.isDigit = true := digits c (by simp)
      exact ⟨_, _, rfl, Or.inr ⟨Or.inr (Or.inr hc), nofun⟩⟩

/-- The last character is a quote or a digit. -/
theorem Spells.last {s : List Char} {l : Literal} (h : Spells s l) :
    ∃ r c, s = r ++ [c] ∧ (c = '\'' ∨ c.isDigit = true) := by
  cases h with
  | quoted => exact ⟨_, _, rfl, Or.inl rfl⟩
  | @number sign whole fraction _ _ _ nonempty digits =>
    rcases eq_or_ne fraction [] with rfl | hne
    · obtain ⟨r, c, rfl⟩ := List.eq_nil_or_concat' whole |>.resolve_left nonempty
      exact ⟨sign ++ r, c, by simp [pointed], Or.inr (digits c (by simp))⟩
    · obtain ⟨r, c, rfl⟩ := List.eq_nil_or_concat' fraction |>.resolve_left hne
      refine ⟨sign ++ (whole ++ '.' :: r), c, ?_, Or.inr (digits c (by simp))⟩
      cases r <;> simp [pointed]
  | @date year month day digits lengths =>
    have hne : day ≠ [] := by rintro rfl; exact absurd lengths.2.2 (by decide)
    obtain ⟨r, c, rfl⟩ := List.eq_nil_or_concat' day |>.resolve_left hne
    exact ⟨year ++ '-' :: month ++ '-' :: r, c, by simp, Or.inr (digits c (by simp))⟩

/-- A literal starts with no blank. -/
theorem Spells.halts_front {s : List Char} {l : Literal} (h : Spells s l) :
    Halts Text.isBlank s := by
  rcases h.head with ⟨c, r, rfl, ⟨rfl, -⟩ | ⟨rfl | rfl | digit, -⟩⟩
  · exact halts_cons_iff.mpr (by decide)
  · exact halts_cons_iff.mpr (by decide)
  · exact halts_cons_iff.mpr (by decide)
  · exact halts_cons_iff.mpr (Cursor.isBlank_of_isDigit digit)

/-- A literal ends with no blank. -/
theorem Spells.not_blank_last {s : List Char} {l : Literal} (h : Spells s l) :
    ∃ r c, s = r ++ [c] ∧ Text.isBlank c = false := by
  rcases h.last with ⟨r, c, rfl, rfl | digit⟩
  · exact ⟨r, '\'', rfl, by decide⟩
  · exact ⟨r, c, rfl, Cursor.isBlank_of_isDigit digit⟩

/-! ## All forms -/

/-- What is read as a literal without quotes is spelled as one, and the other way round. -/
theorem unquoted?_eq_some_iff {s : List Char} {l : Literal} :
    unquoted? s = some l ↔ Spells s l ∧ ∀ t, l ≠ .text t := by
  constructor
  · intro h
    unfold unquoted? at h
    split at h
    · next n hn =>
      obtain rfl := Option.some.inj h
      obtain ⟨sign, whole, fraction, signed, nonempty, digits, rfl, hvalue⟩ :=
        spelled_of_numeral? hn
      have nearest : n.decimal.magnitude.IsNearest (denoted whole fraction) := by
        rw [← value_digits, ← hvalue]
        exact n.decimal.isNearest_magnitude
      exact ⟨.number signed nonempty digits nearest, nofun⟩
    · split at h
      · next hdate =>
        obtain rfl := Option.some.inj h
        obtain ⟨year, month, day, digits, lengths, rfl⟩ := isDate_iff.mp hdate
        exact ⟨.date digits lengths, nofun⟩
      · exact nomatch h
  · rintro ⟨hs, plain⟩
    cases hs with
    | quoted => exact absurd rfl (plain _)
    | @number sign whole fraction negative m signed nonempty digits nearest =>
      have same : m = (Decimal.mk (digitsValue (whole ++ fraction)) (-fraction.length)).magnitude :=
        nearest.unique (value_digits whole fraction ▸ Decimal.isNearest_magnitude _)
      rw [unquoted?, numeral?_spelled signed nonempty digits, same]
      rfl
    | @date year month day digits lengths =>
      have hne : year ≠ [] := by rintro rfl; exact absurd lengths.1 (by decide)
      have hdate : isDate (year ++ '-' :: month ++ '-' :: day) = true :=
        isDate_iff.mpr ⟨year, month, day, digits, lengths, rfl⟩
      rw [unquoted?, numeral?_date digits hne]
      simp only [hdate, if_true]

/-- The quotations that a cursor reads are the spellings of texts. -/
theorem readQuoted_eq_some_iff_spells {c : Cursor} {t : String} :
    c.readQuoted.1 = some t ↔ Spells c.rest (.text t) := by
  rw [Cursor.readQuoted_eq_some_iff]
  constructor
  · rintro ⟨u, noQuote, hrest, rfl⟩
    rw [hrest]
    exact .quoted noQuote
  · intro h
    generalize c.rest = s at h
    cases h with
    | @quoted u noQuote => exact ⟨u, noQuote, rfl, rfl⟩

/-- Where a quotation is read nothing else is spelled. -/
theorem eq_text_of_spells {s : List Char} {l : Literal} {t : String} (h : Spells s l)
    (ht : Spells s (.text t)) : ∃ u, l = .text u := by
  rcases h.head with ⟨c, r, rfl, ⟨-, text⟩ | ⟨hc, -⟩⟩
  · exact text
  · rcases ht.head with ⟨c', r', same, ⟨quote, -⟩ | ⟨-, plain⟩⟩
    · obtain rfl : c = '\'' := (List.cons.inj same).1.trans quote
      exact absurd hc (by decide)
    · exact absurd rfl (plain t)

/-- Reading accepts the spellings of literals, and gives the literals that they spell. -/
theorem read_eq_ok_iff {c : Cursor} {l : Literal} : (read c).1 = .ok l ↔ Spells c.rest l := by
  cases hq : c.readQuoted with
  | mk q c' =>
    have quotation : ∀ t, q = some t ↔ Spells c.rest (.text t) := fun t => by
      rw [← readQuoted_eq_some_iff_spells, hq]
    cases q with
    | some t =>
      -- a quotation that can be read leaves no other form
      have spelled : Spells c.rest (.text t) := (quotation t).mp rfl
      rw [read, hq]
      constructor
      · intro h
        exact Except.ok.inj h ▸ spelled
      · intro h
        obtain ⟨u, rfl⟩ := eq_text_of_spells h spelled
        rw [Option.some.inj ((quotation u).mpr h)]
    | none =>
      have plain : Spells c.rest l → ∀ t, l ≠ .text t := by
        rintro h t rfl
        exact nomatch (quotation t).mpr h
      rw [← and_iff_left_of_imp plain, ← unquoted?_eq_some_iff, read, hq]
      cases unquoted? c.rest <;> simp

/-- No text spells two literals, be it in two forms or in one. -/
theorem Spells.unique {s : List Char} {l l' : Literal} (h : Spells s l) (h' : Spells s l') :
    l = l' := by
  have hr : (read ⟨[], s⟩).1 = .ok l := read_eq_ok_iff.mpr h
  rw [read_eq_ok_iff.mpr h'] at hr
  exact (Except.ok.inj hr).symm

/-! ## Forms and what is spelled -/

theorem spells_text_iff {s : List Char} : (∃ t, Spells s (.text t)) ↔ QuotedForm s := by
  constructor
  · rintro ⟨_, h⟩
    cases h with
    | @quoted u noQuote => exact ⟨u, noQuote, rfl⟩
  · rintro ⟨u, noQuote, rfl⟩
    exact ⟨_, .quoted noQuote⟩

/-- Every text of the form of a number spells one, since there always is a nearest one. -/
theorem spells_number_iff {s : List Char} : (∃ x, Spells s (.number x)) ↔ NumberForm s := by
  constructor
  · rintro ⟨_, h⟩
    cases h with
    | @number sign whole fraction negative m signed nonempty digits nearest =>
      exact ⟨sign, whole, fraction, ⟨negative, signed⟩, nonempty, digits, rfl⟩
  · rintro ⟨sign, whole, fraction, ⟨negative, signed⟩, nonempty, digits, rfl⟩
    exact ⟨_, .number signed nonempty digits
      (value_digits whole fraction ▸ Decimal.isNearest_magnitude _)⟩

theorem spells_date_iff {s : List Char} : (∃ t, Spells s (.date t)) ↔ DateForm s := by
  constructor
  · rintro ⟨_, h⟩
    cases h with
    | @date year month day digits lengths => exact ⟨year, month, day, digits, lengths, rfl⟩
  · rintro ⟨year, month, day, digits, lengths, rfl⟩
    exact ⟨_, .date digits lengths⟩

/-- The texts that spell a literal are those of the three forms. -/
theorem exists_spells_iff {s : List Char} :
    (∃ l, Spells s l) ↔ QuotedForm s ∨ NumberForm s ∨ DateForm s := by
  rw [← spells_text_iff, ← spells_number_iff, ← spells_date_iff]
  constructor
  · rintro ⟨l, h⟩
    cases l with
    | text t => exact Or.inl ⟨t, h⟩
    | number x => exact Or.inr (Or.inl ⟨x, h⟩)
    | date t => exact Or.inr (Or.inr ⟨t, h⟩)
  · rintro (⟨t, h⟩ | ⟨x, h⟩ | ⟨t, h⟩) <;> exact ⟨_, h⟩

/-- No text has two of the forms. -/
theorem forms_exclusive (s : List Char) :
    ¬ (QuotedForm s ∧ NumberForm s) ∧ ¬ (QuotedForm s ∧ DateForm s) ∧
      ¬ (NumberForm s ∧ DateForm s) := by
  rw [← spells_text_iff, ← spells_number_iff, ← spells_date_iff]
  refine ⟨?_, ?_, ?_⟩
  · rintro ⟨⟨t, h⟩, x, h'⟩
    exact nomatch h.unique h'
  · rintro ⟨⟨t, h⟩, u, h'⟩
    exact nomatch h.unique h'
  · rintro ⟨⟨x, h⟩, t, h'⟩
    exact nomatch h.unique h'

end Literal

end ODataGateway
