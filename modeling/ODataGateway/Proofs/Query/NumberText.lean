/-
# ODataGateway.Proofs.Query.NumberText — filters made of the text of a number.

Every finite number is printed in a form that is a literal, and the literal is a number of the same
value (`Binary64.exists_spells_text`).  Two numbers are printed alike just if they are equal as
numbers (`Binary64.text_eq_text_iff`), so on numbers it makes no difference whether a filter
compares with the number or with its text.
-/
import ODataGateway.Proofs.Number.Laid
import ODataGateway.Proofs.Query.FilterGrammar

namespace ODataGateway

/-! ## Finite numbers by their value -/

namespace Magnitude

/-- Places with opposite signs meet at zero only, and so do their values. -/
theorem neg_valueAt_eq_iff {p q : Nat} : -valueAt p = valueAt q ↔ -(p : ℤ) = q := by
  constructor
  · intro h
    have hp : valueAt p = 0 := by linarith [valueAt_nonneg p, valueAt_nonneg q]
    have hq : valueAt q = 0 := by linarith
    rw [valueAt_eq_zero_iff.mp hp, valueAt_eq_zero_iff.mp hq]
    rfl
  · intro h
    obtain ⟨rfl, rfl⟩ : p = 0 ∧ q = 0 := by omega
    rw [valueAt_zero, neg_zero]

end Magnitude

namespace Binary64

open Magnitude

/-- Numbers of the same rank have the same place, and unless it is 0 the same sign. -/
theorem eq_of_rank_eq {a b : Bool} {m n : Magnitude}
    (same : (signed a m).rank = (signed b n).rank) :
    m.place = n.place ∧ (n.place ≠ 0 → a = b) := by
  cases a <;> cases b <;> simp [rank] at same ⊢ <;> omega

/-- The number that a finite binary64 number stands for. -/
def Finite.value (x : Finite) : ℚ :=
  if x.negative then -valueAt x.magnitude.place else valueAt x.magnitude.place

/-- Finite numbers have the same rank if they have the same value. -/
theorem rank_ofFinite_eq_iff {x y : Finite} :
    (ofFinite x).rank = (ofFinite y).rank ↔ x.value = y.value := by
  obtain ⟨negative, m, hm⟩ := x
  obtain ⟨negative', m', hm'⟩ := y
  simp only [ofFinite, rank, Finite.value]
  cases negative <;> cases negative' <;> simp only [if_true, if_false, Bool.false_eq_true]
  · rw [valueAt_strictMono.injective.eq_iff, Int.natCast_inj]
  · rw [eq_comm, ← neg_valueAt_eq_iff, eq_comm]
  · exact neg_valueAt_eq_iff.symm
  · rw [neg_inj, neg_inj, valueAt_strictMono.injective.eq_iff, Int.natCast_inj]

/-- A number that ranks with a finite one is finite. -/
theorem exists_finite_of_rank {y : Binary64} {x : Finite} (hy : y ≠ nan)
    (h : y.rank = (ofFinite x).rank) : ∃ z, y = ofFinite z := by
  cases y with
  | nan => exact absurd rfl hy
  | signed negative m =>
    have hx : x.magnitude.place < lastPlace := of_decide_eq_true x.isFinite
    have hm : m.place < lastPlace := by
      simp only [ofFinite, rank] at h
      split at h <;> split at h <;> omega
    exact ⟨⟨negative, m, decide_eq_true hm⟩, rfl⟩

/-- What is equal to a finite number is a finite number of the same value. -/
theorem same_ofFinite_iff {y : Binary64} {x : Finite} :
    y.same (ofFinite x) = true ↔ ∃ z, y = ofFinite z ∧ z.value = x.value := by
  have hx : ofFinite x ≠ nan := nofun
  simp only [same, Bool.and_eq_true, bne_iff_ne, beq_iff_eq]
  constructor
  · rintro ⟨⟨hy, -⟩, h⟩
    obtain ⟨z, rfl⟩ := exists_finite_of_rank hy h
    exact ⟨z, rfl, rank_ofFinite_eq_iff.mp h⟩
  · rintro ⟨z, rfl, h⟩
    exact ⟨⟨nofun, hx⟩, rank_ofFinite_eq_iff.mpr h⟩

/-! ## The text of a finite number -/

/-- The form of printed numbers: that of a literal, with no plus sign. -/
def PrintedForm (t : List Char) : Prop :=
  ∃ sign whole fraction, (sign = [] ∨ sign = ['-']) ∧ whole ≠ [] ∧
    (∀ c ∈ whole ++ fraction, c.isDigit = true) ∧ t = sign ++ (whole ++ Numeral.pointed fraction)

/-- Both zeros are printed as a bare nought, other finite numbers with sign and digits. -/
theorem text_ofFinite (x : Finite) :
    (ofFinite x).text = if x.magnitude.place = 0 then ['0'] else Layout.plain.number x := by
  have h := finite?_ofFinite x
  unfold ofFinite at h ⊢
  simp only [text, h]

theorem text_zero {x : Finite} (h : x.magnitude.place = 0) : (ofFinite x).text = ['0'] := by
  rw [text_ofFinite, if_pos h]

theorem text_nonzero {x : Finite} (h : x.magnitude.place ≠ 0) :
    (ofFinite x).text = (if x.negative then ['-'] else []) ++
      Layout.plain.decimal (x.magnitude.shortest .up) := by
  rw [text_ofFinite, if_neg h, Layout.number, Layout.magnitude, if_neg h]
  rfl

/-- The numbers that are not finite are printed as words. -/
theorem text_not_finite {y : Binary64} (h : y.finite? = none) :
    y.text ∈ ["NaN".toList, "Infinity".toList, "-Infinity".toList] := by
  cases y with
  | nan => exact List.mem_cons_self ..
  | signed negative m =>
    simp only [text, h]
    cases negative with
    | false => exact List.mem_cons_of_mem _ (List.mem_cons_self ..)
    | true => exact List.mem_cons_of_mem _ (List.mem_cons_of_mem _ (List.mem_cons_self ..))

/-- The parts of a printed number.  Its digits denote a number that its magnitude is nearest to,
and its sign is that of the number, if the number is not zero. -/
theorem text_parts (x : Finite) :
    ∃ sign negative whole fraction, (sign, negative) ∈ Numeral.signs ∧ (sign = [] ∨ sign = ['-']) ∧
      whole ≠ [] ∧ (∀ c ∈ whole ++ fraction, c.isDigit = true) ∧
      (ofFinite x).text = sign ++ (whole ++ Numeral.pointed fraction) ∧
      x.magnitude.IsNearest (Numeral.denoted whole fraction) ∧
      (x.magnitude.place ≠ 0 → negative = x.negative) := by
  by_cases h : x.magnitude.place = 0
  · refine ⟨[], false, ['0'], [], List.mem_cons_self .., Or.inl rfl, List.cons_ne_nil _ _, ?_,
      text_zero h, ?_, absurd h⟩
    · exact List.all_eq_true.mp (by decide)
    · have nought : Numeral.denoted ['0'] [] = valueAt x.magnitude.place := by
        rw [h, valueAt_zero, Numeral.denoted]
        norm_num [Numeral.digitsValue]
      exact nought ▸ x.magnitude.isNearest_valueAt
  · have digits := digits_shortest_ne_zero h .up
    obtain ⟨whole, fraction, laid, hwhole, hfraction, denotes, -⟩ :=
      Layout.decimal_positional (l := .plain) digits rfl
    have nearest : x.magnitude.IsNearest (Numeral.denoted whole fraction) := by
      have rounds := (x.magnitude.shortest .up).isNearest_magnitude
      rwa [magnitude_shortest, ← denotes] at rounds
    have all : ∀ c ∈ whole ++ fraction, c.isDigit = true := by
      intro c hc
      exact (List.mem_append.mp hc).elim (hwhole.isDigit c) (hfraction c)
    refine ⟨if x.negative then ['-'] else [], x.negative, whole, fraction, ?_, ?_, hwhole.ne_nil,
      all, ?_, nearest, fun _ => rfl⟩
    · cases x.negative <;> simp [Numeral.signs]
    · cases x.negative <;> simp
    · rw [text_nonzero h, laid]

theorem printedForm_text (x : Finite) : PrintedForm (ofFinite x).text := by
  obtain ⟨sign, -, whole, fraction, -, hsign, nonempty, digits, htext, -⟩ := text_parts x
  exact ⟨sign, whole, fraction, hsign, nonempty, digits, htext⟩

/-- What is printed for a number spells a number of the same value. -/
theorem exists_spells_text (x : Finite) :
    ∃ y : Finite, Literal.Spells (ofFinite x).text (.number (ofFinite y)) ∧ y.value = x.value := by
  obtain ⟨sign, negative, whole, fraction, signed, -, nonempty, digits, htext, nearest, hsign⟩ :=
    text_parts x
  refine ⟨⟨negative, x.magnitude, x.isFinite⟩, ?_, ?_⟩
  · rw [htext]
    exact .number signed nonempty digits nearest
  · -- the sign may be lost, but that of zero only
    by_cases h : x.magnitude.place = 0
    · simp only [Finite.value, h, valueAt_zero, neg_zero, ite_self]
    · rw [hsign h]

/-- A printed number has no quotes in it. -/
theorem quote_notMem_text (x : Finite) : '\'' ∉ (ofFinite x).text := by
  obtain ⟨sign, whole, fraction, hsign, -, digits, htext⟩ := printedForm_text x
  rw [htext]
  intro quote
  have among : '\'' ∈ whole ++ fraction := by
    rcases hsign with rfl | rfl <;> cases fraction <;> simpa [Numeral.pointed] using quote
  exact absurd (digits _ among) (by decide)

/-! ## Equal texts -/

/-- Numbers of the same value are printed alike. -/
theorem text_congr {x y : Finite} (h : x.value = y.value) :
    (ofFinite x).text = (ofFinite y).text := by
  obtain ⟨negative, ⟨p, hp⟩, hm⟩ := x
  obtain ⟨negative', ⟨q, hq⟩, hm'⟩ := y
  obtain ⟨places, signs⟩ := eq_of_rank_eq (rank_ofFinite_eq_iff.mpr h)
  obtain rfl : p = q := places
  by_cases hzero : p = 0
  · rw [text_zero hzero, text_zero hzero]
  · -- other than at zero the rank tells the signs apart
    have sign : negative = negative' := signs hzero
    rw [sign]

/-- The words for the numbers that are not finite are no numbers. -/
theorem exists_finite_of_spells_text {y : Binary64} {l : Binary64}
    (h : Literal.Spells y.text (.number l)) : ∃ z, y = ofFinite z := by
  have read : Literal.unquoted? y.text = some (.number l) :=
    Literal.unquoted?_eq_some_iff.mpr ⟨h, nofun⟩
  cases finite : y.finite? with
  | some z => exact ⟨z, finite?_eq_some_iff.mp finite⟩
  | none =>
    have words : ∀ t ∈ ["NaN".toList, "Infinity".toList, "-Infinity".toList],
        Literal.unquoted? t = none := by decide
    rw [words _ (text_not_finite finite)] at read
    exact nomatch read

/-- A number is printed like a finite one just if it is equal to it. -/
theorem text_eq_text_iff {y : Binary64} {x : Finite} :
    y.text = (ofFinite x).text ↔ y.same (ofFinite x) = true := by
  rw [same_ofFinite_iff]
  constructor
  · -- both texts spell numbers, and no text spells two
    intro h
    obtain ⟨x', spelled, hx'⟩ := exists_spells_text x
    obtain ⟨z, rfl⟩ := exists_finite_of_spells_text (h ▸ spelled)
    obtain ⟨z', spelled', hz'⟩ := exists_spells_text z
    have both : (Literal.number (ofFinite x')) = .number (ofFinite z') :=
      spelled.unique (h ▸ spelled')
    have values : x'.value = z'.value :=
      rank_ofFinite_eq_iff.mp (congrArg rank (Literal.number.inj both))
    exact ⟨z, rfl, by rw [← hz', ← values, hx']⟩
  · rintro ⟨z, rfl, h⟩
    exact text_congr h

end Binary64

/-! ## Filters -/

namespace Filter

open Binary64 (Finite)

/-- A name, the word `eq` and a literal with single spaces between them are a written filter. -/
theorem exists_written {name literal : String} {l : Literal} (hname : name.toList ≠ [])
    (word : ∀ c ∈ name.toList, Cursor.isWordChar c = true)
    (spelled : Literal.Spells literal.toList l) :
    ∃ w : Written, w.text = Text.trim (name ++ " eq " ++ literal).toList ∧
      w.word = name.toList ∧ w.constant = literal.toList ∧ w.operand = l := by
  let w : Written :=
    { word := name.toList
      blanksBefore := [' ']
      blanksAfter := [' ']
      constant := literal.toList
      operand := l
      word_nonempty := hname
      word_inClass := word
      blanksBefore_nonempty := List.cons_ne_nil _ _
      blanksBefore_inClass := List.all_eq_true.mp (by decide)
      blanksAfter_nonempty := List.cons_ne_nil _ _
      blanksAfter_inClass := List.all_eq_true.mp (by decide)
      spells := spelled }
  have text : w.text = (name ++ " eq " ++ literal).toList := by
    rw [String.toList_append, String.toList_append, List.append_assoc]
    rfl
  refine ⟨w, ?_, rfl, rfl, rfl⟩
  rw [← text, w.trim_text]

/-- The literal that a filter is given is read behind a name and the word `eq`. -/
theorem parse?_of_spells {name literal : String} {l : Literal} (hname : name.toList ≠ [])
    (word : ∀ c ∈ name.toList, Cursor.isWordChar c = true)
    (spelled : Literal.Spells literal.toList l) :
    parse? (name ++ " eq " ++ literal) = some ⟨name, l⟩ := by
  obtain ⟨w, text, hword, -, operand⟩ := exists_written hname word spelled
  rw [parse?_eq_some_iff, parse_of_written text, Written.filter, hword, operand,
    String.ofList_toList]

/-- A text between quotes is asked for as it is. -/
theorem parse?_quoted {name t : String} (hname : name.toList ≠ [])
    (word : ∀ c ∈ name.toList, Cursor.isWordChar c = true) (noQuote : '\'' ∉ t.toList) :
    parse? (name ++ " eq '" ++ t ++ "'") = some ⟨name, .text t⟩ := by
  have spelled : Literal.Spells ('\'' :: t.toList ++ ['\'']) (.text (String.ofList t.toList)) :=
    .quoted noQuote
  rw [String.ofList_toList] at spelled
  have quoted : ("'" ++ t ++ "'").toList = '\'' :: t.toList ++ ['\''] := by
    rw [String.toList_append, String.toList_append]
    rfl
  have regroup : name ++ " eq '" ++ t ++ "'" = name ++ " eq " ++ ("'" ++ t ++ "'") := by
    have split : " eq '" = " eq " ++ "'" := rfl
    rw [split]
    simp only [String.append_assoc]
  rw [regroup]
  exact parse?_of_spells hname word (quoted ▸ spelled)

/-- A cell of a numeric property is null or a number. -/
def NumberOrNull (c : Cell) : Prop := c = .null ∨ ∃ y, c = .number y

/-- On null and numbers, asking for a number and asking for its text come to the same. -/
theorem meets_text_eq_meets_number {c : Cell} (hc : NumberOrNull c) {x y : Finite}
    (h : y.value = x.value) :
    meets (.text (String.ofList (Binary64.ofFinite x).text)) c =
      meets (.number (.ofFinite y)) c := by
  rcases hc with rfl | ⟨z, rfl⟩
  · rfl
  · rw [Bool.eq_iff_iff]
    show (some (String.ofList z.text) == some _) = true ↔ z.same (.ofFinite y) = true
    rw [beq_iff_eq, Option.some_inj, String.ofList_inj, Binary64.text_eq_text_iff,
      Binary64.same_ofFinite_iff, Binary64.same_ofFinite_iff, h]

/-- The numbers that are asked for are those of the same value. -/
theorem meets_number_iff {c : Cell} (hc : NumberOrNull c) {x : Finite} :
    meets (.number (.ofFinite x)) c = true ↔
      ∃ z : Finite, c = .number (.ofFinite z) ∧ z.value = x.value := by
  rcases hc with rfl | ⟨y, rfl⟩
  · exact ⟨nofun, fun ⟨_, h, _⟩ => nomatch h⟩
  · show y.same (.ofFinite x) = true ↔ _
    rw [Binary64.same_ofFinite_iff]
    simp only [Cell.number.injEq]

/-- Every finite number can be asked for by its text.  The text is a literal without an exponent.
After a name and `eq` it is read as a number of the same value, and between quotes as itself.  On
the rows that have null, a number or nothing under the name the two filters agree, and they accept
just those with a number of that value. -/
theorem parse?_number_text (x : Finite) (name : String) (hname : name.toList ≠ [])
    (word : ∀ c ∈ name.toList, Cursor.isWordChar c = true) :
    ∃ s, (Cell.number (.ofFinite x)).text? = some s ∧ Binary64.PrintedForm s.toList ∧
      ∃ byNumber byText,
        parse? (name ++ " eq " ++ s) = some byNumber ∧
        parse? (name ++ " eq '" ++ s ++ "'") = some byText ∧
        (∃ y : Finite, byNumber = ⟨name, .number (.ofFinite y)⟩ ∧ y.value = x.value) ∧
        byText = ⟨name, .text s⟩ ∧
        ∀ row : Row, (∀ c, row.lookup name = some c → NumberOrNull c) →
          byNumber.accepts row = byText.accepts row ∧
          (byNumber.accepts row = true ↔
            ∃ z : Finite, row.lookup name = some (.number (.ofFinite z)) ∧ z.value = x.value) := by
  obtain ⟨y, spelled, hy⟩ := Binary64.exists_spells_text x
  refine ⟨String.ofList (Binary64.ofFinite x).text, rfl, ?_, ⟨name, .number (.ofFinite y)⟩,
    ⟨name, .text (String.ofList (Binary64.ofFinite x).text)⟩, ?_, ?_, ⟨y, rfl, hy⟩, rfl, ?_⟩
  · rw [String.toList_ofList]
    exact Binary64.printedForm_text x
  · apply parse?_of_spells hname word
    rwa [String.toList_ofList]
  · apply parse?_quoted hname word
    rw [String.toList_ofList]
    exact Binary64.quote_notMem_text x
  · intro row cells
    show meets _ ((row.lookup name).getD .null) = meets _ ((row.lookup name).getD .null) ∧
      (meets _ ((row.lookup name).getD .null) = true ↔ _)
    cases found : row.lookup name with
    | none =>
      -- a name that the row does not have reads as null
      exact ⟨rfl, nofun, fun ⟨_, h, _⟩ => nomatch h⟩
    | some c =>
      have hc : NumberOrNull c := cells c found
      refine ⟨(meets_text_eq_meets_number hc hy).symm, ?_⟩
      rw [Option.getD_some, meets_number_iff hc, hy]
      simp only [Option.some.injEq]

/-- A row with minus two and a half meets both filters that are made of its text. -/
theorem accepts_minus_two_and_a_half :
    ∃ byNumber byText, parse? "price eq -2.5" = some byNumber ∧
      parse? "price eq '-2.5'" = some byText ∧
      byNumber.accepts [("price", .number (.ofText "-2.5"))] = true ∧
      byText.accepts [("price", .number (.ofText "-2.5"))] = true := by
  let x : Finite := ⟨true, ⟨1024 * Magnitude.span + Magnitude.span / 4, by decide⟩, by decide⟩
  have number : Binary64.ofText "-2.5" = .ofFinite x := by decide +kernel
  have printed : (Binary64.ofFinite x).text = "-2.5".toList := by decide +kernel
  obtain ⟨s, hs, -, byNumber, byText, read, readText, -, -, rows⟩ :=
    parse?_number_text x "price" (by decide) (List.all_eq_true.mp (by decide))
  obtain rfl : s = "-2.5" := by
    have text : some (String.ofList (Binary64.ofFinite x).text) = some s := hs
    rw [printed] at text
    exact (Option.some.inj text).symm
  have numbers : ∀ c, ([("price", .number (.ofFinite x))] : Row).lookup "price" = some c →
      NumberOrNull c := by
    intro c hc
    exact Or.inr ⟨.ofFinite x, (Option.some.inj hc).symm⟩
  obtain ⟨agree, exactly⟩ := rows [("price", .number (.ofFinite x))] numbers
  have accepted := exactly.mpr ⟨x, rfl, rfl⟩
  rw [number]
  exact ⟨byNumber, byText, read, readText, accepted, agree ▸ accepted⟩

end Filter

end ODataGateway
