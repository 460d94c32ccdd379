/-
# ODataGateway.Proofs.Query.Dated — the cells that start with a date.

A date starts with digits and goes on with a hyphen.  Numbers do neither in their texts nor as JSON:
where their first digits end there is a point, an exponent or nothing, and what does not start with
digits starts with no date at all (`Literal.DateForm.not_isPrefix`).  So of the cells of rows only
texts meet a date (`Row.exists_text_of_date`).  In the order of texts those that start alike stand
together (`isPrefix_of_between`), and in the order of cells nothing stands between two texts but
texts, and nothing between two numbers but numbers (`Cell.Between`).
-/
import ODataGateway.Proofs.Json.NumberSpelling
import ODataGateway.Proofs.Query.CellOrder
import ODataGateway.Proofs.Query.NumberText
import ODataGateway.Proofs.Row.Shape

namespace ODataGateway

open Std (OrientedCmp)
open Text (Halts halts_nil halts_cons_iff run_unique)

/-! ## Dates and numbers -/

namespace Literal.DateForm

variable {date : List Char}

/-- A date starts with digits, and a hyphen stands behind them. -/
theorem exists_year (h : DateForm date) :
    ∃ year rest, date = year ++ '-' :: rest ∧ year ≠ [] ∧ ∀ c ∈ year, c.isDigit = true := by
  obtain ⟨year, month, day, digits, ⟨length, -, -⟩, rfl⟩ := h
  refine ⟨year, month ++ '-' :: day, by simp, ?_, ?_⟩
  · rintro rfl
    exact absurd length (by decide)
  · intro c hc
    exact digits c (List.mem_append_left _ (List.mem_append_left _ hc))

/-- What starts with digits, if any, and does not go on with a hyphen starts with no date. -/
theorem not_isPrefix (h : DateForm date) {run rest : List Char}
    (digits : ∀ c ∈ run, c.isDigit = true)
    (halts : Halts (fun c => c.isDigit || c = '-') rest) : ¬ date <+: run ++ rest := by
  obtain ⟨year, rest', rfl, -, digits'⟩ := h.exists_year
  rintro ⟨behind, same⟩
  rw [List.append_assoc, List.cons_append] at same
  have runEnds : Halts Char.isDigit rest := fun c hc => (Bool.or_eq_false_iff.mp (halts c hc)).1
  obtain ⟨-, rfl⟩ := run_unique same digits' (halts_cons_iff.mpr (by decide)) digits runEnds
  exact absurd (halts_cons_iff.mp halts) (by decide)

/-- What starts with no digit starts with no date. -/
theorem not_isPrefix_cons (h : DateForm date) {c : Char} (other : c.isDigit = false)
    (r : List Char) : ¬ date <+: c :: r := by
  obtain ⟨year, rest, rfl, nonempty, digits⟩ := h.exists_year
  obtain ⟨y, ys, rfl⟩ := List.exists_cons_of_ne_nil nonempty
  rintro ⟨behind, same⟩
  obtain rfl : y = c := (List.cons.inj same).1
  exact absurd ((digits y (List.mem_cons_self ..)).symm.trans other) (by decide)

/-- The text of a number starts with no date. -/
theorem not_isPrefix_text (h : DateForm date) (x : Binary64) : ¬ date <+: x.text := by
  cases finite : x.finite? with
  | none =>
    have words := Binary64.text_not_finite finite
    simp only [List.mem_cons, List.not_mem_nil, or_false] at words
    rcases words with word | word | word
    · exact word ▸ h.not_isPrefix_cons (by decide) _
    · exact word ▸ h.not_isPrefix_cons (by decide) _
    · exact word ▸ h.not_isPrefix_cons (by decide) _
  | some f =>
    obtain rfl := Binary64.finite?_eq_some_iff.mp finite
    obtain ⟨sign, whole, fraction, hsign, -, digits, text⟩ := Binary64.printedForm_text f
    rw [text]
    rcases hsign with rfl | rfl
    · rw [List.nil_append]
      refine h.not_isPrefix (fun c hc => digits c (List.mem_append_left _ hc)) ?_
      cases fraction with
      | nil => exact halts_nil
      | cons c s => exact halts_cons_iff.mpr (by decide)
    · exact h.not_isPrefix_cons (by decide) _

/-- A number in a JSON text starts with no date. -/
theorem not_isPrefix_numberText (h : DateForm date) {whole : List Char}
    (isWhole : Numeral.IsWhole whole) (negative : Bool) (fraction : List Char)
    (power : Option Int) : ¬ date <+: Json.numberText negative whole fraction power := by
  cases negative with
  | true => exact h.not_isPrefix_cons (by decide) _
  | false =>
    show ¬ date <+: whole ++ (Numeral.pointed fraction ++ Json.powerText power)
    apply h.not_isPrefix isWhole.isDigit
    -- behind the whole part there is a point, an exponent or nothing
    cases fraction with
    | cons c s => exact halts_cons_iff.mpr (by decide)
    | nil =>
      cases power with
      | none => exact halts_nil
      | some e => exact halts_cons_iff.mpr (by decide)

/-- No JSON text starts with a date. -/
theorem not_isPrefix_write (h : DateForm date) (v : Json) : ¬ date <+: Json.write v := by
  cases v with
  | null =>
    rw [Json.write]
    exact h.not_isPrefix_cons (by decide) _
  | bool b =>
    cases b with
    | true =>
      rw [Json.write]
      exact h.not_isPrefix_cons (by decide) _
    | false =>
      rw [Json.write]
      exact h.not_isPrefix_cons (by decide) _
  | integer i =>
    rw [Json.write, Json.numberText_integer]
    exact h.not_isPrefix_numberText (Layout.isWhole_natural _) _ _ _
  | float x =>
    obtain ⟨whole, fraction, power, text, isWhole, -⟩ := Json.numberText_float x
    rw [Json.write, text]
    exact h.not_isPrefix_numberText isWhole _ _ _
  | string s =>
    rw [Json.write]
    exact h.not_isPrefix_cons (by decide) _
  | array items =>
    rw [Json.write]
    exact h.not_isPrefix_cons (by decide) _
  | object members =>
    rw [Json.write]
    exact h.not_isPrefix_cons (by decide) _

end Literal.DateForm

/-! ## Cells that meet a date -/

/-- Of the cells that meet a date, all but those of raw strings are texts. -/
theorem Filter.exists_text_of_meets {date : String} (h : Literal.DateForm date.toList) {c : Cell}
    (noText : ∀ s, c ≠ .raw (.string s)) (met : meets (.date date) c = true) :
    ∃ s, c = .text s ∧ date.toList <+: s.toList := by
  cases c with
  | null => exact nomatch met
  | text s => exact ⟨s, rfl, List.isPrefixOf_iff_prefix.mp met⟩
  | number x =>
    have start : date.toList <+: (String.ofList x.text).toList := List.isPrefixOf_iff_prefix.mp met
    rw [String.toList_ofList] at start
    exact absurd start (h.not_isPrefix_text x)
  | raw v =>
    have start : date.toList <+: (Cell.raw v).display.toList := List.isPrefixOf_iff_prefix.mp met
    rw [Cell.display_raw fun s same => noText s (congrArg Cell.raw same), Json.text,
      String.toList_ofList] at start
    exact absurd start (h.not_isPrefix_write v)

theorem Filter.meets_date_text {date s : String} (start : date.toList <+: s.toList) :
    meets (.date date) (.text s) = true := List.isPrefixOf_iff_prefix.mpr start

namespace Row

variable {schema : Schema} {item : Json}

/-- No cell of a row holds a string as a raw value. -/
theorem cell_ofJson_ne_raw (name s : String) :
    (ofJson schema item).cell name ≠ .raw (.string s) := by
  intro raw
  unfold cell at raw
  cases found : (ofJson schema item).lookup name with
  | none =>
    rw [found] at raw
    exact nomatch raw
  | some c =>
    rw [found, Option.getD_some] at raw
    subst raw
    obtain ⟨p, -, -, made⟩ := makes_of_lookup found
    exact made.noText s rfl

/-- A numeric property has null or a number. -/
theorem numberOrNull_cell {name : String} (numeric : schema.IsNumeric name) :
    Filter.NumberOrNull ((ofJson schema item).cell name) := by
  obtain ⟨p, hp, rfl, declared⟩ := numeric
  rw [cell, lookup_ofJson hp, Option.getD_some]
  exact (makes_cellOf p.type _).fits.kind_numeric declared

/-- Only rows that have a text under the name meet a date there. -/
theorem exists_text_of_date {name date : String} (h : Literal.DateForm date.toList)
    (accepted : Filter.accepts ⟨name, .date date⟩ (ofJson schema item) = true) :
    ∃ s, (ofJson schema item).cell name = .text s ∧ date.toList <+: s.toList :=
  Filter.exists_text_of_meets h (cell_ofJson_ne_raw name) accepted

end Row

/-! ## Texts that start alike -/

/-- A text that does not come after another is not after it character by character either. -/
theorem not_lex_of_compare {s t : String} (h : compare s t ≠ .gt) :
    ¬ List.Lex (· < ·) t.toList s.toList := by
  intro after
  have turned : compare t s = .lt := if_pos after
  have swap : compare s t = (compare t s).swap := OrientedCmp.eq_swap
  rw [swap, turned] at h
  exact h rfl

/-- What stands between two texts that start alike starts like them. -/
theorem isPrefix_of_lex {start s t u : List Char} (hs : start <+: s) (hu : start <+: u)
    (hst : ¬ List.Lex (· < ·) t s) (htu : ¬ List.Lex (· < ·) u t) : start <+: t := by
  -- character by character; the one in the middle is neither before nor after the shared one
  induction start generalizing s t u with
  | nil => exact List.nil_prefix
  | cons c start ih =>
    obtain ⟨s, rfl⟩ := hs
    obtain ⟨u, rfl⟩ := hu
    cases t with
    | nil => exact absurd .nil hst
    | cons x t =>
      have notBefore : ¬ x < c := fun lt => hst (.rel lt)
      have notAfter : ¬ c < x := fun lt => htu (.rel lt)
      obtain rfl : x = c :=
        Char.le_antisymm (Char.not_lt.mp notAfter) (Char.not_lt.mp notBefore)
      refine List.cons_prefix_cons.mpr ⟨rfl, ih ⟨s, rfl⟩ ⟨u, rfl⟩ ?_ ?_⟩
      · exact fun after => hst (.cons after)
      · exact fun after => htu (.cons after)

theorem isPrefix_of_between {start : List Char} {s t u : String} (hs : start <+: s.toList)
    (hu : start <+: u.toList) (hst : compare s t ≠ .gt) (htu : compare t u ≠ .gt) :
    start <+: t.toList :=
  isPrefix_of_lex hs hu (not_lex_of_compare hst) (not_lex_of_compare htu)

/-! ## Cells between others -/

namespace Cell

/-- The second cell comes neither before the first one nor after the third one. -/
structure Between (a b c : Cell) : Prop where
  notBefore : compareValues a b ≠ .gt
  notAfter : compareValues b c ≠ .gt

/-- Going down, what stands between two cells is between them as going up, seen from the other
end. -/
theorem between_or_between {d : Direction} {a b c : Cell} (ha : a ≠ .null) (hc : c ≠ .null)
    (hab : compareIn d a b ≠ .gt) (hbc : compareIn d b c ≠ .gt) :
    Between a b c ∨ Between c b a := by
  have hb : b ≠ .null := by
    rintro rfl
    exact hbc (compareIn_null_left hc)
  rw [compareIn_of_ne_null ha hb] at hab
  rw [compareIn_of_ne_null hb hc] at hbc
  cases d with
  | ascending => exact Or.inl ⟨hab, hbc⟩
  | descending =>
    have turned : ∀ x y, (compareValues x y).swap = compareValues y x := fun x y =>
      OrientedCmp.eq_swap.symm
    refine Or.inr ⟨?_, ?_⟩
    · rw [← turned]
      exact hbc
    · rw [← turned]
      exact hab

/-- Between two texts stand texts. -/
theorem Between.text {s u : String} {b : Cell} (h : Between (.text s) b (.text u)) :
    ∃ t, b = .text t ∧ compare s t ≠ .gt ∧ compare t u ≠ .gt := by
  obtain ⟨notBefore, notAfter⟩ := h
  cases b with
  | null => exact absurd rfl notBefore
  | number y => exact absurd rfl notBefore
  | text t => exact ⟨t, rfl, notBefore, notAfter⟩
  | raw v => exact absurd rfl notAfter

/-- Between two numbers stand numbers. -/
theorem Between.number {x z : Binary64} {b : Cell} (h : Between (.number x) b (.number z)) :
    ∃ y, b = .number y ∧ x.rank ≤ y.rank ∧ y.rank ≤ z.rank := by
  obtain ⟨notBefore, notAfter⟩ := h
  cases b with
  | null => exact absurd rfl notBefore
  | number y =>
    refine ⟨y, rfl, ?_, ?_⟩
    · exact Int.isLE_compare.mp (Ordering.isLE_iff_ne_gt.mpr notBefore)
    · exact Int.isLE_compare.mp (Ordering.isLE_iff_ne_gt.mpr notAfter)
  | text t => exact absurd rfl notAfter
  | raw v => exact absurd rfl notAfter

end Cell

end ODataGateway
