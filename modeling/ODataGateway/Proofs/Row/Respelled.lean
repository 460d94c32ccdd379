/-
# ODataGateway.Proofs.Row.Respelled — numbers that the source sends as texts.

A numeric property takes a number as a JSON number or as a string with the text of one, blanks
around it or not.  `Schema.Respells` says that of two items one may have strings where the other has
the numbers that they spell, at any of the numeric properties.  Such items make the same row, so
that nobody who asks for them can tell which of them was sent (`Row.ofJson_respelled`).
-/
import ODataGateway.Plan
import ODataGateway.Proofs.Json.NumberSpelling
import ODataGateway.Proofs.Row.Shape

namespace ODataGateway

open Json (SpellsNumber)

/-! ## Numbers and their texts -/

/-- The first value is what a number is read as, and the second one the string of the number, with
blanks around it or without. -/
inductive Json.Respells : Json → Json → Prop
  | mk {t a b : List Char} {negative : Bool} {q : ℚ} {v : Json}
      (spelled : SpellsNumber t negative q) (read : Json.read? t = some v)
      (blanks : ∀ c ∈ a ++ b, Text.isBlank c = true) :
      Respells v (.string (String.ofList (a ++ t ++ b)))

/-- The second item is the first one, but where the schema declares numbers it may have strings that
spell them. -/
inductive Schema.Respells (schema : Schema) : Json → Json → Prop
  | same (item : Json) : Respells schema item item
  | object {ms ns : List (String × Json)}
      (members : List.Forall₂ (fun m n => m.1 = n.1 ∧
        (m.2 = n.2 ∨ schema.IsNumeric m.1 ∧ m.2.Respells n.2)) ms ns) :
      Respells schema (.object ms) (.object ns)

/-- The cell of a numeric property does not depend on which of the two it is made of. -/
theorem Json.Respells.numericCell_eq {v w : Json} (h : v.Respells w) :
    Row.numericCell (some v) = Row.numericCell (some w) := by
  cases h with
  | @mk t a b negative q v spelled read blanks =>
    obtain ⟨m, nearest⟩ := spelled.exists_isNearest
    obtain ⟨isNumber, number, -⟩ := spelled.of_read? nearest read
    have fromNumber : Row.numericCell (some v) = .number (.signed negative m) := by
      rw [← number]
      rcases isNumber with ⟨i, rfl⟩ | ⟨x, rfl⟩ <;> rfl
    have filled : (String.ofList (a ++ t ++ b)).isEmpty = false := by
      rw [Bool.eq_false_iff, ne_eq, String.isEmpty_iff, ← String.toList_eq_nil_iff,
        String.toList_ofList]
      intro empty
      have nothing : t = [] := (List.append_eq_nil_iff.mp (List.append_eq_nil_iff.mp empty).1).2
      exact spelled.ne_nil nothing
    rw [fromNumber, Row.numericCell, filled, ← spelled.number_string nearest blanks]
    rfl

/-! ## Items -/

namespace Schema

variable {schema : Schema} {item other : Json} {p : Property}

/-- A property gets the same cell from both items. -/
theorem Respells.cellOf_eq (h : schema.Respells item other) (hp : p ∈ schema.properties) :
    Row.cellOf p.type (item.get? p.name) = Row.cellOf p.type (other.get? p.name) := by
  cases h with
  | same => rfl
  | @object ms ns members =>
    have values := Row.rel_lookup
      (R := fun name v w => v = w ∨ schema.IsNumeric name ∧ Json.Respells v w) members p.name
    show Row.cellOf p.type (ms.lookup p.name) = Row.cellOf p.type (ns.lookup p.name)
    generalize ms.lookup p.name = v, ns.lookup p.name = w at values
    cases values with
    | none => rfl
    | some value =>
      rcases value with rfl | ⟨numeric, spelled⟩
      · rfl
      · have declared := Row.type_ne_of_isNumeric numeric hp
        rw [Row.cellOf_numeric declared, Row.cellOf_numeric declared, spelled.numericCell_eq]

theorem Respells.ofJson_eq (h : schema.Respells item other) :
    Row.ofJson schema item = Row.ofJson schema other := by
  apply List.map_congr_left
  intro p hp
  rw [h.cellOf_eq hp]

theorem map_ofJson_of_respells {items others : List Json}
    (h : List.Forall₂ schema.Respells items others) :
    items.map (Row.ofJson schema) = others.map (Row.ofJson schema) := by
  induction h with
  | nil => rfl
  | cons first _ ih => rw [List.map_cons, List.map_cons, first.ofJson_eq, ih]

end Schema

namespace Row

/-- A number means the same as a JSON number and as a string.  A text that is a number by the
grammar of the standard is read as a value unless it overflows.  The value is taken wherever the
text may stand.  The number in it and the number in the string of the text, blanks around it or not,
are both the one nearest to what the text denotes, with its sign.  So an item makes the same row
when any of its numbers at numeric properties are sent as strings, and every query has the same
answer. -/
theorem ofJson_respelled (schema : Schema) :
    (∀ t negative q m, SpellsNumber t negative q → m.IsNearest q →
      ((∃ v, Json.read? t = some v) ↔ m ≠ .infinite) ∧
      ∀ v, Json.read? t = some v →
        (∀ d rest, Json.Ends rest → Json.Takes (Json.readValue d) (t ++ rest) v rest) ∧
        v.number = .signed negative m ∧
        ∀ a b, (∀ c ∈ a ++ b, Text.isBlank c = true) →
          (Json.string (String.ofList (a ++ t ++ b))).number = v.number) ∧
    (∀ item other, schema.Respells item other → ofJson schema item = ofJson schema other) ∧
    (∀ items others, List.Forall₂ schema.Respells items others →
      items.map (ofJson schema) = others.map (ofJson schema) ∧
      ∀ o, Answer.lenient o (items.map (ofJson schema)) =
          Answer.lenient o (others.map (ofJson schema)) ∧
        Answer.strict o (items.map (ofJson schema)) =
          Answer.strict o (others.map (ofJson schema))) := by
  refine ⟨?_, fun item other h => h.ofJson_eq, ?_⟩
  · intro t negative q m spelled nearest
    refine ⟨spelled.exists_read?_iff nearest, fun v read => ?_⟩
    obtain ⟨-, number, takes⟩ := spelled.of_read? nearest read
    refine ⟨takes, number, fun a b blanks => ?_⟩
    rw [number, spelled.number_string nearest blanks]
  · intro items others h
    have rows := Schema.map_ofJson_of_respells h
    refine ⟨rows, fun o => ?_⟩
    rw [rows]
    exact ⟨rfl, rfl⟩

/-- A whole number that no 64 bits hold and a negative zero with an exponent, in two items. -/
theorem ofJson_respelled_two_items :
    ∃ v w, Json.read? "18446744073709551617".toList = some v ∧ Json.read? "-0E-3".toList = some w ∧
      ∀ o, Answer.lenient o ([.object [("id", .bool true), ("price", v)],
            .object [("price", w)]].map
          (ofJson ⟨"Sale", "Sales", "price", [⟨"price", .double, true⟩], by decide⟩)) =
        Answer.lenient o ([.object [("id", .bool true), ("price", .string " 18446744073709551617")],
            .object [("price", .string "-0E-3")]].map
          (ofJson ⟨"Sale", "Sales", "price", [⟨"price", .double, true⟩], by decide⟩)) := by
  obtain ⟨numbers, -, items⟩ :=
    ofJson_respelled ⟨"Sale", "Sales", "price", [⟨"price", .double, true⟩], by decide⟩
  have great := @SpellsNumber.mk "18446744073709551617".toList [] [] 0 false
    (Or.inr ⟨'1', _, rfl, by decide, List.all_eq_true.mp (by decide)⟩)
    (fun c hc => absurd hc List.not_mem_nil) .none
  have nought := @SpellsNumber.mk ['0'] [] "E-3".toList (-3) true (Or.inl rfl)
    (fun c hc => absurd hc List.not_mem_nil)
    (Numeral.readExponent?_eq_some_iff.mp (by decide))
  have greatNearest := Numeral.isNearest_parts "18446744073709551617".toList [] 0
  have noughtNearest := Numeral.isNearest_parts ['0'] [] (-3)
  obtain ⟨v, readGreat⟩ := (numbers _ _ _ _ great greatNearest).1.mpr (by decide +kernel)
  obtain ⟨w, readNought⟩ := (numbers _ _ _ _ nought noughtNearest).1.mpr (by decide +kernel)
  refine ⟨v, w, readGreat, readNought, fun o => ((items _ _ ?_).2 o).1⟩
  have numeric : Schema.IsNumeric ⟨"Sale", "Sales", "price", [⟨"price", .double, true⟩], by decide⟩
      "price" := ⟨_, List.mem_cons_self .., rfl, by decide⟩
  refine .cons (.object (.cons ⟨rfl, Or.inl rfl⟩ (.cons ⟨rfl, Or.inr ⟨numeric, ?_⟩⟩ .nil)))
    (.cons (.object (.cons ⟨rfl, Or.inr ⟨numeric, ?_⟩⟩ .nil)) .nil)
  · exact .mk (a := [' ']) (b := []) great readGreat (List.all_eq_true.mp (by decide))
  · exact .mk (a := []) (b := []) nought readNought (fun c hc => absurd hc List.not_mem_nil)

end Row

end ODataGateway
