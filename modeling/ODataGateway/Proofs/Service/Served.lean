/-
# ODataGateway.Proofs.Service.Served — rows that are served can be taken in again.

What is served for a cell makes the same cell again, apart from what the wire has no form for: the
sign of zero and the numbers that are not finite (`Cell.served`).  A served row is read back with
its members sorted by name, and each is found under its name, so taking in what was served gives
the rows that were served, and serving these gives the same text (`Row.served_again`).
-/
import ODataGateway.Proofs.Json.RoundTrip
import ODataGateway.Proofs.Row.Shape

namespace ODataGateway

/-! ## Whole numbers -/

namespace Binary64

open Magnitude (one one_pos valueAt units)

variable {x : Finite} {i : Int}

theorem units_eq_zero_iff {m : Magnitude} : m.units = 0 ↔ m.place = 0 := by
  have zero : Magnitude.unitsAt 0 = 0 := Magnitude.unitsAt_of_lt_span Magnitude.span_pos
  constructor
  · intro h
    exact Magnitude.unitsAt_strictMono.injective (h.trans zero.symm)
  · intro h
    rw [units, h, zero]

/-- The finite numbers that are served as integers, and as which. -/
theorem safeInteger?_eq_some_iff : (ofFinite x).safeInteger? = some i ↔
    ∃ n : Nat, x.magnitude.units = n * one ∧ n ≤ maxSafeInteger ∧
      i = if x.negative then -(n : Int) else n := by
  have pos : 0 < one := Nat.cast_pos.mp one_pos
  show (if (x.magnitude.isFinite && x.magnitude.units % one == 0 &&
      decide (x.magnitude.units / one ≤ maxSafeInteger)) = true then
        some (if x.negative then -((x.magnitude.units / one : Nat) : Int)
          else (x.magnitude.units / one : Nat)) else none) = some i ↔ _
  rw [Option.ite_none_right_eq_some, x.isFinite, Bool.true_and, Bool.and_eq_true, beq_iff_eq,
    decide_eq_true_eq, Option.some_inj]
  constructor
  · rintro ⟨⟨part, small⟩, rfl⟩
    exact ⟨_, (Nat.div_mul_cancel (Nat.dvd_of_mod_eq_zero part)).symm, small, rfl⟩
  · rintro ⟨n, whole, small, rfl⟩
    rw [whole, Nat.mul_mod_left, Nat.mul_div_cancel n pos]
    exact ⟨⟨rfl, small⟩, rfl⟩

/-- Both zeros are served as the integer 0. -/
theorem safeInteger?_zero (h : x.magnitude.place = 0) : (ofFinite x).safeInteger? = some 0 := by
  rw [safeInteger?_eq_some_iff]
  refine ⟨0, ?_, Nat.zero_le _, ?_⟩
  · rw [Nat.zero_mul, units_eq_zero_iff, h]
  · cases x.negative <;> rfl

/-- The integer that is served for a number is that number, up to the sign of zero. -/
theorem ofInt_safeInteger (h : (ofFinite x).safeInteger? = some i) :
    ofInt i = if x.magnitude.place = 0 then zero else ofFinite x := by
  obtain ⟨n, whole, -, rfl⟩ := safeInteger?_eq_some_iff.mp h
  have magnitude : (Decimal.mk n 0).magnitude = x.magnitude := by
    apply Decimal.magnitude_eq_of_value
    rw [valueAt, ← units, whole, Nat.cast_mul, mul_div_cancel_right₀ _ one_pos.ne', Decimal.value,
      zpow_zero, mul_one]
  have size : (if x.negative then -(n : Int) else n).natAbs = n := by
    split <;> omega
  have split : ofInt (if x.negative then -(n : Int) else n) =
      signed (decide ((if x.negative then -(n : Int) else n) < 0)) x.magnitude := by
    rw [ofInt, size, magnitude]
  rw [split]
  -- an integer has a sign just if it is not 0
  by_cases place : x.magnitude.place = 0
  · obtain rfl : n = 0 := by
      rw [units_eq_zero_iff.mpr place] at whole
      exact (Nat.mul_eq_zero.mp whole.symm).resolve_right (Nat.cast_pos.mp one_pos).ne'
    rw [if_pos place, Magnitude.eq_zero_of_place place]
    cases x.negative <;> rfl
  · have positive : n ≠ 0 := by
      rintro rfl
      rw [Nat.zero_mul, units_eq_zero_iff] at whole
      exact place whole
    have sign : decide ((if x.negative then -(n : Int) else n) < 0) = x.negative := by
      cases x.negative with
      | false => exact decide_eq_false (by rw [if_neg Bool.false_ne_true]; omega)
      | true => exact decide_eq_true (by rw [if_pos rfl]; omega)
    rw [if_neg place, sign]
    rfl

/-- An integer that is served has 64 bits. -/
theorem safeInteger?_bounds (h : (ofFinite x).safeInteger? = some i) :
    -0x8000000000000000 ≤ i ∧ i ≤ 0xFFFFFFFFFFFFFFFF := by
  obtain ⟨n, -, small, rfl⟩ := safeInteger?_eq_some_iff.mp h
  have bound : n ≤ 0x1FFFFFFFFFFFFF := small
  split <;> omega

/-- A number that is not finite is not served as a number. -/
theorem safeInteger?_of_not_finite {y : Binary64} (h : y.finite? = none) :
    y.safeInteger? = none := by
  cases y with
  | nan => rfl
  | signed negative m =>
    have infinite : ¬ m.isFinite = true := fun finite =>
      Magnitude.isFinite_iff.mp finite (finite?_signed_eq_none_iff.mp h)
    unfold safeInteger?
    simp only [infinite, Bool.false_and, if_false, Bool.false_eq_true]

end Binary64

/-! ## Cells -/

namespace Cell

open Row (cellOf numericCell stringCell)

/-- What is left of a cell on the wire: numbers that are not finite become null, and the negative
zero loses its sign. -/
def served : Cell → Cell
  | .number x =>
    match x.finite? with
    | none => .null
    | some f => if f.magnitude.place = 0 then .number .zero else .number x
  | c => c

theorem served_not_finite {y : Binary64} (h : y.finite? = none) : (number y).served = .null := by
  simp only [served, h]

theorem served_finite (x : Binary64.Finite) : (number (.ofFinite x)).served =
    if x.magnitude.place = 0 then .number .zero else .number (.ofFinite x) := by
  simp only [served, Binary64.finite?_ofFinite]

theorem toJson_not_finite {y : Binary64} (h : y.finite? = none) : (number y).toJson = .null := by
  simp only [toJson, Binary64.safeInteger?_of_not_finite h, h]

/-- A finite number is served as the integer that it is, or else as a float. -/
theorem toJson_integer {x : Binary64.Finite} {i : Int}
    (h : (Binary64.ofFinite x).safeInteger? = some i) :
    (number (.ofFinite x)).toJson = .integer i := by
  simp only [toJson, h]

theorem toJson_float {x : Binary64.Finite} (h : (Binary64.ofFinite x).safeInteger? = none) :
    (number (.ofFinite x)).toJson = .float x := by
  simp only [toJson, h, Binary64.finite?_ofFinite]

/-! ### Taken in again -/

/-- A number makes the cell that it is served as. -/
theorem numericCell_toJson (y : Binary64) :
    numericCell (some (number y).toJson) = (number y).served := by
  cases finite : y.finite? with
  | none =>
    rw [toJson_not_finite finite, served_not_finite finite]
    rfl
  | some x =>
    obtain rfl := Binary64.finite?_eq_some_iff.mp finite
    rw [served_finite]
    cases whole : (Binary64.ofFinite x).safeInteger? with
    | some i =>
      rw [toJson_integer whole]
      show number (.ofInt i) = _
      rw [Binary64.ofInt_safeInteger whole]
      split <;> rfl
    | none =>
      -- zero is served as an integer
      have place : x.magnitude.place ≠ 0 := by
        intro zero
        rw [Binary64.safeInteger?_zero zero] at whole
        exact nomatch whole
      rw [toJson_float whole, if_neg place]
      rfl

/-- What is served for a cell of either type makes the same cell, as far as it can be served. -/
theorem cellOf_toJson (t : PropertyType) (v : Option Json) :
    cellOf t (some (cellOf t v).toJson) = (cellOf t v).served := by
  have made := Row.makes_cellOf t v
  generalize cellOf t v = c at made ⊢
  cases made with
  | missing => cases t <;> rfl
  | null => cases t <;> rfl
  | emptyText numeric => cases t <;> rfl
  | number numeric notNull notEmpty =>
    rw [Row.cellOf_numeric numeric]
    exact numericCell_toJson _
  | text s => rfl
  | @raw w notNull noText =>
    -- what is no text is kept as it is
    cases w with
    | null => exact absurd rfl notNull
    | string s => exact absurd rfl (noText s)
    | _ => rfl

/-- What is lost on the wire is not served. -/
theorem toJson_served (c : Cell) : c.served.toJson = c.toJson := by
  cases c with
  | null => rfl
  | text s => rfl
  | raw v => rfl
  | number y =>
    cases finite : y.finite? with
    | none =>
      rw [served_not_finite finite, toJson_not_finite finite]
      rfl
    | some x =>
      obtain rfl := Binary64.finite?_eq_some_iff.mp finite
      rw [served_finite]
      split
      · next zero =>
        rw [toJson_integer (Binary64.safeInteger?_zero zero)]
        exact toJson_integer (Binary64.safeInteger?_zero (x := ⟨false, .zero, by decide⟩) rfl)
      · rfl

/-! ### Readable again -/

/-- What is served for a cell can be read, if what a raw cell holds can. -/
theorem readable_toJson {d : Nat} {c : Cell} (h : ∀ v, c = .raw v → Json.Readable d v) :
    Json.Readable d c.toJson := by
  cases c with
  | null => exact .null
  | text s => exact .string s
  | raw v => exact h v rfl
  | number y =>
    cases finite : y.finite? with
    | none =>
      rw [toJson_not_finite finite]
      exact .null
    | some x =>
      obtain rfl := Binary64.finite?_eq_some_iff.mp finite
      cases whole : (Binary64.ofFinite x).safeInteger? with
      | some i =>
        obtain ⟨low, high⟩ := Binary64.safeInteger?_bounds whole
        rw [toJson_integer whole]
        exact .integer low high
      | none =>
        rw [toJson_float whole]
        exact .float x

end Cell

/-! ## Rows -/

namespace Row

open Json (Readable ReadsAs)

/-- The members that are served for a row. -/
def members (row : Row) : List (String × Json) := row.map fun c => (c.1, c.2.toJson)

/-- What is left of a row on the wire. -/
def served (row : Row) : Row := row.map fun c => (c.1, c.2.served)

/-- The text that is served for rows. -/
def wire (rows : List Row) : List Char := Json.write (.array (rows.map toJson))

variable {schema : Schema} {item v : Json} {d : Nat}

theorem members_ofJson (schema : Schema) (item : Json) : (ofJson schema item).members =
    schema.properties.map fun p => (p.name, (cellOf p.type (item.get? p.name)).toJson) := by
  rw [members, ofJson, List.map_map]
  rfl

/-- A row that is served makes the row that is left of it. -/
theorem ofJson_ofMembers (schema : Schema) (item : Json) :
    ofJson schema (Json.ofMembers (ofJson schema item).members) = (ofJson schema item).served := by
  have distinct : ((ofJson schema item).members.map Prod.fst).Nodup := by
    have names : (ofJson schema item).members.map Prod.fst =
        schema.properties.map Property.name := by
      rw [members_ofJson, List.map_map]
      rfl
    rw [names]
    exact schema.distinct
  rw [served, ofJson, ofJson, List.map_map]
  refine List.map_congr_left ?_
  intro p hp
  have found : (Json.ofMembers (ofJson schema item).members).get? p.name =
      some (cellOf p.type (item.get? p.name)).toJson := by
    rw [Json.get?_ofMembers distinct, members_ofJson]
    exact lookup_properties schema.distinct _ hp
  show (p.name, cellOf p.type ((Json.ofMembers (ofJson schema item).members).get? p.name)) =
    (p.name, (cellOf p.type (item.get? p.name)).served)
  rw [found, Cell.cellOf_toJson]

theorem toJson_served (row : Row) : row.served.toJson = row.toJson := by
  rw [toJson, toJson, served, List.map_map]
  refine congrArg Json.object (List.map_congr_left ?_)
  intro c _
  show (c.1, c.2.served.toJson) = _
  rw [Cell.toJson_served]

/-- What stands in a readable object is readable one level below. -/
theorem readable_get? (h : Readable (d + 1) item) {name : String}
    (found : item.get? name = some v) :
    Readable d v := by
  cases h with
  | object _ values =>
    obtain ⟨before, after, split, -⟩ := List.lookup_eq_some_iff.mp found
    exact values (name, v) (split ▸ List.mem_append_right _ (List.mem_cons_self ..))
  | _ => exact nomatch found

/-- The row of an item that was read is read back as the object of its members. -/
theorem readsAs_row (h : Readable (d + 1) item) :
    ReadsAs (d + 1) (ofJson schema item).toJson (Json.ofMembers (ofJson schema item).members) := by
  show ReadsAs (d + 1) (.object (ofJson schema item).members) _
  apply Json.readsAs_object
  intro m hm
  rw [members_ofJson] at hm
  obtain ⟨p, -, rfl⟩ := List.mem_map.mp hm
  apply Readable.readsAs
  apply Cell.readable_toJson
  intro w raw
  exact readable_get? h ((makes_cellOf p.type _).fits.raw_kept w raw)

/-- Rows that are served can be taken in again.  Of a text that reads as an array, take in the items
by a schema and serve the rows: what is served reads as an array again, its items make the same
rows, up to what the wire has no form for, and serving these gives the same text. -/
theorem served_again (schema : Schema) (s : List Char) (items : List Json)
    (h : Json.read? s = some (.array items)) :
    ∃ again, Json.read? (wire (items.map (ofJson schema))) = some (.array again) ∧
      again.map (ofJson schema) = (items.map (ofJson schema)).map served ∧
      wire (again.map (ofJson schema)) = wire (items.map (ofJson schema)) := by
  -- the items are as deep in the text that was read as they are in the one that is served
  have readable : ∀ item ∈ items, Readable 126 item := by
    cases Json.readable_of_read? h with
    | array values => exact values
  have rows : (items.map fun item => Json.ofMembers (ofJson schema item).members).map
      (ofJson schema) = (items.map (ofJson schema)).map served := by
    rw [List.map_map, List.map_map]
    refine List.map_congr_left ?_
    intro item _
    exact ofJson_ofMembers schema item
  refine ⟨items.map fun item => Json.ofMembers (ofJson schema item).members, ?_, rows, ?_⟩
  · have text : wire (items.map (ofJson schema)) =
        Json.write (.array (items.map fun item => (ofJson schema item).toJson)) := by
      rw [wire, List.map_map]
      rfl
    rw [text]
    apply Json.read?_of_readsAs
    apply Json.readsAs_array
    intro item hitem
    exact readsAs_row (readable item hitem)
  · rw [rows, wire, wire, List.map_map]
    congr 2
    refine List.map_congr_left ?_
    intro row _
    exact toJson_served row

/-- A negative zero, a text that is no number, and a text where a text is declared that is none. -/
theorem served_again_negative_zero :
    ∃ again, Json.read? (wire ([.object [("cost_price", .float ⟨true, .zero, by decide⟩),
        ("outlet", .array [.integer 7, .string "é"]), ("profit", .string "none")]].map
          (ofJson .transactions))) = some (.array again) ∧
      again.map (fun item => (ofJson .transactions item).lookup "cost_price") =
        [some (.number .zero)] := by
  let item : Json := .object [("cost_price", .float ⟨true, .zero, by decide⟩),
    ("outlet", .array [.integer 7, .string "é"]), ("profit", .string "none")]
  have readable : Json.Readable Json.maxDepth (.array [item]) := by
    refine .array ?_
    intro v hv
    rw [List.mem_singleton.mp hv]
    refine .object ?_ ?_
    · unfold Json.Sorted
      decide
    · intro m hm
      simp only [List.mem_cons, List.not_mem_nil, or_false] at hm
      rcases hm with rfl | rfl | rfl
      · exact .float _
      · refine .array ?_
        intro w hw
        simp only [List.mem_cons, List.not_mem_nil, or_false] at hw
        rcases hw with rfl | rfl
        · exact .integer (by decide) (by decide)
        · exact .string _
      · exact .string _
  obtain ⟨again, read, rows, -⟩ := served_again .transactions (Json.write (.array [item])) [item]
    (Json.read?_write_iff.mpr readable)
  have prices : again.map (fun item => (ofJson .transactions item).lookup "cost_price") =
      (again.map (ofJson .transactions)).map fun row => row.lookup "cost_price" := by
    rw [List.map_map]
    rfl
  refine ⟨again, read, ?_⟩
  rw [prices, rows]
  rfl

end Row

end ODataGateway
