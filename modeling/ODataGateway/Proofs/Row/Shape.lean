/-
# ODataGateway.Proofs.Row.Shape — rows have the shape that their schema declares.

There are six ways in which a cell comes about from what an item has under a name (`Row.Makes`),
and all that is said of cells here follows from them.  A row has one cell for each declared
property, of the declared kind, and null just where the item has no value.  What the item has under
other names does not reach the row, and values that are equal make cells that are equal
(`Row.ofJson_keeps_schema`).
-/
import Mathlib.Data.List.Forall2
import Mathlib.Data.List.Nodup
import ODataGateway.Row

namespace ODataGateway

/-! ## Equal values -/

/-- Two JSON values are the same to a reader.  Floats are compared as numbers, so that the two zeros
are the same; an integer and a float never are. -/
inductive Json.Alike : Json → Json → Prop
  | null : Alike .null .null
  | bool (b : Bool) : Alike (.bool b) (.bool b)
  | integer (i : Int) : Alike (.integer i) (.integer i)
  | float {x y : Binary64.Finite}
      (same : (Binary64.ofFinite x).rank = (Binary64.ofFinite y).rank) :
      Alike (.float x) (.float y)
  | string (s : String) : Alike (.string s) (.string s)
  | array {vs ws : List Json} (length : vs.length = ws.length)
      (items : ∀ p ∈ vs.zip ws, Alike p.1 p.2) : Alike (.array vs) (.array ws)
  | object {ms ns : List (String × Json)} (names : ms.map Prod.fst = ns.map Prod.fst)
      (values : ∀ p ∈ ms.zip ns, Alike p.1.2 p.2.2) : Alike (.object ms) (.object ns)

/-- Two cells are the same to a reader.  Numbers are compared by rank: the two zeros are the same,
and so is not-a-number with itself. -/
inductive Cell.Alike : Cell → Cell → Prop
  | null : Alike .null .null
  | number {x y : Binary64} (same : x.rank = y.rank) : Alike (.number x) (.number y)
  | text (s : String) : Alike (.text s) (.text s)
  | raw {v w : Json} (same : v.Alike w) : Alike (.raw v) (.raw w)

/-- Two rows have the same names in the same order, and the same cells under them. -/
def Row.Alike : Row → Row → Prop := List.Forall₂ fun c d => c.1 = d.1 ∧ c.2.Alike d.2

/-- A property of the name is declared as numeric. -/
def Schema.IsNumeric (schema : Schema) (name : String) : Prop :=
  ∃ p ∈ schema.properties, p.name = name ∧ p.type ≠ .string

namespace Row

/-! ## How cells come about -/

/-- The cell that a property gets from what an item has under its name. -/
inductive Makes : PropertyType → Option Json → Cell → Prop
  | missing {t : PropertyType} : Makes t none .null
  | null {t : PropertyType} : Makes t (some .null) .null
  | emptyText {t : PropertyType} (numeric : t ≠ .string) : Makes t (some (.string "")) .null
  | number {t : PropertyType} {v : Json} (numeric : t ≠ .string) (notNull : v ≠ .null)
      (notEmpty : v ≠ .string "") : Makes t (some v) (.number v.number)
  | text (s : String) : Makes .string (some (.string s)) (.text s)
  | raw {v : Json} (notNull : v ≠ .null) (noText : ∀ s, v ≠ .string s) :
      Makes .string (some v) (.raw v)

theorem makes_numericCell {t : PropertyType} (numeric : t ≠ .string) (v : Option Json) :
    Makes t v (numericCell v) := by
  unfold numericCell
  split
  · exact .missing
  · exact .null
  · next s =>
    split
    · next empty =>
      obtain rfl : s = "" := String.isEmpty_iff.mp empty
      exact .emptyText numeric
    · next filled =>
      apply Makes.number (v := .string s) numeric
      · exact nofun
      · rintro ⟨⟩
        exact filled rfl
  · next w notNull noText =>
    apply Makes.number numeric
    · rintro rfl
      exact notNull rfl
    · rintro rfl
      exact noText "" rfl

theorem makes_stringCell (v : Option Json) : Makes .string v (stringCell v) := by
  unfold stringCell
  split
  · exact .missing
  · exact .null
  · next s => exact .text s
  · next w notNull noText =>
    apply Makes.raw
    · rintro rfl
      exact notNull rfl
    · rintro s rfl
      exact noText s rfl

theorem cellOf_numeric {t : PropertyType} (numeric : t ≠ .string) (v : Option Json) :
    cellOf t v = numericCell v := by
  cases t with
  | int32 => rfl
  | double => rfl
  | string => exact absurd rfl numeric

/-- A cell comes about in one of these ways. -/
theorem makes_cellOf (t : PropertyType) (v : Option Json) : Makes t v (cellOf t v) := by
  by_cases text : t = .string
  · subst text
    exact makes_stringCell v
  · rw [cellOf_numeric text]
    exact makes_numericCell text v

/-! ## What is promised of a cell -/

/-- A cell is of the kind that is declared, null just where there is no value, and otherwise a
number, or what the item has there. -/
structure Fits (t : PropertyType) (v : Option Json) (c : Cell) : Prop where
  kind_numeric : t ≠ .string → c = .null ∨ ∃ x, c = .number x
  kind_string : t = .string →
    c = .null ∨ (∃ s, c = .text s) ∨ ∃ w, c = .raw w ∧ w ≠ .null ∧ ∀ s, w ≠ .string s
  null_numeric : t ≠ .string → (c = .null ↔ v = none ∨ v = some .null ∨ v = some (.string ""))
  null_string : t = .string → (c = .null ↔ v = none ∨ v = some .null)
  text_kept : ∀ s, c = .text s → v = some (.string s)
  raw_kept : ∀ w, c = .raw w → v = some w

theorem Makes.fits {t : PropertyType} {v : Option Json} {c : Cell} (h : Makes t v c) :
    Fits t v c := by
  cases h with
  | missing => constructor <;> simp
  | null => constructor <;> simp
  | emptyText numeric => constructor <;> simp [numeric]
  | number numeric notNull notEmpty => constructor <;> simp [numeric, notNull, notEmpty]
  | text s => constructor <;> simp
  | raw notNull noText => constructor <;> simp [notNull, noText]

/-- What is kept as it is is no text. -/
theorem Makes.noText {t : PropertyType} {v : Option Json} {w : Json} (h : Makes t v (.raw w)) :
    ∀ s, w ≠ .string s := by
  cases h with
  | raw notNull noText => exact noText

/-! ## Equal values make equal cells -/

theorem alike_numericCell {v w : Json} (h : v.Alike w) :
    (numericCell (some v)).Alike (numericCell (some w)) := by
  cases h with
  | null => exact .null
  | bool b => exact .number rfl
  | integer i => exact .number rfl
  | float same => exact .number same
  | string s =>
    show (if s.isEmpty then Cell.null else _).Alike (if s.isEmpty then Cell.null else _)
    split
    · exact .null
    · exact .number rfl
  | array length items => exact .number rfl
  | object names values => exact .number rfl

theorem alike_stringCell {v w : Json} (h : v.Alike w) :
    (stringCell (some v)).Alike (stringCell (some w)) := by
  have same := h
  cases h with
  | null => exact .null
  | string s => exact .text s
  | bool b => exact .raw same
  | integer i => exact .raw same
  | float _ => exact .raw same
  | array length items => exact .raw same
  | object names values => exact .raw same

/-- Of equal values, or of none, a property gets equal cells. -/
theorem alike_cellOf (t : PropertyType) {v w : Option Json} (h : Option.Rel Json.Alike v w) :
    (cellOf t v).Alike (cellOf t w) := by
  cases h with
  | none => cases t <;> exact .null
  | some same =>
    by_cases text : t = .string
    · subst text
      exact alike_stringCell same
    · rw [cellOf_numeric text, cellOf_numeric text]
      exact alike_numericCell same

/-! ## Rows -/

/-- Every property of a schema is found under its name. -/
theorem lookup_properties {α : Type} {ps : List Property} (distinct : (ps.map Property.name).Nodup)
    (f : Property → α) {p : Property} (hp : p ∈ ps) :
    (ps.map fun p => (p.name, f p)).lookup p.name = some (f p) := by
  induction ps with
  | nil => exact nomatch hp
  | cons q rest ih =>
    obtain ⟨fresh, others⟩ := List.nodup_cons.mp distinct
    rcases List.mem_cons.mp hp with rfl | hp
    · exact List.lookup_cons_self
    · have other : p.name ≠ q.name := by
        intro same
        exact fresh (same ▸ List.mem_map_of_mem hp)
      rw [List.map_cons, List.lookup_cons, beq_false_of_ne other]
      exact ih others hp

/-- Lists with the same keys in the same order have related values under a key. -/
theorem rel_lookup {α β : Type} {R : String → α → β → Prop} {xs : List (String × α)}
    {ys : List (String × β)}
    (h : List.Forall₂ (fun x y => x.1 = y.1 ∧ R x.1 x.2 y.2) xs ys) (key : String) :
    Option.Rel (R key) (xs.lookup key) (ys.lookup key) := by
  induction h with
  | nil => exact .none
  | @cons x y xs ys first _ ih =>
    obtain ⟨k, a⟩ := x
    obtain ⟨k', b⟩ := y
    obtain ⟨rfl, values⟩ : k = k' ∧ R k a b := first
    by_cases same : key = k
    · subst same
      rw [List.lookup_cons_self, List.lookup_cons_self]
      exact .some values
    · rw [List.lookup_cons, List.lookup_cons, beq_false_of_ne same]
      exact ih

variable {schema : Schema} {item other : Json}

/-- The cell that a row has for a property. -/
theorem lookup_ofJson {p : Property} (hp : p ∈ schema.properties) :
    (ofJson schema item).lookup p.name = some (cellOf p.type (item.get? p.name)) :=
  lookup_properties schema.distinct (fun p => cellOf p.type (item.get? p.name)) hp

/-- What a row has under a name was made for the property of the name. -/
theorem makes_of_lookup {name : String} {c : Cell}
    (found : (ofJson schema item).lookup name = some c) :
    ∃ p ∈ schema.properties, p.name = name ∧ Makes p.type (item.get? name) c := by
  obtain ⟨before, after, split, -⟩ := List.lookup_eq_some_iff.mp found
  have member : (name, c) ∈ ofJson schema item :=
    split ▸ List.mem_append_right _ (List.mem_cons_self ..)
  obtain ⟨p, hp, same⟩ := List.mem_map.mp member
  obtain ⟨rfl, rfl⟩ := Prod.mk.inj same
  exact ⟨p, hp, rfl, makes_cellOf p.type (item.get? p.name)⟩

/-- A property has a numeric type if one of its name has. -/
theorem type_ne_of_isNumeric {p : Property} (h : schema.IsNumeric p.name)
    (hp : p ∈ schema.properties) : p.type ≠ .string := by
  obtain ⟨p', hp', name, numeric⟩ := h
  rwa [← List.inj_on_of_nodup_map schema.distinct hp' hp name]

/-- An item that is no object has no values. -/
theorem null_of_not_object (h : ∀ ms, item ≠ .object ms) :
    ∀ c ∈ ofJson schema item, c.2 = .null := by
  have nothing : ∀ name, item.get? name = none := by
    intro name
    cases item with
    | object ms => exact absurd rfl (h ms)
    | _ => rfl
  intro c hc
  obtain ⟨p, -, rfl⟩ := List.mem_map.mp hc
  show cellOf p.type (item.get? p.name) = .null
  rw [nothing]
  cases p.type <;> rfl

/-- Only what stands under declared names reaches a row. -/
theorem ofJson_congr (h : ∀ p ∈ schema.properties, item.get? p.name = other.get? p.name) :
    ofJson schema item = ofJson schema other := by
  apply List.map_congr_left
  intro p hp
  rw [h p hp]

theorem alike_ofJson
    (h : ∀ p ∈ schema.properties, Option.Rel Json.Alike (item.get? p.name) (other.get? p.name)) :
    Alike (ofJson schema item) (ofJson schema other) := by
  rw [Alike, ofJson, ofJson, List.forall₂_map_left_iff, List.forall₂_map_right_iff,
    List.forall₂_same]
  intro p hp
  exact ⟨rfl, alike_cellOf p.type (h p hp)⟩

/-- Rows keep to their schema.  A row has the declared names in their order, each once, and under
each a cell that fits its declaration; an item that is no object makes nulls.  Items that have the
same under the declared names make the same row, and items that have equal values there make equal
rows.  The rows of a list are as many as its items, and stand in their order. -/
theorem ofJson_keeps_schema (schema : Schema) (item : Json) :
    ((ofJson schema item).map Prod.fst = schema.names ∧ schema.names.Nodup) ∧
    (∀ p ∈ schema.properties, ∃ c, (ofJson schema item).lookup p.name = some c ∧
      Fits p.type (item.get? p.name) c) ∧
    ((∀ ms, item ≠ .object ms) → ∀ c ∈ ofJson schema item, c.2 = .null) ∧
    (∀ other : Json, (∀ p ∈ schema.properties, item.get? p.name = other.get? p.name) →
      ofJson schema item = ofJson schema other) ∧
    (∀ other : Json,
      (∀ p ∈ schema.properties, Option.Rel Json.Alike (item.get? p.name) (other.get? p.name)) →
      Alike (ofJson schema item) (ofJson schema other)) ∧
    (∀ items : List Json, (items.map (ofJson schema)).length = items.length ∧
      ∀ i : Nat, (items.map (ofJson schema))[i]? = items[i]?.map (ofJson schema)) := by
  refine ⟨⟨names_ofJson schema item, schema.distinct⟩, ?_, null_of_not_object,
    fun other => ofJson_congr, fun other => alike_ofJson, ?_⟩
  · intro p hp
    exact ⟨_, lookup_ofJson hp, (makes_cellOf p.type (item.get? p.name)).fits⟩
  · intro items
    exact ⟨List.length_map _, fun i => List.getElem?_map ..⟩

/-- The two zeros make equal rows, whatever else the items hold. -/
theorem ofJson_keeps_schema_zeros :
    Alike
      (ofJson ⟨"Sale", "Sales", "price", [⟨"price", .double, true⟩, ⟨"outlet", .string, true⟩],
        by decide⟩
        (.object [("note", .string "new"), ("price", .float ⟨true, .zero, by decide⟩)]))
      (ofJson ⟨"Sale", "Sales", "price", [⟨"price", .double, true⟩, ⟨"outlet", .string, true⟩],
        by decide⟩
        (.object [("price", .float ⟨false, .zero, by decide⟩)])) := by
  apply (ofJson_keeps_schema _ _).2.2.2.2.1
  intro p hp
  rcases List.mem_pair.mp hp with rfl | rfl
  · exact .some (.float rfl)
  · exact .none

end Row

end ODataGateway
