/-
# ODataGateway.Proofs.Document.Declared — what is served against what is declared.

The document declares a type and a nullability for each property, but a row is made without a look
at either the nullability or the range of a type: what is served for a property depends on the item
and on whether a number is declared.  So a property that is declared never to be null is null
wherever the item has no value for it (`Row.Gives`), and a 32-bit integer is served as the number
that the item has, whatever its size and fraction.
-/
import ODataGateway.Document
import ODataGateway.Proofs.Number.Counts
import ODataGateway.Proofs.Query.NumberText
import ODataGateway.Proofs.Service.Served

namespace ODataGateway

/-! ## Declarations -/

namespace Metadata

/-- How the line of a property ends, from the quote behind the name on. -/
def declaration (t : PropertyType) (nullable : Bool) : String :=
  "\" Type=\"" ++ t.edmName ++ "\" Nullable=\"" ++ flag nullable ++ "\"/>"

/-- The line of a property declares a type and a nullability.  What stands before the declaration
holds the name, and may be anything. -/
def Declares (p : Property) (t : PropertyType) (nullable : Bool) : Prop :=
  (declaration t nullable).toList <:+ (propertyLine p).toList

/-- No declaration is the end of another one. -/
theorem eq_of_declaration_suffix {t u : PropertyType} {a b : Bool}
    (h : (declaration t a).toList <:+ (declaration u b).toList) : t = u ∧ a = b := by
  revert h
  cases t <;> cases u <;> cases a <;> cases b <;> decide

theorem declares_own (p : Property) : Declares p p.type p.nullable := by
  have line : propertyLine p =
      "        <Property Name=\"" ++ p.name ++ declaration p.type p.nullable := by
    show "        <Property Name=\"" ++ p.name ++ "\" Type=\"" ++ p.type.edmName ++
      "\" Nullable=\"" ++ flag p.nullable ++ "\"/>" = _
    simp only [declaration, String.append_assoc]
  rw [Declares, line, String.toList_append]
  exact List.suffix_append _ _

theorem declares_iff {p : Property} {t : PropertyType} {nullable : Bool} :
    Declares p t nullable ↔ p.type = t ∧ p.nullable = nullable := by
  constructor
  · intro h
    rcases List.suffix_or_suffix_of_suffix (declares_own p) h with own | own
    · exact eq_of_declaration_suffix own
    · obtain ⟨type, null⟩ := eq_of_declaration_suffix own
      exact ⟨type.symm, null.symm⟩
  · rintro ⟨rfl, rfl⟩
    exact declares_own p

end Metadata

/-! ## Numbers that are integers -/

namespace Binary64

open Magnitude (one_pos)

/-- A number is served as an integer of moderate size just if it is equal to it. -/
theorem safeInteger?_iff_rank {x : Finite} {i : Int} (small : i.natAbs ≤ maxSafeInteger) :
    (ofFinite x).safeInteger? = some i ↔ (ofFinite x).rank = (ofInt i).rank := by
  constructor
  · intro h
    rw [ofInt_safeInteger h]
    split
    · next zero =>
      show (if x.negative then -(x.magnitude.place : Int) else x.magnitude.place) = 0
      rw [zero]
      split <;> rfl
    · rfl
  · intro same
    have units : (Decimal.mk i.natAbs 0).magnitude.units = i.natAbs * Magnitude.one :=
      Decimal.units_magnitude_nat (by unfold maxSafeInteger at small; omega)
    obtain ⟨places, signs⟩ := eq_of_rank_eq same
    have own : x.magnitude.units = i.natAbs * Magnitude.one := by
      rw [← units, Magnitude.units, Magnitude.units, places]
    refine safeInteger?_eq_some_iff.mpr ⟨i.natAbs, own, small, ?_⟩
    -- at place 0 the integer is 0, and the sign does not matter
    by_cases place : (Decimal.mk i.natAbs 0).magnitude.place = 0
    · have zero : i.natAbs = 0 := by
        rw [units_eq_zero_iff.mpr place] at units
        exact (Nat.mul_eq_zero.mp units.symm).resolve_right (Nat.cast_pos.mp one_pos).ne'
      split <;> omega
    · rw [signs place]
      by_cases negative : i < 0
      · rw [if_pos (decide_eq_true negative)]
        omega
      · rw [if_neg (by simpa using negative)]
        omega

end Binary64

/-! ## Cells that hold numbers -/

namespace Cell

/-- Of the numbers just those that are not finite are served as null. -/
theorem toJson_number_eq_null_iff {y : Binary64} :
    (number y).toJson = .null ↔ y.finite? = none := by
  cases finite : y.finite? with
  | none => exact iff_of_true (toJson_not_finite finite) rfl
  | some x =>
    refine iff_of_false ?_ (Option.some_ne_none x)
    rw [Binary64.finite?_eq_some_iff.mp finite]
    cases whole : (Binary64.ofFinite x).safeInteger? with
    | some i =>
      rw [toJson_integer whole]
      exact nofun
    | none =>
      rw [toJson_float whole]
      exact nofun

/-- A number has the text of an integer of moderate size just if it is equal to it. -/
theorem write_number_iff {x : Binary64.Finite} {i : Int}
    (small : i.natAbs ≤ Binary64.maxSafeInteger) :
    Json.write (number (.ofFinite x)).toJson = Layout.integer i ↔
      (Binary64.ofFinite x).rank = (Binary64.ofInt i).rank := by
  rw [← Binary64.safeInteger?_iff_rank small]
  constructor
  · intro same
    have bounds : i.natAbs ≤ 0x1FFFFFFFFFFFFF := small
    have text : Json.write (.integer i) = Layout.integer i := by rw [Json.write]
    have readable : Json.Readable Json.maxDepth (number (.ofFinite x)).toJson := by
      apply readable_toJson
      intro v raw
      cases raw
    have value : (number (.ofFinite x)).toJson = .integer i :=
      Json.eq_of_write_eq readable (.integer (by omega) (by omega)) (same.trans text.symm)
    cases whole : (Binary64.ofFinite x).safeInteger? with
    | some j =>
      rw [toJson_integer whole] at value
      rw [Json.integer.inj value]
    | none =>
      rw [toJson_float whole] at value
      cases value
  · intro whole
    rw [toJson_integer whole, Json.write]

end Cell

/-! ## What is served -/

namespace Row

open Metadata (Declares)

/-- What an item has under a name is a value for a property: it is not null, and where a number is
declared, it is not the empty text, and its number is finite. -/
structure Gives (t : PropertyType) (v : Option Json) (w : Json) : Prop where
  found : v = some w
  notNull : w ≠ .null
  notEmpty : t ≠ .string → w ≠ .string ""
  finite : t ≠ .string → w.number.finite? ≠ none

/-- The text that is served for a property of an item. -/
def textOf (item : Json) (p : Property) : List Char :=
  Json.write (cellOf p.type (item.get? p.name)).toJson

/-- The text of a row holds one text for each property. -/
theorem write_ofJson (schema : Schema) (item : Json) : Json.write (ofJson schema item).toJson =
    '{' :: [','].intercalate
      (schema.properties.map fun p => Json.quote p.name ++ ':' :: textOf item p) ++ ['}'] := by
  show Json.write (.object (ofJson schema item).members) = _
  rw [Json.write, Json.writeMembers_eq, members_ofJson, List.map_map]
  rfl

variable {t : PropertyType} {v : Option Json} {w : Json}

/-- A cell is served as null just if there is no value for it. -/
theorem toJson_eq_null_iff : (cellOf t v).toJson = .null ↔ ¬ ∃ w, Gives t v w := by
  have made := makes_cellOf t v
  generalize cellOf t v = c at made ⊢
  cases made with
  | missing =>
    refine iff_of_true rfl ?_
    rintro ⟨w, gives⟩
    exact absurd gives.found (Option.some_ne_none w).symm
  | null =>
    refine iff_of_true rfl ?_
    rintro ⟨w, gives⟩
    exact gives.notNull (Option.some.inj gives.found).symm
  | emptyText numeric =>
    refine iff_of_true rfl ?_
    rintro ⟨w, gives⟩
    exact gives.notEmpty numeric (Option.some.inj gives.found).symm
  | @number _ w numeric notNull notEmpty =>
    rw [Cell.toJson_number_eq_null_iff]
    constructor
    · rintro infinite ⟨u, gives⟩
      obtain rfl := Option.some.inj gives.found
      exact gives.finite numeric infinite
    · intro none
      refine Classical.not_not.mp fun finite => none ⟨w, rfl, notNull, fun _ => notEmpty, ?_⟩
      exact fun _ => finite
  | text s =>
    refine iff_of_false nofun (not_not_intro ⟨.string s, rfl, nofun, ?_, ?_⟩) <;>
      exact absurd rfl
  | @raw w notNull noText =>
    refine iff_of_false notNull (not_not_intro ⟨w, rfl, notNull, ?_, ?_⟩) <;>
      exact absurd rfl

theorem textOf_eq_null_iff {item : Json} {p : Property} :
    textOf item p = "null".toList ↔ ¬ ∃ w, Gives p.type (item.get? p.name) w :=
  Json.write_eq_null_iff.trans toJson_eq_null_iff

/-- Where a number is declared, a value makes the cell of its number. -/
theorem cellOf_of_gives (numeric : t ≠ .string) (gives : Gives t v w) :
    cellOf t v = .number w.number := by
  obtain rfl := gives.found
  have made := makes_cellOf t (some w)
  generalize cellOf t (some w) = c at made ⊢
  cases made with
  | null => exact absurd rfl gives.notNull
  | emptyText numeric => exact absurd rfl (gives.notEmpty numeric)
  | number numeric notNull notEmpty => rfl
  | text s => exact absurd rfl numeric
  | raw notNull noText => exact absurd rfl numeric

/-- What a property of a numeric type is served as is the integer that the value is equal to. -/
theorem textOf_eq_integer_iff {item : Json} {p : Property} {i : Int} (numeric : p.type ≠ .string)
    (gives : Gives p.type (item.get? p.name) w) (small : i.natAbs ≤ Binary64.maxSafeInteger) :
    textOf item p = Layout.integer i ↔ w.number.rank = (Binary64.ofInt i).rank := by
  obtain ⟨x, finite⟩ := Option.ne_none_iff_exists'.mp (gives.finite numeric)
  rw [textOf, cellOf_of_gives numeric gives, Binary64.finite?_eq_some_iff.mp finite]
  exact Cell.write_number_iff small

/-- What is served follows the item and not the declared nullability or range.  In the text of a
row, a property that is declared never to be null is null just where the item has no value for it,
and a property that is declared a 32-bit integer is null or such an integer just where what the item
has for it, if anything, is a number equal to one. -/
theorem served_as_given (schema : Schema) (item : Json) :
    Json.write (ofJson schema item).toJson =
      '{' :: [','].intercalate
        (schema.properties.map fun p => Json.quote p.name ++ ':' :: textOf item p) ++ ['}'] ∧
    ∀ p ∈ schema.properties,
      (∀ t, Declares p t false →
        (textOf item p = "null".toList ↔ ¬ ∃ w, Gives t (item.get? p.name) w)) ∧
      (∀ nullable, Declares p .int32 nullable →
        ((textOf item p = "null".toList ∨
            ∃ i : Int, -2 ^ 31 ≤ i ∧ i ≤ 2 ^ 31 - 1 ∧ textOf item p = Layout.integer i) ↔
          ∀ w, Gives .int32 (item.get? p.name) w →
            ∃ i : Int, -2 ^ 31 ≤ i ∧ i ≤ 2 ^ 31 - 1 ∧
              w.number.rank = (Binary64.ofInt i).rank)) := by
  refine ⟨write_ofJson schema item, ?_⟩
  intro p _
  constructor
  · intro t declared
    obtain ⟨rfl, -⟩ := Metadata.declares_iff.mp declared
    exact textOf_eq_null_iff
  · intro nullable declared
    obtain ⟨type, -⟩ := Metadata.declares_iff.mp declared
    have numeric : p.type ≠ .string := by
      rw [type]
      exact nofun
    have small : ∀ i : Int, -2 ^ 31 ≤ i → i ≤ 2 ^ 31 - 1 → i.natAbs ≤ Binary64.maxSafeInteger := by
      intro i low high
      show i.natAbs ≤ 0x1FFFFFFFFFFFFF
      omega
    rw [← type]
    constructor
    · rintro (null | ⟨i, low, high, text⟩) w gives
      · exact absurd ⟨w, gives⟩ (textOf_eq_null_iff.mp null)
      · exact ⟨i, low, high, (textOf_eq_integer_iff numeric gives (small i low high)).mp text⟩
    · intro inRange
      by_cases given : ∃ w, Gives p.type (item.get? p.name) w
      · obtain ⟨w, gives⟩ := given
        obtain ⟨i, low, high, same⟩ := inRange w gives
        exact .inr ⟨i, low, high,
          (textOf_eq_integer_iff numeric gives (small i low high)).mpr same⟩
      · exact .inl (textOf_eq_null_iff.mpr given)

/-- An item with a key has it served, as its property is declared. -/
theorem served_as_given_key :
    textOf (.object [("id", .string " 7 ")]) ⟨"id", .int32, false⟩ ≠ "null".toList := by
  intro null
  have served := (served_as_given .transactions (.object [("id", .string " 7 ")])).2
    ⟨"id", .int32, false⟩ (by decide)
  have nothing := (served.1 .int32 (Metadata.declares_own _)).mp null
  have filled : Json.string " 7 " ≠ .string "" := fun same =>
    absurd (Json.string.inj same) (by decide)
  exact nothing ⟨.string " 7 ", rfl, nofun, fun _ => filled, fun _ => by decide +kernel⟩

/-- Declarations are not kept to.  Of an item without a key the key is served as null, and a count
that is too large by one is served as it is. -/
theorem transactions_not_as_declared :
    (⟨"id", .int32, false⟩ ∈ Schema.transactions.properties ∧
      Declares ⟨"id", .int32, false⟩ .int32 false ∧
      textOf (.object []) ⟨"id", .int32, false⟩ = "null".toList) ∧
    (⟨"guest_count", .int32, true⟩ ∈ Schema.transactions.properties ∧
      Declares ⟨"guest_count", .int32, true⟩ .int32 true ∧
      textOf (.object [("guest_count", .integer 2147483648)]) ⟨"guest_count", .int32, true⟩ =
        "2147483648".toList ∧
      ∀ i : Int, -2 ^ 31 ≤ i → i ≤ 2 ^ 31 - 1 →
        textOf (.object [("guest_count", .integer 2147483648)]) ⟨"guest_count", .int32, true⟩ ≠
          Layout.integer i) := by
  have count : textOf (.object [("guest_count", .integer 2147483648)])
      ⟨"guest_count", .int32, true⟩ = "2147483648".toList := by decide +kernel
  refine ⟨⟨by decide, Metadata.declares_own _, by decide +kernel⟩, by decide,
    Metadata.declares_own _, count, ?_⟩
  intro i low high same
  have text : Json.write (.integer 2147483648) = Json.write (.integer i) := by
    rw [count] at same
    rw [Json.write, Json.write, ← same]
    decide +kernel
  have value := Json.eq_of_write_eq (.integer (by omega) (by omega))
    (.integer (by omega) (by omega)) text
  rw [← Json.integer.inj value] at high
  omega

end Row

end ODataGateway
