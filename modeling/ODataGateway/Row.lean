/-
# ODataGateway.Row — items of the source made to fit a schema.

A cell has three readings: a number (`Cell.number?`), a text (`Cell.text?`) and the JSON that is
served for it (`Cell.toJson`).  Null has neither number nor text.  The text of a number is not its
wire form: text never carries an exponent, and the wire has no form for the numbers that are not
finite and writes null.

A row has one cell for each property of its schema, in order of declaration, whatever the item
held: keys that are not declared are dropped, and missing ones give null.  Nothing is refused.  A
numeric property holds null or a number, which may be not-a-number; a string property holds null, a
text, or the item's value untouched where that is no string.
-/
import ODataGateway.Json.Basic
import ODataGateway.Schema

namespace ODataGateway

/-! ## Cells -/

/-- The value of a property in a row.  A raw cell holds a JSON value that was not of the declared
type. -/
inductive Cell where
  | null
  | number (x : Binary64)
  | text (s : String)
  | raw (v : Json)

/-- The number in a JSON value: its own, that of its text, 1 and 0 for the truth values. -/
def Json.number : Json → Binary64
  | .integer i => .ofInt i
  | .float x => .ofFinite x
  | .string s => .ofText s
  | .bool true => .ofInt 1
  | .bool false => .ofInt 0
  | .null | .array _ | .object _ => .nan

namespace Cell

/-- Whether a cell is null. -/
def isNull : Cell → Bool
  | null => true
  | _ => false

/-- The cell as a number; a cell that holds none is not-a-number, and null has none at all. -/
def number? : Cell → Option Binary64
  | null => none
  | number x => some x
  | text s => some (.ofText s)
  | raw v => some v.number

/-- The cell as shown: numbers as plain text, texts and raw strings bare, other raw values as
JSON. -/
def display : Cell → String
  | null => "null"
  | number x => String.ofList x.text
  | text s => s
  | raw (.string s) => s
  | raw v => v.text

/-- The cell as a text; null has none. -/
def text? : Cell → Option String
  | null => none
  | c => some c.display

/-- The JSON value that is served for a cell.  Whole numbers up to 2^53 - 1 in size are served as
integers, which drops the sign of zero, and numbers that are not finite as null. -/
def toJson : Cell → Json
  | null => .null
  | number x =>
    match x.safeInteger?, x.finite? with
    | some i, _ => .integer i
    | none, some f => .float f
    | none, none => .null
  | text s => .string s
  | raw v => v

end Cell

/-- A row: named cells in the order of the schema. -/
abbrev Row := List (String × Cell)

namespace Row

/-! ## Cells from JSON -/

/-- The cell of a numeric property.  Nothing, null and the empty string all are null. -/
def numericCell : Option Json → Cell
  | none | some .null => .null
  | some (.string s) => if s.isEmpty then .null else .number (.ofText s)
  | some v => .number v.number

/-- The cell of a string property. -/
def stringCell : Option Json → Cell
  | none | some .null => .null
  | some (.string s) => .text s
  | some v => .raw v

/-- The cell of a property of the given type. -/
def cellOf (t : PropertyType) (v : Option Json) : Cell :=
  if t.isNumeric then numericCell v else stringCell v

/-! ## Rows -/

/-- The row of one item. -/
def ofJson (schema : Schema) (item : Json) : Row :=
  schema.properties.map fun p => (p.name, cellOf p.type (item.get? p.name))

/-- The cell under a name; a name that the row does not have reads as null. -/
def cell (row : Row) (name : String) : Cell := (row.lookup name).getD .null

/-- The JSON object that is served for a row. -/
def toJson (row : Row) : Json := .object (row.map fun c => (c.1, c.2.toJson))

/-- Every row has the names of its schema. -/
@[simp]
theorem names_ofJson (schema : Schema) (item : Json) :
    (ofJson schema item).map Prod.fst = schema.names := by
  simp [ofJson, Schema.names]

end Row

end ODataGateway
