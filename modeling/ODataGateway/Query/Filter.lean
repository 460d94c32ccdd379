/-
# ODataGateway.Query.Filter — the condition of a query: a property equal to a constant.

A filter is written `name eq literal`, with blanks between the three parts and around the whole.
A literal takes up the whole rest of its text.  It is a text in single quotes with no quote inside,
a number with digits on both sides of an optional point, or the ten characters of a date; the
first character tells the first from the others, and a date has a sign in the middle, so no text is
two of them.

A text literal asks for the cell's text, a number literal for the cell's number, and a date literal
for a cell whose text starts with the date.  Null cells meet no filter.
-/
import ODataGateway.Number.Binary64
import ODataGateway.Query.Cursor
import ODataGateway.Row

namespace ODataGateway

/-! ## Literals -/

/-- A constant in a filter. -/
inductive Literal where
  | text (s : String)
  | number (x : Binary64)
  | date (s : String)
deriving DecidableEq

namespace Literal

/-- Reads a whole text as `[+-]? d+ (. d+)?`. -/
def numeral? (s : List Char) : Option Numeral :=
  let (negative, r) := Numeral.readSign s
  let whole := r.takeWhile Char.isDigit
  if whole.isEmpty then none
  else
    match r.dropWhile Char.isDigit with
    | [] => some ⟨negative, Numeral.digitsValue whole, 0⟩
    | '.' :: fraction =>
      if !fraction.isEmpty && fraction.all Char.isDigit then
        some ⟨negative, Numeral.digitsValue (whole ++ fraction), -fraction.length⟩
      else none
    | _ => none

/-- Whether a text has the form `dddd-dd-dd`; the calendar is not consulted. -/
def isDate : List Char → Bool
  | [a, b, c, d, '-', e, f, '-', g, h] => [a, b, c, d, e, f, g, h].all Char.isDigit
  | _ => false

/-- The literal that a whole text without quotes is. -/
def unquoted? (s : List Char) : Option Literal :=
  match numeral? s with
  | some n => some (number (.ofNumeral n))
  | none => if isDate s then some (date (String.ofList s)) else none

/-- Reads the rest of the text as a literal.  The cursor ends up at the end either way. -/
def read (c : Cursor) : Except Diagnostic Literal × Cursor :=
  match c.readQuoted with
  | (some s, c') => (.ok (text s), c')
  | (none, _) =>
    match unquoted? c.rest with
    | some l => (.ok l, c.toEnd)
    | none => (.error (c.toEnd.diagnose .literal c.position), c.toEnd)

end Literal

/-- A condition on rows: the cell under a name compared with a literal. -/
structure Filter where
  property : String
  operand : Literal
deriving DecidableEq

namespace Filter

/-! ## Reading -/

/-- Reads a filter, or says what is wrong with it.  Positions are those in the trimmed text. -/
def parse (s : String) : Except Diagnostic Filter := do
  let c := Cursor.start (Text.trimmed s)
  let (property, c) ← c.readWord
  let c ← c.expectBlanks
  unless Keyword.eq.standsAt c do
    throw (c.diagnose .equality c.position)
  let c ← (c.advance Keyword.eq.word.length).expectBlanks
  let operand ← (Literal.read c).1
  return ⟨property, operand⟩

/-- Reads a filter, or gives none. -/
def parse? (s : String) : Option Filter := (parse s).toOption

/-! ## Meeting -/

/-- Whether a cell meets a literal. -/
def meets (l : Literal) (cell : Cell) : Bool :=
  match l with
  | .text s => cell.text? == some s
  | .number x => cell.number?.any (·.same x)
  | .date s => cell.text?.any fun t => s.toList.isPrefixOf t.toList

/-- Whether a row meets the filter. -/
def accepts (f : Filter) (row : Row) : Bool := meets f.operand (row.cell f.property)

end Filter

end ODataGateway
