/-
# ODataGateway.Query.Cursor — a place in a text that only moves forward, and what is met there.

A cursor is a text cut in two: what was passed and what remains.  Both halves are kept whole, so a
cursor cannot stand outside its text, and going back is holding on to an earlier cursor.  Every
operation that moves takes characters off the front of what remains and puts them at the end of
what was passed; the text itself never changes (`text_advance`, `text_takeRun`).

What was wrong with a text is told by a diagnostic, which names its cause and the span of characters
it is about.  Positions count characters from zero; the text is that of the span with one character
more, so that a cause found between two characters still shows the one it stumbled over.

A keyword stands at a cursor when its characters come next and what comes after them is allowed:
the end of the text, if the keyword may end it, or a further character, which the keyword may
require to be blank.
-/
import ODataGateway.Text.Basic

namespace ODataGateway

/-! ## Diagnostics -/

/-- What a reader of query options missed or refused. -/
inductive Fault where
  | fieldName
  | token
  | blank
  | equality
  | literal
  /-- A cause in the words of the caller. -/
  | other (message : String)
deriving DecidableEq, Repr

/-- The wording of a fault. -/
def Fault.message : Fault → String
  | fieldName => "Expected a field name"
  | token => "Expected a token"
  | blank => "Expected whitespace"
  | equality => "Expected 'eq'"
  | literal => "Invalid literal"
  | other message => message

/-- A fault with the span it is about. -/
structure Diagnostic where
  fault : Fault
  start : Nat
  stop : Nat
  /-- The characters from `start` up to and with the one at `stop`. -/
  text : String
deriving DecidableEq, Repr

namespace Diagnostic

/-- The wording of the fault. -/
def message (d : Diagnostic) : String := d.fault.message

/-- The diagnostic in full, on two lines. -/
def display (d : Diagnostic) : String :=
  s!"ParseError: {d.message}\n  at [{d.start}:{d.stop}] -> '{d.text}'"

end Diagnostic

/-! ## Cursors -/

/-- A place in a text: the characters before it and the characters after it. -/
structure Cursor where
  passed : List Char
  rest : List Char
deriving DecidableEq, Repr

namespace Cursor

/-- The cursor at the start of a text. -/
def start (s : String) : Cursor := ⟨[], s.toList⟩

/-! ## Looking -/

/-- The whole text. -/
def text (c : Cursor) : List Char := c.passed ++ c.rest

/-- How many characters were passed. -/
def position (c : Cursor) : Nat := c.passed.length

/-- How many characters the text has. -/
def length (c : Cursor) : Nat := c.passed.length + c.rest.length

/-- Whether nothing remains. -/
def atEnd (c : Cursor) : Bool := c.rest.isEmpty

/-- The next character; at the end the null character stands in for it. -/
def current (c : Cursor) : Char := c.rest.headD '\x00'

/-- The characters from `start` to before `stop`, as far as the text has them. -/
def slice (c : Cursor) (start stop : Nat) : String :=
  String.ofList ((c.text.take stop).drop start)

/-- The characters from `start` to before the cursor. -/
def since (c : Cursor) (start : Nat) : String := c.slice start c.position

/-- The characters that remain. -/
def remaining (c : Cursor) : String := String.ofList c.rest

/-- The diagnostic of a fault about the span from `start` to the cursor. -/
def diagnose (c : Cursor) (fault : Fault) (start : Nat) : Diagnostic :=
  ⟨fault, start, c.position, c.slice start (c.position + 1)⟩

/-! ## Moving -/

/-- Moves over `n` characters, or to the end if fewer remain. -/
def advance (c : Cursor) (n : Nat) : Cursor := ⟨c.passed ++ c.rest.take n, c.rest.drop n⟩

/-- Moves over one character, if there is one. -/
def next (c : Cursor) : Cursor := c.advance 1

/-- Moves to the end. -/
def toEnd (c : Cursor) : Cursor := ⟨c.text, []⟩

/-- Moves over the longest run of characters of a class, and returns the run. -/
def takeRun (c : Cursor) (ofClass : Char → Bool) : List Char × Cursor :=
  let run := c.rest.takeWhile ofClass
  (run, ⟨c.passed ++ run, c.rest.dropWhile ofClass⟩)

/-- Moves over the blanks. -/
def skipBlanks (c : Cursor) : Cursor := (c.takeRun Text.isBlank).2

/-! ## Reading -/

/-- The characters of field names: the letters and digits of ASCII and the underscore. -/
def isWordChar (c : Char) : Bool := c.isAlphanum || c = '_'

/-- Reads a run of characters of a class, at least one. -/
def readRun (c : Cursor) (ofClass : Char → Bool) (fault : Fault) :
    Except Diagnostic (String × Cursor) :=
  match c.takeRun ofClass with
  | ([], _) => .error (c.diagnose fault c.position)
  | (run, c') => .ok (String.ofList run, c')

/-- Reads a field name. -/
def readWord (c : Cursor) : Except Diagnostic (String × Cursor) :=
  c.readRun isWordChar .fieldName

/-- Reads a token: a run of characters that are not blank. -/
def readToken (c : Cursor) : Except Diagnostic (String × Cursor) :=
  c.readRun (fun ch => !Text.isBlank ch) .token

/-- Moves over the blanks, of which there must be one at least. -/
def expectBlanks (c : Cursor) : Except Diagnostic Cursor :=
  (c.readRun Text.isBlank .blank).map Prod.snd

/-- Reads a text in single quotes that ends the whole text.  The text may not hold a quote.  The
cursor is returned where the reading stopped, with or without a result. -/
def readQuoted (c : Cursor) : Option String × Cursor :=
  if c.current ≠ '\'' then (none, c)
  else
    let (run, c) := c.next.takeRun (· ≠ '\'')
    if c.atEnd then (none, c)
    else if c.next.atEnd then (some (String.ofList run), c.next)
    else (none, c.next)

/-! ## The text stays -/

@[simp]
theorem text_start (s : String) : (start s).text = s.toList := rfl

@[simp]
theorem text_advance (c : Cursor) (n : Nat) : (c.advance n).text = c.text := by
  simp [advance, text]

@[simp]
theorem text_next (c : Cursor) : c.next.text = c.text := text_advance c 1

@[simp]
theorem text_toEnd (c : Cursor) : c.toEnd.text = c.text := by simp [toEnd, text]

@[simp]
theorem text_takeRun (c : Cursor) (ofClass : Char → Bool) :
    (c.takeRun ofClass).2.text = c.text := by
  simp [takeRun, text]

@[simp]
theorem text_skipBlanks (c : Cursor) : c.skipBlanks.text = c.text := text_takeRun ..

theorem position_le_length (c : Cursor) : c.position ≤ c.length := Nat.le_add_right ..

end Cursor

/-! ## Keywords -/

/-- A word with the conditions on what follows it. -/
structure Keyword where
  word : List Char
  /-- Whether a character that follows must be blank. -/
  blankAfter : Bool := false
  /-- Whether the text may end after the word. -/
  mayEnd : Bool := false
deriving DecidableEq, Repr

namespace Keyword

/-- Whether the keyword stands at the cursor. -/
def standsAt (k : Keyword) (c : Cursor) : Bool :=
  k.word.isPrefixOf c.rest &&
    match c.rest.drop k.word.length with
    | [] => k.mayEnd
    | d :: _ => !k.blankAfter || Text.isBlank d

/-- Whether a word of this length would reach the end of the text. -/
def reachesEnd (k : Keyword) (c : Cursor) : Bool := c.length ≤ c.position + k.word.length

/-- The comparison of a filter: never at the end, and blank after it. -/
def eq : Keyword := ⟨['e', 'q'], true, false⟩

/-- The direction of an order key: at the end, or blank after it. -/
def desc : Keyword := ⟨['d', 'e', 's', 'c'], true, true⟩

end Keyword

end ODataGateway
