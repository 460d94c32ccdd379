/-
# ODataGateway.Query.Options — the system query options of a request, and what order and paging mean.

Every option is kept as text; what it means is settled when a plan is made, so that a malformed
option only spoils its own stage.  Of a repeated option the first value counts.

An order key is the first token of its text; a second token `desc` turns the direction, and
anything else after the name counts for nothing.  Cells sort by kind first: numbers before texts
before raw values.  Numbers go by their total order, texts by code point, raw values by their JSON
text.  The direction turns all of this round, but not the place of null, which is last either way.

How many rows to pass over and how many to give are read from text as numbers and cut to their whole
part; what is not positive counts as 0, and what is beyond 64 bits as the greatest count.  A blank
text is no count at all.  The two differ on a text that is no number: `skip` passes over nothing,
and `top` gives no limit.
-/
import ODataGateway.Json.Basic
import ODataGateway.Number.Binary64
import ODataGateway.Query.Cursor
import ODataGateway.Row

namespace ODataGateway

/-! ## Order keys -/

/-- Which end of the order comes first. -/
inductive Direction where
  | ascending
  | descending
deriving DecidableEq, Repr

/-- A property to sort by. -/
structure OrderKey where
  property : String
  direction : Direction
deriving DecidableEq, Repr

/-- Reads an order key; a text without a token gives none. -/
def OrderKey.parse? (s : String) : Option OrderKey :=
  match (Cursor.start (Text.trimmed s)).readToken with
  | .error _ => none
  | .ok (property, c) =>
    some ⟨property, if Keyword.desc.standsAt c.skipBlanks then .descending else .ascending⟩

/-! ## Comparing -/

/-- An ordering as seen in a direction. -/
def Direction.apply : Direction → Ordering → Ordering
  | ascending, o => o
  | descending, o => o.swap

namespace Cell

/-- The place of a cell's kind in the order. -/
def kindRank : Cell → Nat
  | null => 0
  | number _ => 1
  | text _ => 2
  | raw _ => 3

/-- Compares two cells, null apart, from low to high. -/
def compareValues : Cell → Cell → Ordering
  | number x, number y => x.order y
  | text s, text t => compare s t
  | raw v, raw w => compare v.text w.text
  | a, b => compare a.kindRank b.kindRank

/-- Compares two cells in a direction.  Null comes after everything else in both. -/
def compareIn (d : Direction) : Cell → Cell → Ordering
  | null, null => .eq
  | null, _ => .gt
  | _, null => .lt
  | a, b => d.apply (compareValues a b)

end Cell

/-- Compares two rows by the cell under the key's name. -/
def OrderKey.compareRows (k : OrderKey) (r s : Row) : Ordering :=
  Cell.compareIn k.direction (r.cell k.property) (s.cell k.property)

end ODataGateway

namespace ODataGateway.Paging

/-! ## Counts -/

/-- The number in an option, unless the option is absent or blank. -/
def number? (raw : Option String) : Option Binary64 :=
  match raw with
  | none => none
  | some s => if Text.allBlank s then none else some (.ofText s)

theorem number?_of_allBlank {s : String} (blank : Text.allBlank s = true) :
    number? (some s) = none := if_pos blank

theorem number?_of_given {s : String} (given : Text.allBlank s = false) :
    number? (some s) = some (.ofText s) := if_neg (Bool.eq_false_iff.mp given)

/-- How many rows to pass over. -/
def skip (raw : Option String) : Option Nat :=
  (number? raw).map fun x => x.count?.getD 0

/-- How many rows to give at most. -/
def top (raw : Option String) : Option Nat :=
  (number? raw).bind Binary64.count?

end ODataGateway.Paging

namespace ODataGateway

/-! ## The five options -/

/-- The system query options that the service knows. -/
inductive SystemOption where
  | filter
  | orderBy
  | top
  | skip
  | count
deriving DecidableEq, Repr

namespace SystemOption

/-- All options, in the order of a positional list of them. -/
def all : List SystemOption := [filter, orderBy, top, skip, count]

/-- The name of an option in a query string. -/
def name : SystemOption → String
  | filter => "$filter"
  | orderBy => "$orderby"
  | top => "$top"
  | skip => "$skip"
  | count => "$count"

/-- The option of a name; names differ by case. -/
def ofName? (name : String) : Option SystemOption := all.find? (·.name == name)

end SystemOption

/-- The options of a request; absent and empty are not the same. -/
structure Options where
  filter : Option String := none
  orderBy : Option String := none
  top : Option String := none
  skip : Option String := none
  count : Option String := none
deriving DecidableEq, Repr

namespace Options

/-- No options. -/
def empty : Options := {}

/-- The text of an option. -/
def get (o : Options) : SystemOption → Option String
  | .filter => o.filter
  | .orderBy => o.orderBy
  | .top => o.top
  | .skip => o.skip
  | .count => o.count

/-- The options with one of them replaced. -/
def put (o : Options) (k : SystemOption) (value : Option String) : Options :=
  match k with
  | .filter => { o with filter := value }
  | .orderBy => { o with orderBy := value }
  | .top => { o with top := value }
  | .skip => { o with skip := value }
  | .count => { o with count := value }

@[simp]
theorem get_put (o : Options) (k : SystemOption) (value : Option String) (j : SystemOption) :
    (o.put k value).get j = if j = k then value else o.get j := by
  cases k <;> cases j <;> rfl

/-- Whether the count of the answer is asked for; nothing but the exact word asks for it. -/
def wantsCount (o : Options) : Bool := o.count == some "true"

/-! ## From pairs -/

/-- Takes one pair into account.  Unknown names are passed over, and so is a repeated option. -/
def addPair (o : Options) (pair : String × String) : Options :=
  match SystemOption.ofName? pair.1 with
  | some k => if (o.get k).isNone then o.put k (some pair.2) else o
  | none => o

/-- The options in a list of pairs. -/
def ofPairs (pairs : List (String × String)) : Options := pairs.foldl addPair empty

/-! ## From JSON -/

/-- An optional text: null is absent. -/
def optionalText : Json → Except Json.Mismatch (Option String)
  | .null => .ok none
  | .string s => .ok (some s)
  | v => .error (.kind v "a string")

/-- Takes one member into account; unknown names are passed over. -/
def addMember (o : Options) (member : String × Json) : Except Json.Mismatch Options :=
  match SystemOption.ofName? member.1 with
  | some k => (optionalText member.2).map (o.put k)
  | none => .ok o

/-- Takes the elements of a list for the options in their order. -/
def addElements (o : Options) :
    List SystemOption → List Json → Except Json.Mismatch (Options × List Json)
  | [], rest => .ok (o, rest)
  | k :: ks, v :: vs => do addElements (o.put k (← optionalText v)) ks vs
  | k :: ks, [] =>
    .error (.tooShort (SystemOption.all.length - (k :: ks).length)
      "struct QueryOptions with 5 elements")

/-- The options in a JSON value: an object with their names as keys, or an array with one element
for each. -/
def ofJson : Json → Except Json.Mismatch Options
  | .object members => members.foldlM addMember empty
  | .array items => do
    let (o, rest) ← addElements empty SystemOption.all items
    if rest.isEmpty then .ok o else .error (.tooLong items.length)
  | v => .error (.kind v "struct QueryOptions")

end Options

end ODataGateway
