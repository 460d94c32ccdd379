/-
# ODataGateway.Plan — what is done to the rows of a collection to answer a query.

A plan is a list of stages, run in order over the whole collection.  Plans act on any elements that
can be seen as rows, so one may run them on rows, or on rows that carry their places along.  A
query's plan filters, sorts, passes over and cuts off, in this order, each stage only if its option
asks for it.
-/
import ODataGateway.Query.Filter
import ODataGateway.Query.Options

namespace ODataGateway

/-! ## Stages and plans -/

/-- One step of a plan. -/
inductive Stage where
  | filter (f : Filter)
  | sort (k : OrderKey)
  | skip (n : Nat)
  | top (n : Nat)
deriving DecidableEq

/-- Stages in the order in which they are run. -/
abbrev Plan := List Stage

/-- Runs one stage over elements that `view` shows as rows.  Sorting is stable. -/
def Stage.run {α : Type} (view : α → Row) (xs : List α) : Stage → List α
  | filter f => xs.filter fun x => f.accepts (view x)
  | sort k => xs.mergeSort fun x y => (k.compareRows (view x) (view y)).isLE
  | skip n => xs.drop n
  | top n => xs.take n

namespace Plan

/-- Runs a plan over elements that `view` shows as rows. -/
def run {α : Type} (view : α → Row) (plan : Plan) (xs : List α) : List α :=
  plan.foldl (Stage.run view) xs

/-! ## Plans of queries -/

/-- The plan of a query whose filter was read already. -/
def assemble (filter : Option Filter) (o : Options) : Plan :=
  (filter.map Stage.filter).toList ++
    ((o.orderBy.bind OrderKey.parse?).map Stage.sort).toList ++
    ((Paging.skip o.skip).map Stage.skip).toList ++
    ((Paging.top o.top).map Stage.top).toList

/-- The plan of a query; a filter that cannot be read is left out. -/
def lenient (o : Options) : Plan := assemble (o.filter.bind Filter.parse?) o

/-- The plan of a query, or what is wrong with its filter.  A blank filter is none. -/
def strict (o : Options) : Except Diagnostic Plan :=
  match o.filter with
  | none => .ok (assemble none o)
  | some s =>
    if Text.allBlank s then .ok (assemble none o)
    else (Filter.parse s).map fun f => assemble (some f) o

end Plan

/-! ## Answers -/

/-- The rows that answer a query, and their number where it was asked for. -/
structure Answer where
  rows : List Row
  count : Option Nat

namespace Answer

/-- Runs a plan and counts what is left, if the options ask for the count. -/
def ofPlan (plan : Plan) (o : Options) (rows : List Row) : Answer :=
  let rows := plan.run id rows
  ⟨rows, if o.wantsCount then some rows.length else none⟩

/-- The answer to a query; a filter that cannot be read is left out. -/
def lenient (o : Options) (rows : List Row) : Answer := ofPlan (Plan.lenient o) o rows

/-- The answer to a query, or what is wrong with its filter. -/
def strict (o : Options) (rows : List Row) : Except Diagnostic Answer :=
  (Plan.strict o).map fun plan => ofPlan plan o rows

end Answer

end ODataGateway
