/-
# ODataGateway.Proofs.Plan.Answer — what the rows of an answer are, apart from how they are found.

The rows of a collection with their places are a list of placed rows.  The options of a query say
which of them are admitted, what it is to put those in order, and which page of the ordered ones is
given.  Running the plan of the query gives this page (`Answer.lenient_exact`).
-/
import ODataGateway.Plan
import ODataGateway.Proofs.Plan.Arranged
import ODataGateway.Proofs.Query.CellOrder

namespace ODataGateway

/-! ## What is asked for -/

namespace Options

/-- The rows that meet the filter, with their places; all of them if there is no filter that can be
read. -/
def admitted (o : Options) (rows : List Row) : List (Row × Nat) :=
  rows.zipIdx.filter fun r => (o.filter.bind Filter.parse?).all fun f => f.accepts r.1

/-- Whether the second list is the first one in the order that is asked for.  A row without the
key's property counts as null there. -/
def Orders (o : Options) (xs ys : List (Row × Nat)) : Prop :=
  match o.orderBy.bind OrderKey.parse? with
  | none => ys = xs
  | some k => Arranged
      (fun r s : Row => Cell.compareIn k.direction (r.cell k.property) (s.cell k.property)) xs ys

/-- The page of a list: what is left when the first ones are passed over, up to the limit. -/
def page {α : Type} (o : Options) (xs : List α) : List α :=
  let rest := match Paging.skip o.skip with
    | none => xs
    | some n => xs.drop n
  match Paging.top o.top with
  | none => rest
  | some n => rest.take n

end Options

/-! ## Running plans on placed rows -/

section

variable {α β : Type} {view : β → Row} {f : α → β}

/-- A stage does to elements what it does to what they are seen as. -/
theorem Stage.run_map (stage : Stage) (xs : List α) :
    stage.run view (xs.map f) = (stage.run (view ∘ f) xs).map f := by
  cases stage with
  | filter c => exact List.filter_map
  | sort k =>
    have h := List.map_mergeSort (f := f) (l := xs)
      (r := fun x y => (k.compareRows (view (f x)) (view (f y))).isLE)
      (s := fun x y => (k.compareRows (view x) (view y)).isLE) fun x _ y _ => rfl
    exact h.symm
  | skip n => exact List.map_drop.symm
  | top n => exact List.map_take.symm

/-- So does a plan. -/
theorem Plan.run_map (plan : Plan) (xs : List α) :
    plan.run view (xs.map f) = (plan.run (view ∘ f) xs).map f := by
  -- along the stages; each of them is run on the list that the ones before have left
  induction plan generalizing xs with
  | nil => rfl
  | cons stage plan ih =>
    show Plan.run view plan (stage.run view (xs.map f)) = _
    rw [Stage.run_map, ih]
    rfl

end

/-- Rows may be given their places before a plan is run. -/
theorem Plan.run_rows (plan : Plan) (rows : List Row) :
    plan.run id rows = (plan.run Prod.fst rows.zipIdx).map Prod.fst := by
  have h : Plan.run id plan (rows.zipIdx.map Prod.fst) =
      (Plan.run (id ∘ Prod.fst) plan rows.zipIdx).map Prod.fst := Plan.run_map plan rows.zipIdx
  rw [List.zipIdx_map_fst] at h
  exact h

/-! ## The stages of a query -/

section

variable {α : Type} (view : α → Row) (o : Options)

theorem Plan.run_append (p q : Plan) (xs : List α) :
    Plan.run view (p ++ q) xs = Plan.run view q (Plan.run view p xs) := List.foldl_append

theorem Plan.run_filter? (filter : Option Filter) (xs : List α) :
    Plan.run view (filter.map Stage.filter).toList xs =
      xs.filter fun x => filter.all fun f => f.accepts (view x) := by
  cases filter with
  | none => exact (List.filter_eq_self.mpr fun x _ => rfl).symm
  | some f => rfl

theorem Plan.run_page (xs : List α) :
    Plan.run view (((Paging.skip o.skip).map Stage.skip).toList ++
      ((Paging.top o.top).map Stage.top).toList) xs = o.page xs := by
  rw [Plan.run_append, Options.page]
  cases Paging.skip o.skip <;> cases Paging.top o.top <;> rfl

/-- The plan of a query gives the page of what meets its filter, sorted by its key. -/
theorem Plan.run_lenient (xs : List α) :
    Plan.run view (Plan.lenient o) xs =
      o.page (Plan.run view ((o.orderBy.bind OrderKey.parse?).map Stage.sort).toList
        (xs.filter fun x => (o.filter.bind Filter.parse?).all fun f => f.accepts (view x))) := by
  rw [Plan.lenient, Plan.assemble, List.append_assoc, Plan.run_append, Plan.run_page,
    Plan.run_append, Plan.run_filter?]

end

namespace Options

/-- The places of the rows that are admitted go up. -/
theorem placed_admitted (o : Options) (rows : List Row) :
    (o.admitted rows).Pairwise fun x y => x.2 < y.2 :=
  (placed_zipIdx rows).filter _

/-- The sorting stage puts placed rows in the order that is asked for. -/
theorem orders_run (o : Options) {xs : List (Row × Nat)}
    (placed : xs.Pairwise fun x y => x.2 < y.2) :
    o.Orders xs
      (Plan.run Prod.fst ((o.orderBy.bind OrderKey.parse?).map Stage.sort).toList xs) := by
  unfold Orders
  cases o.orderBy.bind OrderKey.parse? with
  | none => rfl
  | some k => exact arranged_mergeSort placed

/-- There is one list in the order that is asked for. -/
theorem Orders.unique {o : Options} {xs ys zs : List (Row × Nat)} (hy : o.Orders xs ys)
    (hz : o.Orders xs zs) : ys = zs := by
  unfold Orders at hy hz
  split at hy
  · next unordered =>
    rw [unordered] at hz
    exact hy.trans hz.symm
  · next k ordered =>
    rw [ordered] at hz
    exact hy.unique hz

end Options

/-! ## Answers -/

namespace Answer

/-- The rows of an answer are what its plan gives. -/
theorem rows_eq_run (o : Options) (rows : List Row) :
    (lenient o rows).rows = Plan.run id (Plan.lenient o) rows := rfl

/-- The rows of an answer are the page of those admitted, put in order. -/
theorem rows_lenient (o : Options) (rows : List Row) :
    ∃ ys, o.Orders (o.admitted rows) ys ∧
      (lenient o rows).rows = (o.page ys).map Prod.fst := by
  refine ⟨_, o.orders_run (o.placed_admitted rows), ?_⟩
  rw [rows_eq_run, Plan.run_rows, Plan.run_lenient]
  rfl

/-- What an answer is.  Of the rows that meet the filter there is one list in the order that is
asked for, and the answer gives the page of it that is asked for.  The count is the number of rows
given, where the option is exactly `true`, and asking for it changes no row. -/
theorem lenient_exact (o : Options) (rows : List Row) :
    (∃ ys, o.Orders (o.admitted rows) ys ∧
      (∀ zs, o.Orders (o.admitted rows) zs → zs = ys) ∧
      (lenient o rows).rows = (o.page ys).map Prod.fst) ∧
    (lenient o rows).count =
      (if o.count = some "true" then some (lenient o rows).rows.length else none) ∧
    (∀ raw, (lenient { o with count := raw } rows).rows = (lenient o rows).rows) := by
  refine ⟨?_, ?_, fun raw => rfl⟩
  · obtain ⟨ys, ordered, hrows⟩ := rows_lenient o rows
    exact ⟨ys, ordered, fun zs other => other.unique ordered, hrows⟩
  · show (if o.wantsCount = true then _ else _) = _
    simp only [Options.wantsCount, beq_iff_eq]
    rfl

end Answer

end ODataGateway
