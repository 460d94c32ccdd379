/-
# ODataGateway.Proofs.Plan.Filtered — a filter before a sorting stage and behind it.

Elements taken out of a stable sort leave a stable sort, and there is one stable sort of a list.  So
it makes no difference whether a plan filters before it sorts or afterwards, be there ties, nulls or
rows without the name (`Stage.filter_run_sort`).  The plans of queries filter first.  What they give
is what filtering the ordered collection would give (`Plan.filter_sort_comm`).
-/
import ODataGateway.Proofs.Plan.Sorted

namespace ODataGateway

section

variable {α : Type} (view : α → Row)

/-! ## Sorting and taking out -/

/-- Taking elements out of what a sorting stage gives is sorting what is left. -/
theorem Stage.filter_run_sort (k : OrderKey) (p : α → Bool) (xs : List α) :
    (Stage.run view xs (.sort k)).filter p = Stage.run view (xs.filter p) (.sort k) := by
  have sorted : StablySorted (byName view k.property k.direction) (xs.filter p)
      ((Stage.run view xs (.sort k)).filter p) :=
    (Stage.stablySorted_sort view k.property k.direction xs).filter p
  exact sorted.unique (Stage.stablySorted_sort view k.property k.direction (xs.filter p))

/-- The sorting stage that a query may or may not have. -/
theorem Plan.filter_run_sort? (key : Option OrderKey) (p : α → Bool) (xs : List α) :
    (Plan.run view (key.map Stage.sort).toList xs).filter p =
      Plan.run view (key.map Stage.sort).toList (xs.filter p) := by
  cases key with
  | none => rfl
  | some k => exact Stage.filter_run_sort view k p xs

/-! ## Queries without paging -/

/-- A query without paging puts the rows that meet its filter in order. -/
theorem Plan.run_lenient_unpaged {o : Options} (noSkip : Paging.skip o.skip = none)
    (noTop : Paging.top o.top = none) (xs : List α) :
    Plan.run view (Plan.lenient o) xs =
      Plan.run view ((o.orderBy.bind OrderKey.parse?).map Stage.sort).toList
        (xs.filter fun x => (o.filter.bind Filter.parse?).all fun f => f.accepts (view x)) := by
  rw [Plan.run_lenient, Options.page, noSkip, noTop]

/-- A filter that is added to a query without paging takes rows out of its result. -/
theorem Plan.run_lenient_put_filter {o : Options} (noSkip : Paging.skip o.skip = none)
    (noTop : Paging.top o.top = none) {text : String} {f : Filter}
    (read : Filter.parse? text = some f) (xs : List α) :
    Plan.run view (Plan.lenient (o.put .filter (some text))) xs =
      (Plan.run view (Plan.lenient (o.put .filter none)) xs).filter
        fun x => f.accepts (view x) := by
  have filtered := Plan.run_lenient_unpaged view (o := o.put .filter (some text)) noSkip noTop xs
  have all := Plan.run_lenient_unpaged view (o := o.put .filter none) noSkip noTop xs
  have given : (o.put .filter (some text)).filter.bind Filter.parse? = some f := by
    show (some text).bind Filter.parse? = some f
    rw [Option.bind_some, read]
  have missing : (o.put .filter none).filter.bind Filter.parse? = none := rfl
  have every : (xs.filter fun _ => true) = xs := List.filter_eq_self.mpr fun _ _ => rfl
  rw [given] at filtered
  rw [missing] at all
  simp only [Option.all_some, Option.all_none, every] at filtered all
  rw [filtered, all, Plan.filter_run_sort?]
  rfl

end

/-- Filtering commutes with sorting.  Behind any plan, and over any elements, a filter may stand
before a sorting stage or after it.  So a filter that is added to a query without paging gives a
part of the ordered result, in its order, which holds just the elements that meet the filter. -/
theorem Plan.filter_sort_comm {α : Type} (view : α → Row) (source : List α) :
    (∀ (plan : Plan) (k : OrderKey) (f : Filter),
      Plan.run view (plan ++ [.sort k, .filter f]) source =
        Plan.run view (plan ++ [.filter f, .sort k]) source) ∧
    (∀ (o : Options) (text : String) (f : Filter), Paging.skip o.skip = none →
      Paging.top o.top = none → Filter.parse? text = some f →
      (Plan.run view (Plan.lenient (o.put .filter (some text))) source).Sublist
        (Plan.run view (Plan.lenient (o.put .filter none)) source) ∧
      Plan.run view (Plan.lenient (o.put .filter (some text))) source =
        (Plan.run view (Plan.lenient (o.put .filter none)) source).filter
          fun x => f.accepts (view x)) ∧
    (∀ (o : Options) (text : String) (f : Filter) (rows : List Row),
      Paging.skip o.skip = none → Paging.top o.top = none → Filter.parse? text = some f →
      (Answer.lenient (o.put .filter (some text)) rows).rows =
        (Answer.lenient (o.put .filter none) rows).rows.filter f.accepts) := by
  refine ⟨?_, ?_, ?_⟩
  · intro plan k f
    rw [Plan.run_append, Plan.run_append]
    exact Stage.filter_run_sort view k (fun x => f.accepts (view x)) (Plan.run view plan source)
  · intro o text f noSkip noTop read
    have matching := Plan.run_lenient_put_filter view noSkip noTop read source
    refine ⟨?_, matching⟩
    rw [matching]
    exact List.filter_sublist
  · intro o text f rows noSkip noTop read
    rw [Answer.rows_eq_run, Answer.rows_eq_run]
    exact Plan.run_lenient_put_filter id noSkip noTop read rows

/-- Three rows that tie on the name they are sorted by, which one of them lacks and the filter asks
for. -/
theorem Plan.filter_sort_comm_ties :
    Filter.parse? "day eq 'Mon'" = some ⟨"day", .text "Mon"⟩ ∧
    Plan.run id [.skip 1, .sort ⟨"day", .descending⟩, .filter ⟨"day", .text "Mon"⟩]
        [[], [("day", .text "Mon")], [("id", .null)], [("day", .text "Mon"), ("id", .null)]] =
      Plan.run id [.skip 1, .filter ⟨"day", .text "Mon"⟩, .sort ⟨"day", .descending⟩]
        [[], [("day", .text "Mon")], [("id", .null)], [("day", .text "Mon"), ("id", .null)]] ∧
    (Answer.lenient ⟨some "day eq 'Mon'", some "day desc", none, some " ", none⟩
        [[("day", .text "Mon")], [("id", .null)], [("day", .text "Mon"), ("id", .null)]]).rows =
      (Answer.lenient ⟨none, some "day desc", none, some " ", none⟩
        [[("day", .text "Mon")], [("id", .null)], [("day", .text "Mon"), ("id", .null)]]).rows.filter
          (Filter.accepts ⟨"day", .text "Mon"⟩) := by
  have read : Filter.parse? "day eq 'Mon'" = some ⟨"day", .text "Mon"⟩ := by decide +kernel
  have noSkip : Paging.skip (some " ") = none := by decide +kernel
  refine ⟨read, ?_, ?_⟩
  · exact (Plan.filter_sort_comm id _).1 [.skip 1] ⟨"day", .descending⟩ ⟨"day", .text "Mon"⟩
  · exact (Plan.filter_sort_comm id []).2.2 ⟨none, some "day desc", none, some " ", none⟩
      "day eq 'Mon'" ⟨"day", .text "Mon"⟩ _ noSkip rfl read

end ODataGateway
