/-
# ODataGateway.Proofs.Plan.Pages — a result that is fetched page by page.

A client that wants the whole of a result may cut it at any places and ask for the pieces one after
the other.  Every page is filtered and sorted anew, but the list that is paged is the same for all
of them (`Answer.rows_eq_page`), and counts up to 2^53 arrive as they were sent.  So no row is lost
and none is given twice (`Answer.pages_partition`).
-/
import ODataGateway.Proofs.Number.Counts
import ODataGateway.Proofs.Plan.Drawn

namespace ODataGateway

/-! ## Asking for a page -/

namespace Options

/-- The options with the whole result in one page. -/
def unpaged (o : Options) : Options := { o with skip := none, top := none }

/-- The options that ask for the rows from one place up to another. -/
def between (o : Options) (first behind : Nat) : Options :=
  { o with skip := some (toString first), top := some (toString (behind - first)) }

/-- What is asked for is given, as long as the places are counts that arrive. -/
theorem page_between {α : Type} (o : Options) {first behind : Nat} (hfirst : first ≤ 2 ^ 53)
    (hbehind : behind ≤ 2 ^ 53) (xs : List α) :
    (o.between first behind).page xs = xs.extract first behind := by
  have passed : Paging.skip (o.between first behind).skip = some first := Paging.skip_nat hfirst
  have given : Paging.top (o.between first behind).top = some (behind - first) := by
    apply Paging.top_nat
    omega
  rw [page, passed, given]

end Options

/-! ## Page after page -/

namespace Answer

/-- The result of a query in one page. -/
def whole (o : Options) (rows : List Row) : List Row := (lenient o.unpaged rows).rows

/-- The answer that gives the rows from one cut to the next. -/
def piece (o : Options) (rows : List Row) (cut : Nat → Nat) (j : Nat) : Answer :=
  lenient (o.between (cut j) (cut (j + 1))) rows

variable {o : Options} {rows : List Row} {cut : Nat → Nat} {m : Nat}

/-- The number of rows in the collection is always enough for the last place. -/
theorem length_whole_le (o : Options) (rows : List Row) : (whole o rows).length ≤ rows.length :=
  (Plan.subperm_run (Plan.lenient o.unpaged) rows).length_le

/-- An answer is a page of the whole result: filtering and sorting do not look at the page. -/
theorem rows_eq_page (o : Options) (rows : List Row) :
    (lenient o rows).rows = o.page (whole o rows) := by
  rw [whole, rows_eq_run, rows_eq_run, Plan.run_lenient, Plan.run_lenient]
  rfl

theorem rows_piece {j : Nat} (first : cut j ≤ 2 ^ 53) (behind : cut (j + 1) ≤ 2 ^ 53) :
    (piece o rows cut j).rows = (whole o rows).extract (cut j) (cut (j + 1)) := by
  rw [piece, rows_eq_page, Options.page_between o first behind]
  rfl

/-- A count is that of the rows beside it. -/
theorem count_lenient (o : Options) (rows : List Row) (counted : o.count = some "true") :
    (lenient o rows).count = some (lenient o rows).rows.length := by
  have wanted : o.wantsCount = true := by
    rw [Options.wantsCount, counted]
    rfl
  rw [lenient, ofPlan, wanted]
  rfl

/-- The first pages together are the rows up to where they end. -/
theorem flatMap_rows_piece (start : cut 0 = 0) (ascending : ∀ j < m, cut j ≤ cut (j + 1))
    (bounded : ∀ j ≤ m, cut j ≤ 2 ^ 53) {k : Nat} (hk : k ≤ m) :
    (List.range k).flatMap (fun j => (piece o rows cut j).rows) = (whole o rows).take (cut k) := by
  -- one page after the other; the next one starts where those before it end
  induction k with
  | zero => rw [start, List.take_zero, List.range_zero, List.flatMap_nil]
  | succ k ih =>
    have next : (piece o rows cut k).rows = (whole o rows).extract (cut k) (cut (k + 1)) :=
      rows_piece (bounded k (by omega)) (bounded (k + 1) hk)
    have goesOn : cut k + (cut (k + 1) - cut k) = cut (k + 1) :=
      Nat.add_sub_cancel' (ascending k hk)
    rw [List.range_succ, List.flatMap_append, ih (by omega), List.flatMap_singleton, next,
      ← goesOn, List.take_add, goesOn]

/-- Pages partition the result.  For places that go up from 0 to the end of the result or beyond,
none of them past 2^53, the pages from each place to the next are, put together, the result without
paging, and each is the slice that it was asked for.  Where the count is asked for, it is that of
the page, so that the counts add up to the length of the result. -/
theorem pages_partition (o : Options) (rows : List Row) (cut : Nat → Nat) (m : Nat)
    (start : cut 0 = 0) (ascending : ∀ j < m, cut j ≤ cut (j + 1))
    (reached : (whole o rows).length ≤ cut m) (bounded : ∀ j ≤ m, cut j ≤ 2 ^ 53) :
    (List.range m).flatMap (fun j => (piece o rows cut j).rows) = whole o rows ∧
    (∀ j < m, (piece o rows cut j).rows =
      (whole o rows).extract (cut j) (min (cut (j + 1)) (whole o rows).length)) ∧
    (o.count = some "true" →
      (∀ j < m, (piece o rows cut j).count = some (piece o rows cut j).rows.length) ∧
      ((List.range m).map fun j => (piece o rows cut j).count.getD 0).sum =
        (whole o rows).length) := by
  have together : (List.range m).flatMap (fun j => (piece o rows cut j).rows) = whole o rows := by
    rw [flatMap_rows_piece start ascending bounded le_rfl, List.take_of_length_le reached]
  refine ⟨together, ?_, ?_⟩
  · intro j hj
    -- a slice that goes on past the end is the slice up to the end
    rw [rows_piece (bounded j hj.le) (bounded (j + 1) hj), List.extract_eq_take_drop,
      List.extract_eq_take_drop, List.take_eq_take_min, List.length_drop, ← Nat.sub_min_sub_right]
  · intro counted
    have counts : ∀ j, (piece o rows cut j).count = some (piece o rows cut j).rows.length := by
      intro j
      exact count_lenient _ rows counted
    refine ⟨fun j _ => counts j, ?_⟩
    calc ((List.range m).map fun j => (piece o rows cut j).count.getD 0).sum
        = ((List.range m).map fun j => (piece o rows cut j).rows.length).sum := by
          simp only [counts, Option.getD_some]
      _ = (whole o rows).length := by rw [← List.length_flatMap, together]

/-- Three rows in pages of two, sorted, with a filter that cannot be read and a count. -/
theorem pages_partition_by_twos :
    (List.range 2).flatMap (fun j => (piece ⟨some "id gt 1", some "id desc", none, none,
        some "true"⟩ [[("id", .null)], [("id", .text "a")], [("id", .text "b")]] (2 * ·) j).rows) =
      whole ⟨some "id gt 1", some "id desc", none, none, some "true"⟩
        [[("id", .null)], [("id", .text "a")], [("id", .text "b")]] ∧
    ((List.range 2).map fun j => (piece ⟨some "id gt 1", some "id desc", none, none, some "true"⟩
        [[("id", .null)], [("id", .text "a")], [("id", .text "b")]] (2 * ·) j).count.getD 0).sum =
      (whole ⟨some "id gt 1", some "id desc", none, none, some "true"⟩
        [[("id", .null)], [("id", .text "a")], [("id", .text "b")]]).length := by
  have ascending : ∀ j < 2, 2 * j ≤ 2 * (j + 1) := by
    intro j _
    omega
  have bounded : ∀ j ≤ 2, 2 * j ≤ 2 ^ 53 := by
    intro j hj
    omega
  have reached := (length_whole_le ⟨some "id gt 1", some "id desc", none, none, some "true"⟩
    [[("id", .null)], [("id", .text "a")], [("id", .text "b")]]).trans (Nat.le_succ 3)
  obtain ⟨together, -, counted⟩ := pages_partition _ _ (2 * ·) 2 rfl ascending reached bounded
  exact ⟨together, (counted rfl).2⟩

end Answer

end ODataGateway
