/-
# ODataGateway.Proofs.Plan.Sorted — what sorting stages do.

A sorting stage compares elements by the cells that they have under one name.  This order is total,
so the stage gives the one stable sort of its elements by that name (`Stage.stablySorted_sort`), and
what a sorting stage does among other stages follows from what stable sorts are.

Rows without a value under a name come last in both directions, in the order in which they stood.
The others are sorted stably: going up as they stand, and going down as the list read backwards
would be sorted going up, then read backwards again (`Plan.sort_mirrored`).  Rows that tie stand in
the order of the input either way, so that going down is the reverse of going up only where no two
rows tie.

A stable sort of a stable sort is a stable sort by the later order first and by the earlier one where
the later one ties (`StablySorted.lex`).  Two keys of one name tie the same rows, whatever their
directions, and then nothing is left for the earlier key to settle: the later stage alone gives the
same rows, and sorting twice is sorting once (`Plan.sort_sort_lex`).
-/
import ODataGateway.Proofs.Plan.Answer
import ODataGateway.Proofs.Plan.StableSort

namespace ODataGateway

/-! ## Sorting by a name -/

section

open Std (OrientedCmp TransCmp)

variable {α : Type} (view : α → Row) (name : String)

/-- The order of elements by what they have under a name. -/
def byName (d : Direction) (x y : α) : Ordering :=
  Cell.compareIn d ((view x).cell name) ((view y).cell name)

instance transCmp_byName (d : Direction) : TransCmp (byName view name d) where
  eq_swap := by
    intro x y
    show Cell.compareIn d _ _ = (Cell.compareIn d _ _).swap
    exact OrientedCmp.eq_swap
  isLE_trans := by
    intro x y z hxy hyz
    exact (Cell.transCmp_compareIn d).isLE_trans hxy hyz

/-- A sorting stage is a stable sort. -/
theorem Stage.stablySorted_sort (d : Direction) (xs : List α) :
    StablySorted (byName view name d) xs (Stage.run view xs (.sort ⟨name, d⟩)) :=
  stablySorted_mergeSort xs

/-- A plan may end in a sorting stage. -/
theorem Plan.run_sort (plan : Plan) (k : OrderKey) (xs : List α) :
    Plan.run view (plan ++ [.sort k]) xs = Stage.run view (Plan.run view plan xs) (.sort k) :=
  Plan.run_append view plan [.sort k] xs

end

open Std (OrientedCmp)

/-! ## Rows without a value -/

/-- Whether a row has nothing under a name, or null. -/
def Row.lacks (row : Row) (name : String) : Bool :=
  match row.lookup name with
  | none => true
  | some .null => true
  | some _ => false

theorem Row.lacks_iff {row : Row} {name : String} :
    row.lacks name = true ↔ row.cell name = .null := by
  unfold Row.lacks Row.cell
  cases row.lookup name with
  | none => simp
  | some c => cases c <;> simp

theorem Row.cell_ne_null {row : Row} {name : String} (h : row.lacks name = false) :
    row.cell name ≠ .null := by
  intro null
  rw [Row.lacks_iff.mpr null] at h
  exact nomatch h

theorem Row.lacks_of_lookup {row : Row} {name : String} (h : row.lookup name = none) :
    row.lacks name = true := by
  rw [Row.lacks, h]

/-! ## Values and their absence -/

section

variable {α : Type} (view : α → Row) (name : String)

/-- The elements that have a value under a name, as they stand. -/
def valued (xs : List α) : List α := xs.filter fun x => !(view x).lacks name

/-- The elements that have no value under a name, as they stand. -/
def valueless (xs : List α) : List α := xs.filter fun x => (view x).lacks name

variable {view name} {d : Direction} {x y : α}

theorem byName_last (hx : (view x).lacks name = false) (hy : (view y).lacks name = true) :
    byName view name d x y = .lt := by
  rw [byName, Row.lacks_iff.mp hy]
  exact Cell.compareIn_null_right (Row.cell_ne_null hx)

theorem byName_level (hx : (view x).lacks name = true) (hy : (view y).lacks name = true) :
    byName view name d x y = .eq := by
  rw [byName, Row.lacks_iff.mp hx, Row.lacks_iff.mp hy]
  rfl

/-- Between elements that have a value the directions are opposite. -/
theorem byName_turned (hx : (view x).lacks name = false) (hy : (view y).lacks name = false) :
    byName view name .descending x y = byName view name .ascending y x := by
  have swap : byName view name .ascending y x = (byName view name .ascending x y).swap :=
    OrientedCmp.eq_swap
  rw [swap]
  exact Cell.compareIn_descending (Row.cell_ne_null hx) (Row.cell_ne_null hy)

/-- The same elements tie in both directions. -/
theorem byName_tied (x y : α) :
    byName view name .descending x y = .eq ↔ byName view name .ascending x y = .eq :=
  Cell.compareIn_eq_eq_iff

/-- A sorting stage puts the elements without a value behind a stable sort of the others. -/
theorem Stage.run_sort_eq_append {xs ys : List α}
    (h : StablySorted (byName view name d) (valued view name xs) ys) :
    Stage.run view xs (.sort ⟨name, d⟩) = ys ++ valueless view name xs := by
  have sorted : StablySorted (byName view name d) xs (ys ++ valueless view name xs) :=
    h.append_last (fun x y => byName_last) fun x y => byName_level
  exact (Stage.stablySorted_sort view name d xs).unique sorted

/-- Sorting down what has a value is sorting up in a mirror. -/
theorem StablySorted.turned {xs ys : List α} (valued : ∀ x ∈ xs, (view x).lacks name = false)
    (h : StablySorted (byName view name .descending) xs ys) :
    StablySorted (byName view name .ascending) xs.reverse ys.reverse := by
  apply h.mirrored
  · intro x hx y hy
    exact byName_turned (valued x hx) (valued y hy)
  · exact byName_tied

end

namespace Plan

/-- The directions of sorting.  What a plan gives is sorted by a name going up and going down.  Both
times the elements that lack a value come last, in the order in which the plan gave them, behind the
others.  Going up these are the stable sort of the values, and going down they are the reverse of
the stable sort of the values in reverse; where no two values tie, this is the reverse of going up.
Where no element has the name at all, nothing is moved. -/
theorem sort_mirrored {α : Type} (view : α → Row) (plan : Plan) (source : List α)
    (name : String) :
    (∃ up down,
      Plan.run view (plan ++ [.sort ⟨name, .ascending⟩]) source =
        up ++ valueless view name (Plan.run view plan source) ∧
      Plan.run view (plan ++ [.sort ⟨name, .descending⟩]) source =
        down ++ valueless view name (Plan.run view plan source) ∧
      (∀ other, StablySorted (byName view name .ascending)
        (valued view name (Plan.run view plan source)) other ↔ other = up) ∧
      (∀ other, StablySorted (byName view name .ascending)
        (valued view name (Plan.run view plan source)).reverse other ↔ other = down.reverse) ∧
      ((valued view name (Plan.run view plan source)).Pairwise
        (fun x y => byName view name .ascending x y ≠ .eq) → down = up.reverse)) ∧
    ((∀ x ∈ Plan.run view plan source, (view x).lookup name = none) → ∀ d,
      Plan.run view (plan ++ [.sort ⟨name, d⟩]) source = Plan.run view plan source) := by
  simp only [run_sort]
  generalize Plan.run view plan source = rows
  refine ⟨⟨Stage.run view (valued view name rows) (.sort ⟨name, .ascending⟩),
    Stage.run view (valued view name rows) (.sort ⟨name, .descending⟩), ?_⟩, ?_⟩
  · have noneLacks : ∀ x ∈ valued view name rows, (view x).lacks name = false := by
      intro x hx
      exact (Bool.not_eq_true' _).mp (List.mem_filter.mp hx).2
    have up := Stage.stablySorted_sort view name .ascending (valued view name rows)
    have down := Stage.stablySorted_sort view name .descending (valued view name rows)
    have mirror := down.turned noneLacks
    refine ⟨Stage.run_sort_eq_append up, Stage.run_sort_eq_append down, ?_, ?_, ?_⟩
    · intro other
      exact ⟨fun h => h.unique up, fun h => h ▸ up⟩
    · intro other
      exact ⟨fun h => h.unique mirror, fun h => h ▸ mirror⟩
    · intro distinct
      rw [up.unique (mirror.of_reverse distinct), List.reverse_reverse]
  · intro missing d
    have lacking : ∀ x ∈ rows, (view x).lacks name = true :=
      fun x hx => Row.lacks_of_lookup (missing x hx)
    have noValue : valued view name rows = [] := by
      rw [valued, List.filter_eq_nil_iff]
      intro x hx
      rw [lacking x hx]
      decide
    have nothing : StablySorted (byName view name d) (valued view name rows) [] := by
      rw [noValue]
      exact ⟨.nil, .nil, fun _ => rfl⟩
    rw [Stage.run_sort_eq_append nothing, List.nil_append]
    exact List.filter_eq_self.mpr lacking

/-- Two names and a null, behind a stage that passes over a row: going down is the reverse of going
up, but the null stays last. -/
theorem sort_mirrored_names :
    ∃ up, Plan.run id [.skip 1, .sort ⟨"day", .ascending⟩]
        [[("day", .null)], [("day", .text "Mon")], [("id", .null)], [("day", .text "Fri")]] =
          up ++ [[("id", .null)]] ∧
      Plan.run id [.skip 1, .sort ⟨"day", .descending⟩]
        [[("day", .null)], [("day", .text "Mon")], [("id", .null)], [("day", .text "Fri")]] =
          up.reverse ++ [[("id", .null)]] := by
  obtain ⟨⟨up, down, ascending, descending, -, -, mirror⟩, -⟩ := sort_mirrored id [.skip 1]
    [[("day", .null)], [("day", .text "Mon")], [("id", .null)], [("day", .text "Fri")]] "day"
  have distinct : List.Pairwise (fun x y => byName id "day" .ascending x y ≠ .eq)
      [[("day", Cell.text "Mon")], [("day", Cell.text "Fri")]] := by
    simp only [List.pairwise_pair]
    decide
  refine ⟨up, ascending, ?_⟩
  rw [← mirror distinct]
  exact descending

end Plan

open Std (ReflCmp TransCmp)

/-! ## Two orders, one after the other -/

section

variable {α : Type} {cmp first second : α → α → Ordering} {xs ys zs : List α}

/-- A class of two orders is a class of the one within a class of the other. -/
theorem tiesWith_lex (x : α) (xs : List α) :
    tiesWith (compareLex second first) x xs = tiesWith first x (tiesWith second x xs) := by
  rw [tiesWith, tiesWith, tiesWith, List.filter_filter]
  apply List.filter_congr
  intro y _
  show ((second x y).then (first x y) == .eq) = ((first x y == .eq) && (second x y == .eq))
  cases second x y <;> simp

/-- Sorting does not turn round two elements that tie. -/
theorem StablySorted.sublist_pair [ReflCmp cmp] (h : StablySorted cmp xs ys) {x y : α}
    (tie : cmp x y = .eq) (pair : [x, y].Sublist ys) : [x, y].Sublist xs := by
  have self : cmp x x = .eq := ReflCmp.compare_self
  exact sublist_pair_of_filter_eq (h.ties x) (beq_iff_eq.mpr self) (beq_iff_eq.mpr tie) pair

/-- Sorting by one order and then by a second one is sorting by the second one, and by the first one
where the second one ties. -/
theorem StablySorted.lex [ReflCmp second] (h : StablySorted first xs ys)
    (h' : StablySorted second ys zs) : StablySorted (compareLex second first) xs zs where
  perm := h'.perm.trans h.perm
  sorted := by
    rw [List.pairwise_iff_forall_sublist]
    intro x y pair
    have notAfter : second x y ≠ .gt := List.pairwise_iff_forall_sublist.mp h'.sorted pair
    show (second x y).then (first x y) ≠ .gt
    cases order : second x y with
    | lt => exact Ordering.noConfusion
    | gt => exact absurd order notAfter
    | eq => exact List.pairwise_iff_forall_sublist.mp h.sorted (h'.sublist_pair order pair)
  ties := by
    -- the classes within the classes may be looked for in either order
    intro x
    calc tiesWith (compareLex second first) x zs
        = tiesWith first x (tiesWith second x ys) := by rw [tiesWith_lex, h'.ties]
      _ = tiesWith second x (tiesWith first x ys) := tiesWith_filter_comm x _ ys
      _ = tiesWith second x (tiesWith first x xs) := by rw [h.ties]
      _ = tiesWith first x (tiesWith second x xs) := (tiesWith_filter_comm x _ xs).symm
      _ = tiesWith (compareLex second first) x xs := (tiesWith_lex x xs).symm

/-- An order that ties wherever another one does has nothing to settle after it. -/
theorem compareLex_eq_left (coarser : ∀ x y, second x y = .eq → first x y = .eq) :
    compareLex second first = second := by
  funext x y
  show (second x y).then (first x y) = second x y
  cases tie : second x y with
  | lt => rfl
  | gt => rfl
  | eq => exact coarser x y tie

end

/-! ## Two sorting stages -/

section

variable {α : Type} (view : α → Row) (k₁ k₂ : OrderKey)

/-- The order by two keys: the second one decides, and the first one where it ties. -/
def byKeys (x y : α) : Ordering :=
  compareLex (byName view k₂.property k₂.direction) (byName view k₁.property k₁.direction) x y

instance transCmp_byKeys : TransCmp (byKeys view k₁ k₂) :=
  inferInstanceAs (TransCmp (compareLex (byName view k₂.property k₂.direction)
    (byName view k₁.property k₁.direction)))

/-- Keys of one name tie the same elements. -/
theorem byKeys_of_same_name (same : k₁.property = k₂.property) :
    byKeys view k₁ k₂ = byName view k₂.property k₂.direction := by
  apply compareLex_eq_left
  intro x y tie
  rw [same]
  exact Cell.compareIn_eq_eq_iff.mp tie

/-- Two sorting stages sort by both keys. -/
theorem Stage.stablySorted_sort_sort (xs : List α) :
    StablySorted (byKeys view k₁ k₂) xs
      (Stage.run view (Stage.run view xs (.sort k₁)) (.sort k₂)) :=
  (Stage.stablySorted_sort view k₁.property k₁.direction xs).lex
    (Stage.stablySorted_sort view k₂.property k₂.direction _)

theorem Plan.run_sort_sort (plan : Plan) (xs : List α) :
    Plan.run view (plan ++ [.sort k₁, .sort k₂]) xs =
      Stage.run view (Stage.run view (Plan.run view plan xs) (.sort k₁)) (.sort k₂) :=
  Plan.run_append view plan [.sort k₁, .sort k₂] xs

/-- Sorting stages compose.  What a plan gives, sorted by one key and then by another, is the one
list that holds the same elements, never goes down by the second key and then by the first, and has
the elements that tie on both in the order in which the plan gave them.  Where the keys have one
name, in whatever directions, the first of the two stages makes no difference; so it makes none
either to sort twice by one key. -/
theorem Plan.sort_sort_lex (plan : Plan) (source : List α) :
    (∀ other, StablySorted (byKeys view k₁ k₂) (Plan.run view plan source) other ↔
      other = Plan.run view (plan ++ [.sort k₁, .sort k₂]) source) ∧
    (k₁.property = k₂.property →
      Plan.run view (plan ++ [.sort k₁, .sort k₂]) source =
        Plan.run view (plan ++ [.sort k₂]) source) ∧
    Plan.run view (plan ++ [.sort k₂, .sort k₂]) source =
      Plan.run view (plan ++ [.sort k₂]) source := by
  have first_idle : ∀ k₁ : OrderKey, k₁.property = k₂.property →
      Plan.run view (plan ++ [.sort k₁, .sort k₂]) source =
        Plan.run view (plan ++ [.sort k₂]) source := by
    intro k₁ same
    have twice := Stage.stablySorted_sort_sort view k₁ k₂ (Plan.run view plan source)
    rw [byKeys_of_same_name view k₁ k₂ same] at twice
    rw [Plan.run_sort_sort, Plan.run_sort]
    exact twice.unique (Stage.stablySorted_sort view k₂.property k₂.direction _)
  refine ⟨?_, first_idle k₁, first_idle k₂ rfl⟩
  intro other
  rw [Plan.run_sort_sort]
  have sorted := Stage.stablySorted_sort_sort view k₁ k₂ (Plan.run view plan source)
  constructor
  · intro h
    exact h.unique sorted
  · rintro rfl
    exact sorted

end

/-- Days going up and then going down, with a null and a tie, behind a stage that cuts off a row. -/
theorem Plan.sort_sort_lex_days :
    Plan.run id [.top 3, .sort ⟨"day", .ascending⟩, .sort ⟨"day", .descending⟩]
        [[("day", .null)], [("day", .text "Mon")], [("day", .text "Fri")], [("id", .null)]] =
      Plan.run id [.top 3, .sort ⟨"day", .descending⟩]
        [[("day", .null)], [("day", .text "Mon")], [("day", .text "Fri")], [("id", .null)]] :=
  (Plan.sort_sort_lex id ⟨"day", .ascending⟩ ⟨"day", .descending⟩ [.top 3] _).2.1 rfl

end ODataGateway
