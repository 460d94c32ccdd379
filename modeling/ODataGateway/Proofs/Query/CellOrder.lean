/-
# ODataGateway.Proofs.Query.CellOrder — the order of cells is a total preorder.

Every cell has a kind, a place among the numbers and a wording.  Cells that are not null compare by
these three, one after the other (`compareValues_eq`), and null is told apart before all of them
(`compareIn_eq`).  An order made in this way is oriented and transitive because its parts are, in
either direction.
-/
import ODataGateway.Query.Options

namespace ODataGateway

open Std (OrientedCmp TransCmp)

/-! ## Turning an order round -/

theorem Direction.apply_eq_eq_iff {d : Direction} {o : Ordering} : d.apply o = .eq ↔ o = .eq := by
  cases d with
  | ascending => exact Iff.rfl
  | descending => exact Ordering.swap_eq_eq

section

variable {α : Type} {cmp : α → α → Ordering}

/-- A direction makes no difference to the laws of an order. -/
instance Direction.transCmp_apply [TransCmp cmp] (d : Direction) :
    TransCmp fun a b => d.apply (cmp a b) := by
  cases d with
  | ascending => exact inferInstanceAs (TransCmp cmp)
  | descending =>
    have opposite : (fun a b => Direction.descending.apply (cmp a b)) = fun a b => cmp b a := by
      funext a b
      have swap : cmp b a = (cmp a b).swap := OrientedCmp.eq_swap
      exact swap.symm
    rw [opposite]
    exact TransCmp.opposite

end

namespace Cell

/-! ## Cells by three keys -/

/-- The place of a cell among the numbers; cells of the other kinds share one. -/
def place : Cell → Int
  | number x => x.rank
  | _ => 0

/-- The text that a cell is compared by; numbers have none. -/
def wording : Cell → String
  | text s => s
  | raw v => v.text
  | _ => ""

/-- A raw value that is no text is shown as it is compared, by its JSON. -/
theorem display_raw {v : Json} (noText : ∀ s, v ≠ .string s) : (raw v).display = v.text := by
  cases v with
  | string s => exact absurd rfl (noText s)
  | _ => rfl

/-- Cells of two kinds compare by their kinds. -/
theorem compareValues_of_kindRank_ne {a b : Cell} (h : a.kindRank ≠ b.kindRank) :
    compareValues a b = compare a.kindRank b.kindRank := by
  cases a <;> cases b <;> first | rfl | exact absurd rfl h

/-- Cells of one kind compare by place and then by wording, one of which they share. -/
theorem compareValues_of_kindRank_eq {a b : Cell} (h : a.kindRank = b.kindRank) :
    compareValues a b = (compare a.place b.place).then (compare a.wording b.wording) := by
  cases a <;> cases b <;> simp_all [compareValues, kindRank, place, wording, Binary64.order]

/-- Cells that are not null compare by kind, then by place, then by wording. -/
theorem compareValues_eq :
    compareValues =
      compareLex (compareOn kindRank) (compareLex (compareOn place) (compareOn wording)) := by
  -- where the kinds differ the other two keys are not asked
  funext a b
  show compareValues a b = (compare a.kindRank b.kindRank).then
    ((compare a.place b.place).then (compare a.wording b.wording))
  by_cases h : a.kindRank = b.kindRank
  · rw [compareValues_of_kindRank_eq h, h, Nat.compare_eq_eq.mpr rfl]
    rfl
  · rw [compareValues_of_kindRank_ne h]
    cases hkind : compare a.kindRank b.kindRank with
    | eq => exact absurd (Nat.compare_eq_eq.mp hkind) h
    | lt => rfl
    | gt => rfl

instance : TransCmp compareValues := by
  rw [compareValues_eq]
  infer_instance

/-- Before anything else cells compare by whether they are null. -/
theorem compareIn_eq (d : Direction) :
    compareIn d = compareLex (compareOn isNull) fun a b => d.apply (compareValues a b) := by
  funext a b
  have even : d.apply (compareValues null null) = .eq := by cases d <;> rfl
  cases a <;> cases b <;> simp [compareIn, compareLex, compareOn, isNull, even] <;> rfl

/-- The order of cells is oriented and transitive in both directions. -/
instance transCmp_compareIn (d : Direction) : TransCmp (compareIn d) := by
  rw [compareIn_eq]
  infer_instance

/-! ## Null -/

/-- Null comes last in both directions. -/
theorem compareIn_null_left {d : Direction} {a : Cell} (h : a ≠ null) :
    compareIn d null a = .gt := by
  cases a with
  | null => exact absurd rfl h
  | number x => rfl
  | text s => rfl
  | raw v => rfl

theorem compareIn_null_right {d : Direction} {a : Cell} (h : a ≠ null) :
    compareIn d a null = .lt := by
  have swap : compareIn d a null = (compareIn d null a).swap := OrientedCmp.eq_swap
  rw [swap, compareIn_null_left h]
  rfl

theorem compareIn_of_ne_null {d : Direction} {a b : Cell} (ha : a ≠ null) (hb : b ≠ null) :
    compareIn d a b = d.apply (compareValues a b) := by
  cases a <;> cases b <;> first | rfl | contradiction

/-! ## The directions -/

/-- Where neither cell is null the descending order is the ascending one turned round. -/
theorem compareIn_descending {a b : Cell} (ha : a ≠ null) (hb : b ≠ null) :
    compareIn .descending a b = (compareIn .ascending a b).swap := by
  rw [compareIn_of_ne_null ha hb, compareIn_of_ne_null ha hb]
  rfl

/-- The same cells tie in all directions. -/
theorem compareIn_eq_eq_iff {d d' : Direction} {a b : Cell} :
    compareIn d a b = .eq ↔ compareIn d' a b = .eq := by
  simp only [compareIn_eq, compareLex_eq_eq, Direction.apply_eq_eq_iff]

/-- The order of cells, in either direction, is a total preorder: it is oriented, every cell ties
with itself, not being greater is transitive, and cells that tie cannot be told apart by a third.
Null comes after every other cell in both directions; between the others the directions are each
other's reverse, and the same cells tie in both. -/
theorem compareIn_total_preorder (d : Direction) (a b c : Cell) :
    compareIn d b a = (compareIn d a b).swap ∧
    compareIn d a a = .eq ∧
    (compareIn d a b ≠ .gt → compareIn d b c ≠ .gt → compareIn d a c ≠ .gt) ∧
    (compareIn d a b = .eq → compareIn d a c = compareIn d b c) ∧
    (a ≠ null → compareIn d null a = .gt ∧ compareIn d a null = .lt) ∧
    (a ≠ null → b ≠ null →
      compareIn .descending a b = (compareIn .ascending a b).swap) ∧
    (compareIn .ascending a b = .eq ↔ compareIn .descending a b = .eq) := by
  refine ⟨OrientedCmp.eq_swap, Std.ReflCmp.compare_self, ?_, TransCmp.congr_left, ?_,
    compareIn_descending, compareIn_eq_eq_iff⟩
  · intro hab hbc
    have hac : (compareIn d a c).isLE :=
      TransCmp.isLE_trans (Ordering.isLE_iff_ne_gt.mpr hab) (Ordering.isLE_iff_ne_gt.mpr hbc)
    exact Ordering.isLE_iff_ne_gt.mp hac
  · intro ha
    exact ⟨compareIn_null_left ha, compareIn_null_right ha⟩

/-- Descending, a text comes before zero, by way of not-a-number, and null after not-a-number. -/
theorem compareIn_descending_nan :
    compareIn .descending (text "") (number .zero) ≠ .gt ∧
      compareIn .descending null (number .nan) = .gt := by
  have texts := compareIn_total_preorder .descending (text "") (number .nan) (number .zero)
  have last := compareIn_total_preorder .descending (number .nan) null null
  exact ⟨texts.2.2.1 (by decide) (by decide), (last.2.2.2.2.1 nofun).1⟩

end Cell

/-! ## Rows -/

/-- Rows that are compared by one of their cells are ordered as the cells are. -/
instance transCmp_cells (d : Direction) (name : String) :
    TransCmp fun r s : Row => Cell.compareIn d (r.cell name) (s.cell name) where
  eq_swap := OrientedCmp.eq_swap
  isLE_trans := TransCmp.isLE_trans

end ODataGateway
