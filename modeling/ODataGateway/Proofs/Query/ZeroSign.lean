/-
# ODataGateway.Proofs.Query.ZeroSign — nothing that a query does to a cell sees the sign of zero.

A cell is compared, shown as a text, met with a literal and served as JSON, and each of these has a
way of its own to treat zero.  All of them treat the two zeros alike.  Zeros are the only numbers
that differ and have one rank (`Binary64.rank_eq_iff`), and numbers of one rank are also those with
one text (`Binary64.text_eq_iff`).  `Cell.UpToZero` and `Row.UpToZero` say that two cells, or two
rows, differ in the signs of zeros at most; the lemmas on them have one line for each reading.
-/
import ODataGateway.Proofs.Query.CellOrder
import ODataGateway.Proofs.Query.NumberText
import ODataGateway.Proofs.Service.Served

namespace ODataGateway

/-! ## Numbers -/

namespace Binary64

variable {x y : Binary64}

/-- The zeros share a rank. -/
theorem rank_zeros (a b : Bool) : (signed a .zero).rank = (signed b .zero).rank := by
  cases a <;> cases b <;> rfl

/-- Of the numbers only the zeros share a rank. -/
theorem rank_eq_iff :
    x.rank = y.rank ↔ x = y ∨ ∃ a b, x = signed a .zero ∧ y = signed b .zero := by
  constructor
  · intro same
    cases x with
    | nan =>
      cases y with
      | nan => exact Or.inl rfl
      | signed b n =>
        -- no place lies beyond the last one
        have bound := n.place_le
        simp only [rank] at same
        split at same <;> omega
    | signed a m =>
      cases y with
      | nan =>
        have bound := m.place_le
        simp only [rank] at same
        split at same <;> omega
      | signed b n =>
        obtain ⟨places, signs⟩ := eq_of_rank_eq same
        by_cases zero : n.place = 0
        · rw [Magnitude.eq_zero_of_place zero, Magnitude.eq_zero_of_place (places.trans zero)]
          exact Or.inr ⟨a, b, rfl, rfl⟩
        · obtain ⟨p, hp⟩ := m
          obtain ⟨p', hp'⟩ := n
          obtain rfl : p = p' := places
          rw [signs zero]
          exact Or.inl rfl
  · rintro (rfl | ⟨a, b, rfl, rfl⟩)
    · rfl
    · exact rank_zeros a b

/-- The numbers that are not finite have texts of their own. -/
theorem eq_of_text_not_finite (hx : x.finite? = none) (hy : y.finite? = none)
    (same : x.text = y.text) : x = y := by
  cases x with
  | nan =>
    cases y with
    | nan => rfl
    | signed b n =>
      obtain rfl := finite?_signed_eq_none_iff.mp hy
      cases b <;> exact absurd same (by decide)
  | signed a m =>
    obtain rfl := finite?_signed_eq_none_iff.mp hx
    cases y with
    | nan => cases a <;> exact absurd same (by decide)
    | signed b n =>
      obtain rfl := finite?_signed_eq_none_iff.mp hy
      cases a <;> cases b <;> first | rfl | exact absurd same (by decide)

theorem rank_eq_of_same (h : x.same y = true) : x.rank = y.rank := by
  simp only [same, Bool.and_eq_true, beq_iff_eq] at h
  exact h.2

/-- Numbers have the same text just if they have the same rank. -/
theorem text_eq_iff : x.text = y.text ↔ x.rank = y.rank := by
  constructor
  · intro same
    cases hx : x.finite? with
    | some f =>
      obtain rfl := finite?_eq_some_iff.mp hx
      exact (rank_eq_of_same (text_eq_text_iff.mp same.symm)).symm
    | none =>
      cases hy : y.finite? with
      | some f =>
        obtain rfl := finite?_eq_some_iff.mp hy
        exact rank_eq_of_same (text_eq_text_iff.mp same)
      | none => rw [eq_of_text_not_finite hx hy same]
  · intro same
    rcases rank_eq_iff.mp same with rfl | ⟨a, b, rfl, rfl⟩
    · rfl
    · cases a <;> cases b <;> rfl

/-- Numbers of one rank are the same as the same numbers. -/
theorem same_congr (h : x.rank = y.rank) (z : Binary64) : x.same z = y.same z := by
  rcases rank_eq_iff.mp h with rfl | ⟨a, b, rfl, rfl⟩
  · rfl
  · cases a <;> cases b <;> rfl

theorem same_comm (x y : Binary64) : x.same y = y.same x := by
  rw [same, same, Bool.and_comm (x != nan), Bool.beq_comm]

end Binary64

/-! ## Cells -/

namespace Cell

/-- The cells are the same, or both are zeros. -/
inductive UpToZero : Cell → Cell → Prop
  | same (c : Cell) : UpToZero c c
  | zeros (a b : Bool) : UpToZero (.number (.signed a .zero)) (.number (.signed b .zero))

namespace UpToZero

variable {a b a' b' : Cell}

theorem of_rank_eq {x y : Binary64} (h : x.rank = y.rank) : UpToZero (.number x) (.number y) := by
  rcases Binary64.rank_eq_iff.mp h with rfl | ⟨a, b, rfl, rfl⟩
  · exact .same _
  · exact .zeros a b

/-- Zeros have one text. -/
theorem text?_eq (h : a.UpToZero b) : a.text? = b.text? := by
  cases h with
  | same => rfl
  | zeros s t =>
    have texts : (Binary64.signed s .zero).text = (Binary64.signed t .zero).text :=
      Binary64.text_eq_iff.mpr (Binary64.rank_zeros s t)
    show some (String.ofList _) = some (String.ofList _)
    rw [texts]

/-- Both zeros are served as the integer 0. -/
theorem toJson_eq (h : a.UpToZero b) : a.toJson = b.toJson := by
  have zero : ∀ s, (number (.signed s .zero)).toJson = .integer 0 := fun s =>
    toJson_integer (x := ⟨s, .zero, by decide⟩) (Binary64.safeInteger?_zero rfl)
  cases h with
  | same => rfl
  | zeros s t => rw [zero, zero]

/-- Zeros compare alike with everything. -/
theorem compareIn_eq (h : a.UpToZero b) (h' : a'.UpToZero b') (d : Direction) :
    compareIn d a a' = compareIn d b b' := by
  have tied : ∀ {c c' : Cell}, c.UpToZero c' → compareIn d c c' = .eq := by
    intro c c' related
    cases related with
    | same => exact Std.ReflCmp.compare_self
    | zeros s t => cases s <;> cases t <;> cases d <;> rfl
  rw [Std.TransCmp.congr_left (tied h), Std.TransCmp.congr_right (tied h')]

/-- Zeros meet the same literals. -/
theorem meets_eq (h : a.UpToZero b) (l : Literal) : Filter.meets l a = Filter.meets l b := by
  cases l with
  | text s => simp only [Filter.meets, h.text?_eq]
  | date s => simp only [Filter.meets, h.text?_eq]
  | number x =>
    cases h with
    | same => rfl
    | zeros s t => exact Binary64.same_congr (Binary64.rank_zeros s t) x

end UpToZero

/-- Cells meet a zero whatever its sign. -/
theorem meets_zero (s t : Bool) (c : Cell) :
    Filter.meets (.number (.signed s .zero)) c = Filter.meets (.number (.signed t .zero)) c := by
  show c.number?.any _ = c.number?.any _
  congr 1
  funext x
  rw [Binary64.same_comm, Binary64.same_congr (Binary64.rank_zeros s t), Binary64.same_comm]

end Cell

/-! ## Rows -/

namespace Row

/-- The rows have the same names in the same order, and under each name the same cell or two
zeros. -/
def UpToZero : Row → Row → Prop := List.Forall₂ fun c d => c.1 = d.1 ∧ c.2.UpToZero d.2

variable {r s r' s' : Row}

theorem UpToZero.cell (h : r.UpToZero s) (name : String) :
    (r.cell name).UpToZero (s.cell name) := by
  have found : Option.Rel Cell.UpToZero (r.lookup name) (s.lookup name) :=
    rel_lookup (R := fun _ => Cell.UpToZero) h name
  unfold Row.cell
  generalize r.lookup name = c, s.lookup name = d at found
  cases found with
  | none => exact .same _
  | some cells => exact cells

/-- Filters accept the same rows. -/
theorem UpToZero.accepts_eq (h : r.UpToZero s) (f : Filter) : f.accepts r = f.accepts s :=
  (h.cell f.property).meets_eq f.operand

/-- Rows compare alike by any key. -/
theorem UpToZero.compareRows_eq (h : r.UpToZero s) (h' : r'.UpToZero s') (k : OrderKey) :
    k.compareRows r r' = k.compareRows s s' :=
  (h.cell k.property).compareIn_eq (h'.cell k.property) k.direction

/-- Rows are served alike. -/
theorem UpToZero.toJson_eq (h : r.UpToZero s) : r.toJson = s.toJson := by
  have members : r.map (fun c => (c.1, c.2.toJson)) = s.map fun c => (c.1, c.2.toJson) := by
    induction h with
    | nil => rfl
    | cons first _ ih => rw [List.map_cons, List.map_cons, first.1, first.2.toJson_eq, ih]
  rw [toJson, toJson, members]

end Row

end ODataGateway
