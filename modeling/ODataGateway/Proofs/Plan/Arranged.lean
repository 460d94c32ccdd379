/-
# ODataGateway.Proofs.Plan.Arranged — what it is to put a list in order, and that it can be done.

Elements carry their places along, so that equal ones at two places are told apart.  A list is
`Arranged` from another when it holds the same placed elements, never goes down, and keeps the
order of places among elements that tie.  There is one arrangement of a list and no more, and
`mergeSort` finds it.
-/
namespace ODataGateway

open Std (OrientedCmp ReflCmp TransCmp)

variable {α : Type} {cmp : α → α → Ordering} {xs ys zs : List (α × Nat)}

/-- The second list is the first one put in order. -/
structure Arranged (cmp : α → α → Ordering) (xs ys : List (α × Nat)) : Prop where
  perm : ys.Perm xs
  sorted : ys.Pairwise fun x y => cmp x.1 y.1 ≠ .gt
  stable : ys.Pairwise fun x y => cmp x.1 y.1 = .eq → x.2 < y.2

/-- The order that sorting looks at: elements only, not their places. -/
def notAfter (cmp : α → α → Ordering) (x y : α × Nat) : Bool := (cmp x.1 y.1).isLE

/-- Whether two placed elements have the same standing in the order. -/
def ties (cmp : α → α → Ordering) (x y : α × Nat) : Bool := cmp x.1 y.1 == .eq

theorem ties_iff {x y : α × Nat} : ties cmp x y = true ↔ cmp x.1 y.1 = .eq := by
  rw [ties, beq_iff_eq]

/-- The places that a list gives its elements go up. -/
theorem placed_zipIdx (xs : List α) : xs.zipIdx.Pairwise fun x y => x.2 < y.2 := by
  have places : (xs.zipIdx.map Prod.snd).Pairwise (· < ·) := by
    rw [List.zipIdx_map_snd]
    exact List.pairwise_lt_range'
  exact List.pairwise_map.mp places

/-! ## Uniqueness -/

/-- Two placed elements cannot each come before the other. -/
theorem not_before_each_other [OrientedCmp cmp] {x y : α × Nat}
    (hxy : cmp x.1 y.1 ≠ .gt) (tie : cmp x.1 y.1 = .eq → x.2 < y.2)
    (hyx : cmp y.1 x.1 ≠ .gt) (tie' : cmp y.1 x.1 = .eq → y.2 < x.2) : False := by
  have heq : cmp x.1 y.1 = .eq :=
    OrientedCmp.isLE_antisymm (Ordering.isLE_iff_ne_gt.mpr hxy) (Ordering.isLE_iff_ne_gt.mpr hyx)
  have hlt : x.2 < y.2 := tie heq
  have hgt : y.2 < x.2 := tie' (OrientedCmp.eq_symm heq)
  omega

/-- A list can be put in order in one way only. -/
theorem Arranged.unique [OrientedCmp cmp] (hy : Arranged cmp xs ys) (hz : Arranged cmp xs zs) :
    ys = zs := by
  have perm : ys.Perm zs := hy.perm.trans hz.perm.symm
  refine perm.eq_of_pairwise (fun x y _ _ before after => ?_) (hy.sorted.and hy.stable)
    (hz.sorted.and hz.stable)
  exact (not_before_each_other before.1 before.2 after.1 after.2).elim

/-! ## Existence -/

section

variable [TransCmp cmp]

theorem notAfter_trans (x y z : α × Nat) (hxy : notAfter cmp x y) (hyz : notAfter cmp y z) :
    notAfter cmp x z := TransCmp.isLE_trans hxy hyz

theorem notAfter_total (x y : α × Nat) : notAfter cmp x y || notAfter cmp y x := by
  unfold notAfter
  have swap : cmp y.1 x.1 = (cmp x.1 y.1).swap := OrientedCmp.eq_swap
  rw [swap]
  cases cmp x.1 y.1 <;> rfl

/-- What ties with one element ties with each other. -/
theorem notAfter_of_ties {x y z : α × Nat} (hy : ties cmp x y = true) (hz : ties cmp x z = true) :
    notAfter cmp y z = true := by
  rw [ties_iff] at hy hz
  have hyz : cmp y.1 z.1 = .eq := TransCmp.eq_trans (OrientedCmp.eq_symm hy) hz
  exact Ordering.isLE_of_eq_eq hyz

/-- Sorting leaves the elements that tie with a given one as they stand. -/
theorem filter_ties_mergeSort (x : α × Nat) :
    (xs.mergeSort (notAfter cmp)).filter (ties cmp x) = xs.filter (ties cmp x) := by
  have level : (xs.filter (ties cmp x)).Pairwise fun y z => notAfter cmp y z := by
    rw [List.pairwise_filter]
    exact List.pairwise_of_forall fun y z => notAfter_of_ties
  have kept := (List.sublist_mergeSort notAfter_trans notAfter_total level
    List.filter_sublist).filter (ties cmp x)
  simp only [List.filter_filter, Bool.and_self] at kept
  have length : (xs.filter (ties cmp x)).length =
      ((xs.mergeSort (notAfter cmp)).filter (ties cmp x)).length :=
    ((List.mergeSort_perm xs _).filter _).length_eq.symm
  exact (kept.eq_of_length length).symm

/-- Two elements of a class that stands alike in two lists stand alike in both. -/
theorem sublist_pair_of_filter_eq {β : Type} {p : β → Bool} {xs ys : List β} {x y : β}
    (same : ys.filter p = xs.filter p) (hx : p x = true) (hy : p y = true)
    (pair : [x, y].Sublist ys) : [x, y].Sublist xs := by
  have both : [x, y].filter p = [x, y] := by simp [hx, hy]
  have among : ([x, y].filter p).Sublist (ys.filter p) := pair.filter p
  rw [both, same] at among
  exact among.trans List.filter_sublist

/-- The elements that tie stay in order when the list was in order of places. -/
theorem stable_mergeSort (placed : xs.Pairwise fun x y => x.2 < y.2) :
    (xs.mergeSort (notAfter cmp)).Pairwise fun x y => cmp x.1 y.1 = .eq → x.2 < y.2 := by
  rw [List.pairwise_iff_forall_sublist]
  intro x y pair tie
  have self : ties cmp x x = true := ties_iff.mpr ReflCmp.compare_self
  -- the pair stands among the ties of its first element, which sorting did not touch
  have before : [x, y].Sublist xs :=
    sublist_pair_of_filter_eq (filter_ties_mergeSort x) self (ties_iff.mpr tie) pair
  exact List.pairwise_iff_forall_sublist.mp placed before

/-- Sorting puts a list in order. -/
theorem arranged_mergeSort (placed : xs.Pairwise fun x y => x.2 < y.2) :
    Arranged cmp xs (xs.mergeSort (notAfter cmp)) where
  perm := List.mergeSort_perm ..
  sorted := by
    have h : (xs.mergeSort (notAfter cmp)).Pairwise fun x y => notAfter cmp x y :=
      List.pairwise_mergeSort notAfter_trans notAfter_total xs
    exact h.imp Ordering.isLE_iff_ne_gt.mp
  stable := stable_mergeSort placed

end

end ODataGateway
