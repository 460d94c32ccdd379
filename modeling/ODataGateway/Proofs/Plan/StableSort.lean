/-
# ODataGateway.Proofs.Plan.StableSort — what a stable sort is, without places.

A list is a stable sort of another when it holds the same elements, never goes down, and has every
class of elements that tie in the order in which the other has it.  A list that never goes down is
fixed by its classes (`eq_of_ties`), so there is one stable sort.  An `Arranged` list of placed
elements is one once the places are left out (`Arranged.stablySorted`), and so is what `mergeSort`
gives.
-/
import ODataGateway.Proofs.Plan.Arranged

namespace ODataGateway

open Std (OrientedCmp ReflCmp TransCmp)

variable {α : Type} {cmp : α → α → Ordering} {xs ys zs : List α}

/-! ## Classes of ties -/

/-- The elements of a list that tie with a given one, as they stand. -/
def tiesWith (cmp : α → α → Ordering) (x : α) (xs : List α) : List α :=
  xs.filter fun y => cmp x y == .eq

theorem mem_tiesWith {x y : α} : y ∈ tiesWith cmp x xs ↔ y ∈ xs ∧ cmp x y = .eq := by
  rw [tiesWith, List.mem_filter, beq_iff_eq]

theorem tiesWith_append (x : α) (xs ys : List α) :
    tiesWith cmp x (xs ++ ys) = tiesWith cmp x xs ++ tiesWith cmp x ys :=
  List.filter_append xs ys

theorem tiesWith_reverse (x : α) (xs : List α) :
    tiesWith cmp x xs.reverse = (tiesWith cmp x xs).reverse :=
  List.filter_reverse

theorem tiesWith_cons_of_eq {x y : α} (tie : cmp x y = .eq) (xs : List α) :
    tiesWith cmp x (y :: xs) = y :: tiesWith cmp x xs := by
  exact List.filter_cons_of_pos (by rw [tie]; rfl)

theorem tiesWith_cons_of_ne {x y : α} (apart : cmp x y ≠ .eq) (xs : List α) :
    tiesWith cmp x (y :: xs) = tiesWith cmp x xs := by
  apply List.filter_cons_of_neg
  intro tie
  exact apart (beq_iff_eq.mp tie)

theorem tiesWith_eq_nil {x : α} (apart : ∀ y ∈ xs, cmp x y ≠ .eq) : tiesWith cmp x xs = [] := by
  rw [tiesWith, List.filter_eq_nil_iff]
  intro y hy tie
  exact apart y hy (beq_iff_eq.mp tie)

/-- Taking out elements and looking at a class may be done in either order. -/
theorem tiesWith_filter_comm (x : α) (p : α → Bool) (xs : List α) :
    tiesWith cmp x (xs.filter p) = (tiesWith cmp x xs).filter p := by
  rw [tiesWith, tiesWith, List.filter_filter, List.filter_filter]
  apply List.filter_congr
  intro y _
  exact Bool.and_comm _ _

/-- Taking out only elements of other classes leaves the class of an element as it is. -/
theorem tiesWith_filter {x : α} {p : α → Bool} (stays : ∀ y ∈ xs, cmp x y = .eq → p y = true) :
    tiesWith cmp x (xs.filter p) = tiesWith cmp x xs := by
  rw [tiesWith, tiesWith, List.filter_filter]
  apply List.filter_congr
  intro y hy
  cases tie : cmp x y with
  | eq => simp [stays y hy tie]
  | lt => rfl
  | gt => rfl

/-- Where no two elements tie a class has one element at most. -/
theorem tiesWith_reverse_of_distinct [TransCmp cmp]
    (distinct : xs.Pairwise fun x y => cmp x y ≠ .eq) (x : α) :
    tiesWith cmp x xs.reverse = tiesWith cmp x xs := by
  rw [tiesWith_reverse]
  have apart : (tiesWith cmp x xs).Pairwise fun y z => cmp y z ≠ .eq := distinct.filter _
  have tied : ∀ y ∈ tiesWith cmp x xs, cmp x y = .eq := fun y hy => (mem_tiesWith.mp hy).2
  generalize tiesWith cmp x xs = tying at apart tied
  rcases tying with - | ⟨y, - | ⟨z, rest⟩⟩
  · rfl
  · rfl
  · have hy : cmp x y = .eq := tied y (List.mem_cons_self ..)
    have hz : cmp x z = .eq := tied z (List.mem_cons_of_mem _ (List.mem_cons_self ..))
    have hyz : cmp y z = .eq := TransCmp.eq_trans (OrientedCmp.eq_symm hy) hz
    exact absurd hyz (List.rel_of_pairwise_cons apart (List.mem_cons_self ..))

/-! ## Stable sorts -/

/-- The second list is the first one sorted, with the elements that tie left as they stand. -/
structure StablySorted (cmp : α → α → Ordering) (xs ys : List α) : Prop where
  perm : ys.Perm xs
  sorted : ys.Pairwise fun x y => cmp x y ≠ .gt
  ties : ∀ x, tiesWith cmp x ys = tiesWith cmp x xs

/-- Lists with the same classes have the same elements. -/
theorem mem_of_ties [ReflCmp cmp] (same : ∀ x, tiesWith cmp x ys = tiesWith cmp x zs) {y : α}
    (hy : y ∈ ys) : y ∈ zs := by
  have hmem : y ∈ tiesWith cmp y ys := mem_tiesWith.mpr ⟨hy, ReflCmp.compare_self⟩
  rw [same y] at hmem
  exact (mem_tiesWith.mp hmem).1

theorem head_not_after [ReflCmp cmp] {y z : α} (hy : (y :: ys).Pairwise fun x y => cmp x y ≠ .gt)
    (hz : z ∈ y :: ys) : cmp y z ≠ .gt := by
  rcases List.mem_cons.mp hz with rfl | later
  · have self : cmp z z = .eq := ReflCmp.compare_self
    rw [self]
    decide
  · exact (List.pairwise_cons.mp hy).1 z later

/-- A list that never goes down is fixed by its classes. -/
theorem eq_of_ties [TransCmp cmp] (hy : ys.Pairwise fun x y => cmp x y ≠ .gt)
    (hz : zs.Pairwise fun x y => cmp x y ≠ .gt)
    (same : ∀ x, tiesWith cmp x ys = tiesWith cmp x zs) : ys = zs := by
  have back : ∀ x, tiesWith cmp x zs = tiesWith cmp x ys := fun x => (same x).symm
  -- element by element; the two first ones tie, and so head the same class
  induction ys generalizing zs with
  | nil =>
    cases zs with
    | nil => rfl
    | cons z zs => exact nomatch mem_of_ties back (List.mem_cons_self ..)
  | cons y ys ih =>
    cases zs with
    | nil => exact nomatch mem_of_ties same (List.mem_cons_self ..)
    | cons z zs =>
      have hyz : cmp y z ≠ .gt := head_not_after hy (mem_of_ties back (List.mem_cons_self ..))
      have hzy : cmp z y ≠ .gt := head_not_after hz (mem_of_ties same (List.mem_cons_self ..))
      have tie : cmp y z = .eq := OrientedCmp.isLE_antisymm (Ordering.isLE_iff_ne_gt.mpr hyz)
        (Ordering.isLE_iff_ne_gt.mpr hzy)
      obtain rfl : y = z := by
        have heads := same y
        rw [tiesWith_cons_of_eq ReflCmp.compare_self, tiesWith_cons_of_eq tie] at heads
        exact (List.cons.inj heads).1
      have rest : ∀ x, tiesWith cmp x ys = tiesWith cmp x zs := by
        intro x
        have classes := same x
        by_cases hxy : cmp x y = .eq
        · rw [tiesWith_cons_of_eq hxy, tiesWith_cons_of_eq hxy] at classes
          exact (List.cons.inj classes).2
        · rwa [tiesWith_cons_of_ne hxy, tiesWith_cons_of_ne hxy] at classes
      rw [ih (List.pairwise_cons.mp hy).2 (List.pairwise_cons.mp hz).2 rest
        fun x => (rest x).symm]

/-- There is one stable sort of a list. -/
theorem StablySorted.unique [TransCmp cmp] (hy : StablySorted cmp xs ys)
    (hz : StablySorted cmp xs zs) : ys = zs := by
  apply eq_of_ties hy.sorted hz.sorted
  intro x
  rw [hy.ties, hz.ties]

/-! ## From places -/

/-- Classes of placed elements are classes of elements. -/
theorem tiesWith_map_fst (x : α) (n : Nat) (ps : List (α × Nat)) :
    tiesWith cmp x (ps.map Prod.fst) = (ps.filter (ties cmp (x, n))).map Prod.fst :=
  List.filter_map

/-- Placed elements that are put in order are a stable sort of the elements. -/
theorem Arranged.stablySorted [TransCmp cmp] {ps : List (α × Nat)}
    (h : Arranged cmp xs.zipIdx ps) : StablySorted cmp xs (ps.map Prod.fst) where
  perm := by
    have perm : (ps.map Prod.fst).Perm (xs.zipIdx.map Prod.fst) := h.perm.map Prod.fst
    rwa [List.zipIdx_map_fst] at perm
  sorted := List.pairwise_map.mpr h.sorted
  ties := by
    intro x
    have found : ps = xs.zipIdx.mergeSort (notAfter cmp) :=
      h.unique (arranged_mergeSort (placed_zipIdx xs))
    calc tiesWith cmp x (ps.map Prod.fst)
        = (ps.filter (ODataGateway.ties cmp (x, 0))).map Prod.fst := tiesWith_map_fst x 0 ps
      _ = (xs.zipIdx.filter (ODataGateway.ties cmp (x, 0))).map Prod.fst := by
          rw [found, filter_ties_mergeSort]
      _ = tiesWith cmp x (xs.zipIdx.map Prod.fst) := (tiesWith_map_fst x 0 xs.zipIdx).symm
      _ = tiesWith cmp x xs := by rw [List.zipIdx_map_fst]

/-- Sorting is stable. -/
theorem stablySorted_mergeSort [TransCmp cmp] (xs : List α) :
    StablySorted cmp xs (xs.mergeSort fun x y => (cmp x y).isLE) := by
  have arranged : Arranged cmp xs.zipIdx (xs.zipIdx.mergeSort (notAfter cmp)) :=
    arranged_mergeSort (placed_zipIdx xs)
  have forgotten : (xs.zipIdx.mergeSort (notAfter cmp)).map Prod.fst =
      (xs.zipIdx.map Prod.fst).mergeSort fun x y => (cmp x y).isLE :=
    List.map_mergeSort fun x _ y _ => rfl
  rw [List.zipIdx_map_fst] at forgotten
  rw [← forgotten]
  exact arranged.stablySorted

/-! ## Sorts from sorts -/

/-- Taking elements out of a sort is sorting what is left of the list. -/
theorem StablySorted.filter (p : α → Bool) (h : StablySorted cmp xs ys) :
    StablySorted cmp (xs.filter p) (ys.filter p) where
  perm := h.perm.filter p
  sorted := h.sorted.filter p
  ties := by
    intro x
    rw [tiesWith_filter_comm, tiesWith_filter_comm, h.ties]

/-- Elements that come after all others and tie among themselves stay at the end as they stand. -/
theorem StablySorted.append_last [OrientedCmp cmp] {last : α → Bool}
    (before : ∀ x y, last x = false → last y = true → cmp x y = .lt)
    (level : ∀ x y, last x = true → last y = true → cmp x y = .eq)
    (h : StablySorted cmp (xs.filter fun x => !last x) ys) :
    StablySorted cmp xs (ys ++ xs.filter last) := by
  have isLast : ∀ x ∈ xs.filter last, last x = true := fun x hx => (List.mem_filter.mp hx).2
  have notLast : ∀ x ∈ xs.filter (fun x => !last x), last x = false := by
    intro x hx
    exact (Bool.not_eq_true' _).mp (List.mem_filter.mp hx).2
  -- a class has last elements only, or none
  have tie_last : ∀ x y, cmp x y = .eq → last x = last y := by
    intro x y tie
    cases hx : last x <;> cases hy : last y
    · rfl
    · exact absurd ((before x y hx hy).symm.trans tie) (by decide)
    · exact absurd ((before y x hy hx).symm.trans (OrientedCmp.eq_symm tie)) (by decide)
    · rfl
  refine ⟨?_, ?_, ?_⟩
  · have parts : (xs.filter last ++ xs.filter fun x => !last x).Perm xs :=
      List.filter_append_perm last xs
    exact (h.perm.append_right _).trans (List.perm_append_comm.trans parts)
  · rw [List.pairwise_append]
    refine ⟨h.sorted, ?_, ?_⟩
    · rw [List.pairwise_filter]
      apply List.pairwise_of_forall
      intro x y hx hy
      rw [level x y hx hy]
      decide
    · intro x hx y hy
      rw [before x y (notLast x (h.perm.mem_iff.mp hx)) (isLast y hy)]
      decide
  · intro x
    rw [tiesWith_append, h.ties]
    cases hx : last x with
    | true =>
      have apart : ∀ y ∈ xs.filter (fun y => !last y), cmp x y ≠ .eq := by
        intro y hy tie
        rw [tie_last x y tie, notLast y hy] at hx
        exact nomatch hx
      rw [tiesWith_eq_nil apart, List.nil_append]
      apply tiesWith_filter
      intro y _ tie
      rw [← tie_last x y tie, hx]
    | false =>
      have apart : ∀ y ∈ xs.filter last, cmp x y ≠ .eq := by
        intro y hy tie
        rw [tie_last x y tie, isLast y hy] at hx
        exact nomatch hx
      rw [tiesWith_eq_nil apart, List.append_nil]
      apply tiesWith_filter
      intro y _ tie
      rw [← tie_last x y tie, hx]
      rfl

/-- A sort in the opposite order, seen in a mirror, is a sort of the list in the mirror. -/
theorem StablySorted.mirrored {opposite : α → α → Ordering}
    (turned : ∀ x ∈ xs, ∀ y ∈ xs, opposite x y = cmp y x)
    (tied : ∀ x y, opposite x y = .eq ↔ cmp x y = .eq) (h : StablySorted opposite xs ys) :
    StablySorted cmp xs.reverse ys.reverse where
  perm := (List.reverse_perm ys).trans (h.perm.trans (List.reverse_perm xs).symm)
  sorted := by
    rw [List.pairwise_reverse]
    refine h.sorted.imp_of_mem ?_
    intro x y hx hy notAfter
    rwa [← turned x (h.perm.mem_iff.mp hx) y (h.perm.mem_iff.mp hy)]
  ties := by
    have classes : ∀ x zs, tiesWith cmp x zs = tiesWith opposite x zs := by
      intro x zs
      apply List.filter_congr
      intro y _
      rw [Bool.eq_iff_iff, beq_iff_eq, beq_iff_eq, tied]
    intro x
    rw [tiesWith_reverse, tiesWith_reverse, classes, classes, h.ties]

/-- Where no two elements tie it makes no difference in which order they stood. -/
theorem StablySorted.of_reverse [TransCmp cmp] (distinct : xs.Pairwise fun x y => cmp x y ≠ .eq)
    (h : StablySorted cmp xs.reverse ys) : StablySorted cmp xs ys where
  perm := h.perm.trans (List.reverse_perm xs)
  sorted := h.sorted
  ties := by
    intro x
    rw [h.ties, tiesWith_reverse_of_distinct distinct]

end ODataGateway
