/-
# ODataGateway.Proofs.Plan.Drawn — what a plan draws from its source.

No stage makes rows up, alters one or gives one twice: what it gives is a part of what it got, if in
another order (`Stage.subperm_run`), and so is what a whole plan gives, however its stages follow
each other (`Plan.subperm_run`).  So what one filter of a plan has let through, or one limit cut
off, no later stage brings back.  `Plan.Draws` states all that holds of the rows drawn, which carry
their places in the source along.
-/
import Mathlib.Data.List.Perm.Subperm
import ODataGateway.Proofs.Plan.Answer

namespace ODataGateway

section

variable {α : Type} {view : α → Row} {xs : List α} {x : α}

/-! ## One stage -/

/-- A stage gives a part of what it gets. -/
theorem Stage.subperm_run (stage : Stage) (xs : List α) : (stage.run view xs).Subperm xs := by
  cases stage with
  | filter f => exact List.filter_sublist.subperm
  | sort k => exact (List.mergeSort_perm xs _).subperm
  | skip n => exact (List.drop_sublist n xs).subperm
  | top n => exact (List.take_sublist n xs).subperm

/-- Only sorting moves anything. -/
theorem Stage.sublist_run {stage : Stage} (unsorted : ∀ k, stage ≠ .sort k) (xs : List α) :
    (stage.run view xs).Sublist xs := by
  cases stage with
  | filter f => exact List.filter_sublist
  | sort k => exact absurd rfl (unsorted k)
  | skip n => exact List.drop_sublist n xs
  | top n => exact List.take_sublist n xs

/-- A stage that cuts nothing off gives what meets its filter, if it is one. -/
theorem Stage.mem_run_iff {stage : Stage} (uncut : ∀ n, stage ≠ .skip n ∧ stage ≠ .top n) :
    x ∈ stage.run view xs ↔
      x ∈ xs ∧ ∀ f, stage = .filter f → f.accepts (view x) = true := by
  cases stage with
  | filter f =>
    show x ∈ xs.filter (fun x => f.accepts (view x)) ↔ _
    rw [List.mem_filter]
    simp only [Stage.filter.injEq, forall_eq']
  | sort k =>
    show x ∈ xs.mergeSort _ ↔ _
    rw [List.mem_mergeSort]
    exact (and_iff_left fun f impossible => Stage.noConfusion impossible).symm
  | skip n => exact absurd rfl (uncut n).1
  | top n => exact absurd rfl (uncut n).2

/-! ## All stages -/

/-- What each stage of a plan keeps, the plan keeps. -/
theorem Plan.run_keeps {P : List α → Prop} {plan : Plan}
    (keeps : ∀ stage ∈ plan, ∀ ys, P ys → P (stage.run view ys)) (h : P xs) :
    P (plan.run view xs) :=
  List.foldlRecOn plan (Stage.run view) h fun ys hys stage member => keeps stage member ys hys

/-- A plan gives a part of what it gets. -/
theorem Plan.subperm_run (plan : Plan) (xs : List α) : (plan.run view xs).Subperm xs := by
  apply Plan.run_keeps (P := fun ys => ys.Subperm xs)
  · intro stage _ ys part
    exact (stage.subperm_run ys).trans part
  · exact List.Subperm.refl xs

/-- Without a sorting stage nothing is moved. -/
theorem Plan.sublist_run {plan : Plan} (unsorted : ∀ k, Stage.sort k ∉ plan) (xs : List α) :
    (plan.run view xs).Sublist xs := by
  apply Plan.run_keeps (P := fun ys => ys.Sublist xs)
  · intro stage member ys part
    have notSort : ∀ k, stage ≠ .sort k := by
      rintro k rfl
      exact unsorted k member
    exact (Stage.sublist_run notSort ys).trans part
  · exact List.Sublist.refl xs

/-- Without a stage that cuts off, a plan gives what meets all of its filters. -/
theorem Plan.mem_run_iff {plan : Plan} (uncut : ∀ n, Stage.skip n ∉ plan ∧ Stage.top n ∉ plan) :
    x ∈ plan.run view xs ↔
      x ∈ xs ∧ ∀ f, Stage.filter f ∈ plan → f.accepts (view x) = true := by
  induction plan generalizing xs with
  | nil => exact (and_iff_left fun f absent => absurd absent List.not_mem_nil).symm
  | cons stage plan ih =>
    have stageUncut : ∀ n, stage ≠ .skip n ∧ stage ≠ .top n := by
      intro n
      refine ⟨?_, ?_⟩ <;> rintro rfl
      · exact (uncut n).1 (List.mem_cons_self ..)
      · exact (uncut n).2 (List.mem_cons_self ..)
    have planUncut : ∀ n, Stage.skip n ∉ plan ∧ Stage.top n ∉ plan := by
      intro n
      exact ⟨fun member => (uncut n).1 (List.mem_cons_of_mem _ member),
        fun member => (uncut n).2 (List.mem_cons_of_mem _ member)⟩
    show x ∈ Plan.run view plan (stage.run view xs) ↔ _
    rw [ih planUncut, Stage.mem_run_iff stageUncut, and_assoc, ← forall_and]
    simp only [List.mem_cons, or_imp, eq_comm]

/-- What a plan gives has met each filter in it. -/
theorem Plan.accepts_of_mem_run {plan : Plan} {f : Filter} (member : Stage.filter f ∈ plan)
    (hx : x ∈ plan.run view xs) : f.accepts (view x) = true := by
  obtain ⟨before, behind, rfl⟩ := List.append_of_mem member
  rw [Plan.run_append] at hx
  -- the stages behind the filter give a part of what it let through
  have passed : x ∈ Stage.run view (Plan.run view before xs) (.filter f) :=
    (Plan.subperm_run behind _).subset hx
  exact (List.mem_filter.mp passed).2

/-- What a plan gives is within each limit in it. -/
theorem Plan.length_run_le_of_top {plan : Plan} {n : Nat} (member : Stage.top n ∈ plan) :
    (plan.run view xs).length ≤ n := by
  obtain ⟨before, behind, rfl⟩ := List.append_of_mem member
  rw [Plan.run_append]
  calc (Plan.run view (.top n :: behind) (Plan.run view before xs)).length
      ≤ ((Plan.run view before xs).take n).length := (Plan.subperm_run behind _).length_le
    _ ≤ n := List.length_take_le n _

end

/-! ## Rows with their places -/

/-- The places of a part of the placed rows differ. -/
theorem nodup_places_of_subperm {source : List Row} {drawn : List (Row × Nat)}
    (part : drawn.Subperm source.zipIdx) : (drawn.map Prod.snd).Nodup := by
  obtain ⟨ordered, perm, sub⟩ := part
  have places : (source.zipIdx.map Prod.snd).Nodup := by
    rw [List.zipIdx_map_snd]
    exact List.nodup_range'
  exact ((perm.map Prod.snd).nodup_iff).mp (places.sublist (sub.map Prod.snd))

/-- What holds of the placed rows that a plan draws from its source. -/
structure Plan.Draws (plan : Plan) (source : List Row) (drawn : List (Row × Nat)) : Prop where
  /-- No row of the source is given twice. -/
  distinct : (drawn.map Prod.snd).Nodup
  /-- Each row given is the row of the source at its place. -/
  unaltered : ∀ r ∈ drawn, source[r.2]? = some r.1
  /-- Each row given meets all filters. -/
  met : ∀ f, Stage.filter f ∈ plan → ∀ r ∈ drawn, f.accepts r.1 = true
  /-- Where nothing sorts, the rows stand as in the source. -/
  ordered : (∀ k, Stage.sort k ∉ plan) → drawn.Pairwise fun r s => r.2 < s.2
  /-- Where nothing cuts off, the rows given are all those that meet the filters. -/
  complete : (∀ n, Stage.skip n ∉ plan ∧ Stage.top n ∉ plan) → ∀ r : Row × Nat,
    r ∈ drawn ↔ source[r.2]? = some r.1 ∧ ∀ f, Stage.filter f ∈ plan → f.accepts r.1 = true
  /-- No limit is passed. -/
  limited : ∀ n, Stage.top n ∈ plan → drawn.length ≤ n

/-- No plan makes rows up, gives one twice or alters one. What a plan gives are rows of the source
at places that differ. They meet all filters of the plan and are no more than any of its limits. If
no stage sorts they stand as in the source, and if no stage cuts off they are all the rows that meet
the filters. -/
theorem Plan.run_draws (plan : Plan) (source : List Row) :
    Plan.run id plan source = (Plan.run Prod.fst plan source.zipIdx).map Prod.fst ∧
    plan.Draws source (Plan.run Prod.fst plan source.zipIdx) := by
  refine ⟨Plan.run_rows plan source, ?_⟩
  have part : (Plan.run Prod.fst plan source.zipIdx).Subperm source.zipIdx :=
    Plan.subperm_run plan source.zipIdx
  exact {
    distinct := nodup_places_of_subperm part
    unaltered := fun r hr => List.mem_zipIdx_iff_getElem?.mp (part.subset hr)
    met := fun f member r hr => Plan.accepts_of_mem_run member hr
    ordered := fun unsorted => (placed_zipIdx source).sublist (Plan.sublist_run unsorted _)
    complete := by
      intro uncut r
      rw [Plan.mem_run_iff uncut, List.mem_zipIdx_iff_getElem?]
    limited := fun n member => Plan.length_run_le_of_top member }

end ODataGateway
