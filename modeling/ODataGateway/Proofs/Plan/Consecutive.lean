/-
# ODataGateway.Proofs.Plan.Consecutive — filters that select a block of the order by their name.

In a list that never goes down, a class of elements stands together if nothing but elements of the
class stands between two of them (`consecutive_of_sorted`).  Dates and numbers select such classes:
texts that start alike have only such texts between them, and numbers of one rank only numbers of
this rank.  So in rows that are sorted by a name, those that meet a date or a number under the name
are one block, going up as well as down (`Plan.filter_consecutive`).
-/
import ODataGateway.Proofs.Plan.Sorted
import ODataGateway.Proofs.Query.Dated
import ODataGateway.Proofs.Query.ZeroSign

namespace ODataGateway

/-! ## Blocks of sorted lists -/

section

variable {α : Type} {cmp : α → α → Ordering} {p : α → Bool} {xs : List α}

/-- The elements of a class stand next to each other, with no others between them. -/
def Consecutive (p : α → Bool) (xs : List α) : Prop :=
  ∃ before block after, xs = before ++ block ++ after ∧ (∀ x ∈ block, p x = true) ∧
    ∀ x ∈ before ++ after, p x = false

/-- In a sorted list a class stands together if it has what stands between its elements. -/
theorem consecutive_of_sorted (sorted : xs.Pairwise fun x y => cmp x y ≠ .gt)
    (between : ∀ x ∈ xs, ∀ y ∈ xs, ∀ z ∈ xs, cmp x y ≠ .gt → cmp y z ≠ .gt →
      p x = true → p z = true → p y = true) : Consecutive p xs := by
  induction xs with
  | nil => exact ⟨[], [], [], rfl, fun _ h => absurd h List.not_mem_nil,
      fun _ h => absurd h List.not_mem_nil⟩
  | cons x xs ih =>
    obtain ⟨first, rest⟩ := List.pairwise_cons.mp sorted
    obtain ⟨before, block, after, rfl, inside, outside⟩ := ih rest fun a ha b hb c hc =>
      between a (List.mem_cons_of_mem _ ha) b (List.mem_cons_of_mem _ hb) c
        (List.mem_cons_of_mem _ hc)
    cases hx : p x with
    | false =>
      refine ⟨x :: before, block, after, rfl, inside, ?_⟩
      exact List.forall_mem_cons.mpr ⟨hx, outside⟩
    | true =>
      -- an element that heads a block which is there already stands right before it
      cases block with
      | nil =>
        refine ⟨[], [x], before ++ after, by simp, ?_, outside⟩
        exact List.forall_mem_cons.mpr ⟨hx, inside⟩
      | cons z block =>
        cases before with
        | nil =>
          refine ⟨[], x :: z :: block, after, rfl, ?_, outside⟩
          exact List.forall_mem_cons.mpr ⟨hx, inside⟩
        | cons y before =>
          have hz : z ∈ before ++ z :: block ++ after := by simp
          have yz : cmp y z ≠ .gt := List.rel_of_pairwise_cons rest hz
          have hy : p y = true := between x (List.mem_cons_self ..) y
            (List.mem_cons_of_mem _ (List.mem_cons_self ..)) z
            (List.mem_cons_of_mem _ (List.mem_cons_of_mem _ hz))
            (first y (List.mem_cons_self ..)) yz hx (inside z (List.mem_cons_self ..))
          exact absurd (hy.symm.trans (outside y (List.mem_cons_self ..))) (by decide)

end

/-! ## What stands between cells that meet a literal -/

namespace Filter

variable {a b c : Cell}

/-- Null meets no literal. -/
theorem ne_null_of_meets {l : Literal} (h : meets l a = true) : a ≠ .null := by
  rintro rfl
  cases l <;> exact nomatch h

/-- Between texts that start with a date stand such texts. -/
theorem meets_date_of_between {date : String} (h : Literal.DateForm date.toList)
    (ha : ∀ s, a ≠ .raw (.string s)) (hc : ∀ s, c ≠ .raw (.string s)) (between : Cell.Between a b c)
    (first : meets (.date date) a = true) (last : meets (.date date) c = true) :
    meets (.date date) b = true := by
  obtain ⟨s, rfl, startsFirst⟩ := exists_text_of_meets h ha first
  obtain ⟨u, rfl, startsLast⟩ := exists_text_of_meets h hc last
  obtain ⟨t, rfl, notBefore, notAfter⟩ := between.text
  exact meets_date_text (isPrefix_of_between startsFirst startsLast notBefore notAfter)

/-- Between numbers that are equal to a number stand such numbers. -/
theorem meets_number_of_between {v : Binary64} (ha : NumberOrNull a) (hc : NumberOrNull c)
    (between : Cell.Between a b c) (first : meets (.number v) a = true)
    (last : meets (.number v) c = true) : meets (.number v) b = true := by
  obtain ⟨x, rfl⟩ := ha.resolve_left (ne_null_of_meets first)
  obtain ⟨z, rfl⟩ := hc.resolve_left (ne_null_of_meets last)
  obtain ⟨y, rfl, low, high⟩ := between.number
  have lowest : x.rank = v.rank := Binary64.rank_eq_of_same first
  have highest : z.rank = v.rank := Binary64.rank_eq_of_same last
  have level : y.rank = x.rank := by omega
  exact (Binary64.same_congr level v).trans first

end Filter

/-! ## Sorted rows -/

namespace Plan

/-- A filter selects a block of the rows sorted by its name, if all cells there have a property such
that between two of them that meet the literal nothing stands but cells that meet it. -/
theorem consecutive_of_between {name : String} {l : Literal} {rows : List Row} (d : Direction)
    {P : Cell → Prop} (holds : ∀ r ∈ rows, P (r.cell name))
    (between : ∀ a b c, P a → P c → Cell.Between a b c → Filter.meets l a = true →
      Filter.meets l c = true → Filter.meets l b = true) :
    Consecutive (Filter.accepts ⟨name, l⟩) (Plan.run id [.sort ⟨name, d⟩] rows) := by
  have stable := Stage.stablySorted_sort id name d rows
  apply consecutive_of_sorted stable.sorted
  intro r hr s _ t ht rs st first last
  have hr : P (r.cell name) := holds r (stable.perm.subset hr)
  have ht : P (t.cell name) := holds t (stable.perm.subset ht)
  rcases Cell.between_or_between (Filter.ne_null_of_meets first) (Filter.ne_null_of_meets last) rs
    st with up | down
  · exact between _ _ _ hr ht up first last
  · exact between _ _ _ ht hr down last first

/-- A date or a number selects one block of the order by the name it is asked for.  In the rows of
any items, sorted by a name in either direction, those that start with a date under the name are
consecutive, and so are those that have an equal number there, if the name is that of a numeric
property.  Rows that meet a date have a text under the name: neither the text of a number nor that
of any JSON value starts with a date. -/
theorem filter_consecutive (schema : Schema) (items : List Json) (name : String) (d : Direction) :
    (∀ date : String, Literal.DateForm date.toList →
      Consecutive (Filter.accepts ⟨name, .date date⟩)
        (Plan.run id [.sort ⟨name, d⟩] (items.map (Row.ofJson schema)))) ∧
    (schema.IsNumeric name → ∀ v : Binary64,
      Consecutive (Filter.accepts ⟨name, .number v⟩)
        (Plan.run id [.sort ⟨name, d⟩] (items.map (Row.ofJson schema)))) ∧
    (∀ date : String, Literal.DateForm date.toList →
      (∀ item, Filter.accepts ⟨name, .date date⟩ (Row.ofJson schema item) = true →
        ∃ s, (Row.ofJson schema item).cell name = .text s) ∧
      (∀ x : Binary64, ¬ date.toList <+: x.text) ∧
      ∀ v : Json, ¬ date.toList <+: Json.write v) := by
  have ofItems : ∀ P : Cell → Prop, (∀ item, P ((Row.ofJson schema item).cell name)) →
      ∀ r ∈ items.map (Row.ofJson schema), P (r.cell name) := by
    intro P every r hr
    obtain ⟨item, -, rfl⟩ := List.mem_map.mp hr
    exact every item
  refine ⟨?_, ?_, ?_⟩
  · intro date h
    have noText := ofItems (fun c => ∀ s, c ≠ .raw (.string s))
      fun item => Row.cell_ofJson_ne_raw name
    exact consecutive_of_between d noText fun a b c => Filter.meets_date_of_between h
  · intro numeric v
    have numbers := ofItems Filter.NumberOrNull fun item => Row.numberOrNull_cell numeric
    exact consecutive_of_between d numbers fun a b c => Filter.meets_number_of_between
  · intro date h
    refine ⟨?_, h.not_isPrefix_text, h.not_isPrefix_write⟩
    intro item accepted
    obtain ⟨s, text, -⟩ := Row.exists_text_of_date h accepted
    exact ⟨s, text⟩

/-- Timestamps, a number and an array in one column going down, and zeros of both signs beside
not-a-number in another one going up. -/
theorem filter_consecutive_columns :
    Consecutive (Filter.accepts ⟨"day", .date "2025-08-01"⟩)
      (Plan.run id [.sort ⟨"day", .descending⟩]
        ([.object [("day", .string "2025-08-01T09:00")], .object [("day", .integer 2025)],
          .object [("day", .string "2025-07-31")], .object [("day", .array [.integer 2025])],
          .object [("day", .string "2025-08-01")], .null].map
          (Row.ofJson ⟨"Visit", "Visits", "day",
            [⟨"day", .string, true⟩, ⟨"price", .double, true⟩], by decide⟩))) ∧
    Consecutive (Filter.accepts ⟨"price", .number .zero⟩)
      (Plan.run id [.sort ⟨"price", .ascending⟩]
        ([.object [("price", .string "-0.0")], .object [("price", .string "free")],
          .object [("price", .integer 0)]].map
          (Row.ofJson ⟨"Visit", "Visits", "day",
            [⟨"day", .string, true⟩, ⟨"price", .double, true⟩], by decide⟩))) := by
  refine ⟨?_, ?_⟩
  · exact (filter_consecutive _ _ _ _).1 "2025-08-01" (Literal.isDate_iff.mp (by decide))
  · have numeric : Schema.IsNumeric ⟨"Visit", "Visits", "day",
        [⟨"day", .string, true⟩, ⟨"price", .double, true⟩], by decide⟩ "price" :=
      ⟨_, List.mem_cons_of_mem _ (List.mem_cons_self ..), rfl, by decide⟩
    exact (filter_consecutive _ _ _ _).2.1 numeric .zero

end Plan

end ODataGateway
