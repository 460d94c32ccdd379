/-
# ODataGateway.Proofs.Plan.ZeroSign — the sign of zero is not seen in any answer.

Two collections of rows that differ in the signs of zeros are run through one plan side by side, as
pairs of rows.  A stage looks at a pair from either side and does the same with it
(`Stage.run_upToZero`), so the same pairs are left in the end, in the same order, and these are
served alike.  A filter that compares with a zero accepts the same rows whatever the sign and the
digits that the zero is written with (`Filter.AsksForZero`).
-/
import ODataGateway.Document
import ODataGateway.Proofs.Plan.Degraded
import ODataGateway.Proofs.Plan.Drawn
import ODataGateway.Proofs.Query.ZeroSign

namespace ODataGateway

/-! ## Two runs side by side -/

section

variable {α : Type} {view view' : α → Row} {xs : List α}

/-- A stage does the same on either side. -/
theorem Stage.run_upToZero (stage : Stage) (h : ∀ x ∈ xs, (view x).UpToZero (view' x)) :
    stage.run view xs = stage.run view' xs := by
  cases stage with
  | filter f => exact List.filter_congr fun x hx => (h x hx).accepts_eq f
  | sort k =>
    have sorted := List.map_mergeSort (f := id) (l := xs)
      (r := fun x y => (k.compareRows (view x) (view y)).isLE)
      (s := fun x y => (k.compareRows (view' x) (view' y)).isLE) fun x hx y hy =>
        congrArg Ordering.isLE ((h x hx).compareRows_eq (h y hy) k)
    rwa [List.map_id, List.map_id] at sorted
  | skip n => rfl
  | top n => rfl

/-- So does a plan. -/
theorem Plan.run_upToZero (plan : Plan) (h : ∀ x ∈ xs, (view x).UpToZero (view' x)) :
    plan.run view xs = plan.run view' xs := by
  -- along the stages; a stage leaves only elements that it was given
  induction plan generalizing xs with
  | nil => rfl
  | cons stage plan ih =>
    show Plan.run view plan (stage.run view xs) = Plan.run view' plan (stage.run view' xs)
    rw [← stage.run_upToZero h]
    exact ih fun x hx => h x ((stage.subperm_run xs).subset hx)

end

namespace Plan

/-- The places in the source of the rows that a plan gives, in the order in which it gives them. -/
def places (plan : Plan) (rows : List Row) : List Nat :=
  (plan.run Prod.fst rows.zipIdx).map Prod.snd

/-- The rows that a plan gives are those at their places. -/
theorem getElem?_places (plan : Plan) (rows : List Row) :
    (plan.places rows).map (fun i => rows[i]?) = (plan.run id rows).map some := by
  rw [places, run_rows, List.map_map, List.map_map]
  apply List.map_congr_left
  intro r hr
  exact List.mem_zipIdx_iff_getElem?.mp ((plan.subperm_run rows.zipIdx).subset hr)

variable {rows rows' : List Row}

/-- What a plan gives of two collections side by side, with the places. -/
theorem run_side_by_side (plan : Plan) (h : List.Forall₂ Row.UpToZero rows rows') :
    ∃ ps : List ((Row × Row) × Nat), (∀ p ∈ ps, p.1.1.UpToZero p.1.2) ∧
      plan.run Prod.fst rows.zipIdx = ps.map (Prod.map Prod.fst id) ∧
      plan.run Prod.fst rows'.zipIdx = ps.map (Prod.map Prod.snd id) := by
  obtain ⟨length, related⟩ := List.forall₂_iff_zip.mp h
  have left : rows.zipIdx = (rows.zip rows').zipIdx.map (Prod.map Prod.fst id) := by
    rw [← List.zipIdx_map, List.map_fst_zip length.le]
  have right : rows'.zipIdx = (rows.zip rows').zipIdx.map (Prod.map Prod.snd id) := by
    rw [← List.zipIdx_map, List.map_snd_zip length.ge]
  have pairs : ∀ p ∈ (rows.zip rows').zipIdx, p.1.1.UpToZero p.1.2 := fun p hp =>
    related (List.fst_mem_of_mem_zipIdx hp)
  refine ⟨plan.run (fun p => p.1.1) (rows.zip rows').zipIdx, ?_, ?_, ?_⟩
  · intro p hp
    exact pairs p ((plan.subperm_run _).subset hp)
  · rw [left]
    exact run_map plan _
  · rw [right, plan.run_upToZero pairs]
    exact run_map plan _

theorem places_eq (plan : Plan) (h : List.Forall₂ Row.UpToZero rows rows') :
    plan.places rows = plan.places rows' := by
  obtain ⟨ps, -, left, right⟩ := plan.run_side_by_side h
  rw [places, places, left, right, List.map_map, List.map_map]
  rfl

/-- The rows that are given differ in signs of zeros at most, and so they are served alike. -/
theorem map_toJson_run (plan : Plan) (h : List.Forall₂ Row.UpToZero rows rows') :
    (plan.run id rows).map Row.toJson = (plan.run id rows').map Row.toJson := by
  obtain ⟨ps, related, left, right⟩ := plan.run_side_by_side h
  rw [run_rows, run_rows, left, right]
  simp only [List.map_map]
  apply List.map_congr_left
  intro p hp
  exact (related p hp).toJson_eq

end Plan

/-! ## Answers -/

namespace Answer

/-- The two answers cannot be told apart by what is served: they have the same count, and their rows
and the documents around them have the same text. -/
structure ServedAlike (a b : Answer) : Prop where
  count : a.count = b.count
  rows : Row.wire a.rows = Row.wire b.rows
  document : ∀ serviceRoot entitySet,
    Json.write (a.toJson serviceRoot entitySet) = Json.write (b.toJson serviceRoot entitySet)

theorem servedAlike_ofPlan (plan : Plan) (o : Options) {rows rows' : List Row}
    (h : List.Forall₂ Row.UpToZero rows rows') :
    (ofPlan plan o rows).ServedAlike (ofPlan plan o rows') := by
  have values : (ofPlan plan o rows).rows.map Row.toJson =
      (ofPlan plan o rows').rows.map Row.toJson := plan.map_toJson_run h
  have count : (ofPlan plan o rows).count = (ofPlan plan o rows').count := by
    have length := congrArg List.length values
    rw [List.length_map, List.length_map] at length
    show (if o.wantsCount then some (ofPlan plan o rows).rows.length else none) =
      if o.wantsCount then some (ofPlan plan o rows').rows.length else none
    rw [length]
  refine ⟨count, ?_, fun serviceRoot entitySet => ?_⟩
  · rw [Row.wire, Row.wire, values]
  · rw [toJson, toJson, values, count]

end Answer

/-! ## Filters that compare with a zero -/

/-- The text is a number literal that denotes zero. -/
def Literal.DenotesZero (t : List Char) : Prop :=
  ∃ sign negative whole fraction, (sign, negative) ∈ Numeral.signs ∧ whole ≠ [] ∧
    (∀ c ∈ whole ++ fraction, c.isDigit = true) ∧ Numeral.denoted whole fraction = 0 ∧
    t = sign ++ (whole ++ Numeral.pointed fraction)

/-- A literal that denotes zero is one of the two zeros. -/
theorem Literal.DenotesZero.spells {t : List Char} (h : Literal.DenotesZero t) :
    ∃ a, Literal.Spells t (.number (.signed a .zero)) := by
  obtain ⟨sign, negative, whole, fraction, signed, nonempty, digits, zero, rfl⟩ := h
  refine ⟨negative, .number signed nonempty digits ?_⟩
  rw [zero, ← Magnitude.valueAt_zero]
  exact Magnitude.zero.isNearest_valueAt

namespace Filter

/-- The text is a filter that asks for zero under a name. -/
def AsksForZero (name s : String) : Prop :=
  ∃ w : Written, w.text = Text.trim s.toList ∧ w.word = name.toList ∧
    Literal.DenotesZero w.constant

theorem AsksForZero.parse {name s : String} (h : AsksForZero name s) :
    ∃ a, parse s = .ok ⟨name, .number (.signed a .zero)⟩ := by
  obtain ⟨w, text, word, zero⟩ := h
  obtain ⟨a, spelled⟩ := zero.spells
  have filter : w.filter = ⟨name, .number (.signed a .zero)⟩ := by
    rw [Written.filter, word, String.ofList_toList, w.spells.unique spelled]
  exact ⟨a, filter ▸ parse_of_written text⟩

/-- All of these filters accept the same rows. -/
theorem accepts_zero (name : String) (a b : Bool) (row : Row) :
    accepts ⟨name, .number (.signed a .zero)⟩ row =
      accepts ⟨name, .number (.signed b .zero)⟩ row := Cell.meets_zero a b _

end Filter

namespace Answer

theorem lenient_of_asksForZero (o : Options) {name s s' : String}
    (h : Filter.AsksForZero name s) (h' : Filter.AsksForZero name s') (rows : List Row) :
    lenient (o.put .filter (some s)) rows = lenient (o.put .filter (some s')) rows := by
  obtain ⟨a, read⟩ := h.parse
  obtain ⟨b, read'⟩ := h'.parse
  have given : ∀ {t f}, Filter.parse t = .ok f →
      (o.put .filter (some t)).filter.bind Filter.parse? = some f := by
    intro t f parsed
    show (some t).bind Filter.parse? = some f
    rw [Option.bind_some, Filter.parse?_eq_some_iff.mpr parsed]
  have orderBy : (o.put .filter (some s)).orderBy = (o.put .filter (some s')).orderBy := rfl
  have skip : (o.put .filter (some s)).skip = (o.put .filter (some s')).skip := rfl
  have top : (o.put .filter (some s)).top = (o.put .filter (some s')).top := rfl
  have count : (o.put .filter (some s)).count = (o.put .filter (some s')).count := rfl
  apply lenient_congr_accepts
  case filter =>
    intro row
    rw [given read, given read']
    exact Filter.accepts_zero name a b row
  case orderBy => rw [orderBy]
  case skip => rw [skip]
  case top => rw [top]
  case count => rw [Options.wantsCount, Options.wantsCount, count]

/-- A filter that can be read makes a strict answer of the lenient one. -/
theorem strict_of_asksForZero (o : Options) {name s : String} (h : Filter.AsksForZero name s)
    (rows : List Row) :
    strict (o.put .filter (some s)) rows = .ok (lenient (o.put .filter (some s)) rows) := by
  obtain ⟨a, read⟩ := h.parse
  refine (strict_error_or_lenient _ rows).resolve_left ?_
  rintro ⟨e, failed⟩
  obtain ⟨t, given, -, unread⟩ := strict_eq_error_iff.mp failed
  obtain rfl : s = t := Option.some.inj given
  exact nomatch read.symm.trans unread

/-- The sign of zero is not seen in any answer.  Let two collections of rows differ in the signs of
zeros only.  Every plan gives rows from the same places of both, in the same order.  Whatever the
options, a strict run fails with the same diagnostic or with none, and the answers have the same
count and the same text.  And whatever the rows, a filter that asks for zero may have its literal
replaced by any other one that denotes zero. -/
theorem zero_sign_unseen :
    (∀ rows rows' : List Row, List.Forall₂ Row.UpToZero rows rows' →
      (∀ plan : Plan, plan.places rows = plan.places rows' ∧
        (plan.places rows).map (fun i => rows[i]?) = (plan.run id rows).map some) ∧
      ∀ o : Options, (lenient o rows).ServedAlike (lenient o rows') ∧
        ((∃ e, strict o rows = .error e ∧ strict o rows' = .error e) ∨
          ∃ a b, strict o rows = .ok a ∧ strict o rows' = .ok b ∧ a.ServedAlike b)) ∧
    (∀ (name s s' : String), Filter.AsksForZero name s → Filter.AsksForZero name s' →
      ∀ (o : Options) (rows : List Row),
        lenient (o.put .filter (some s)) rows = lenient (o.put .filter (some s')) rows ∧
        strict (o.put .filter (some s)) rows = strict (o.put .filter (some s')) rows) := by
  refine ⟨?_, ?_⟩
  · intro rows rows' h
    refine ⟨fun plan => ⟨plan.places_eq h, plan.getElem?_places rows⟩, fun o => ?_⟩
    refine ⟨servedAlike_ofPlan _ o h, ?_⟩
    cases read : Plan.strict o with
    | error e => exact Or.inl ⟨e, by rw [strict, read]; rfl, by rw [strict, read]; rfl⟩
    | ok plan =>
      refine Or.inr ⟨ofPlan plan o rows, ofPlan plan o rows', ?_, ?_, servedAlike_ofPlan plan o h⟩
      · rw [strict, read]
        rfl
      · rw [strict, read]
        rfl
  · intro name s s' h h' o rows
    have same := lenient_of_asksForZero o h h' rows
    refine ⟨same, ?_⟩
    rw [strict_of_asksForZero o h, strict_of_asksForZero o h', same]

/-- A zero of either sign beside a null, in a sort going down and with a filter that asks for a
negative zero or for a positive one. -/
theorem zero_sign_unseen_price :
    Plan.places [.sort ⟨"price", .descending⟩]
        [[("price", .null)], [("price", .number (.signed true .zero))]] =
      Plan.places [.sort ⟨"price", .descending⟩]
        [[("price", .null)], [("price", .number (.signed false .zero))]] ∧
    lenient ⟨some "price eq -0.00", none, none, none, some "true"⟩
        [[("price", .null)], [("price", .number (.signed true .zero))]] =
      lenient ⟨some "price eq +0", none, none, none, some "true"⟩
        [[("price", .null)], [("price", .number (.signed true .zero))]] := by
  obtain ⟨collections, filters⟩ := zero_sign_unseen
  have asks : ∀ literal : String, Literal.DenotesZero literal.toList →
      Filter.AsksForZero "price" ("price" ++ " eq " ++ literal) := by
    intro literal zero
    obtain ⟨a, spelled⟩ := zero.spells
    have named : "price".toList ≠ [] := by decide
    obtain ⟨w, text, word, constant, -⟩ :=
      Filter.exists_written named (List.all_eq_true.mp (by decide)) spelled
    exact ⟨w, text, word, constant ▸ zero⟩
  have negative : Literal.DenotesZero "-0.00".toList :=
    ⟨['-'], true, ['0'], ['0', '0'], by decide, by decide, List.all_eq_true.mp (by decide),
      by norm_num [Numeral.denoted, Numeral.digitsValue], rfl⟩
  have positive : Literal.DenotesZero "+0".toList :=
    ⟨['+'], false, ['0'], [], by decide, by decide, List.all_eq_true.mp (by decide),
      by norm_num [Numeral.denoted, Numeral.digitsValue], rfl⟩
  refine ⟨((collections _ _ ?_).1 _).1, ?_⟩
  · exact .cons (.cons ⟨rfl, .same _⟩ .nil) (.cons (.cons ⟨rfl, .zeros true false⟩ .nil) .nil)
  · exact (filters "price" _ _ (asks "-0.00" negative) (asks "+0" positive)
      ⟨none, none, none, none, some "true"⟩ _).1

end Answer

end ODataGateway
