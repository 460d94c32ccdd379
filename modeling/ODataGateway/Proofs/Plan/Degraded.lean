/-
# ODataGateway.Proofs.Plan.Degraded — what becomes of options that cannot be read.

A malformed option spoils no stage but its own: the answer is the one without the option
(`Answer.lenient_dropMalformed`), so any of the malformed options may go, or all of them.  Being
strict changes one thing, which is that a filter that is not blank has to be readable
(`Answer.strict_eq_error_iff`).
-/
import ODataGateway.Proofs.Plan.Answer
import ODataGateway.Proofs.Query.FilterGrammar

namespace ODataGateway

/-! ## Blank texts -/

/-- No order key stands in a blank text. -/
theorem OrderKey.parse?_of_allBlank {s : String} (h : Text.allBlank s = true) :
    parse? s = none := by
  rw [parse?, Text.trimmed, Text.allBlank_iff.mp h]
  rfl

/-- No filter stands in a blank text. -/
theorem Filter.parse?_of_allBlank {s : String} (h : Text.allBlank s = true) :
    parse? s = none := by
  rw [Option.eq_none_iff_forall_ne_some]
  intro f read
  obtain ⟨w, written, -⟩ := written_of_parse (parse?_eq_some_iff.mp read)
  rw [Text.allBlank_iff.mp h, Written.text, List.append_eq_nil_iff] at written
  exact w.word_nonempty written.1

/-! ## Malformed options -/

/-- Whether the text of an option says nothing that its stage can use. -/
def SystemOption.isMalformed : SystemOption → String → Bool
  | .filter, s => (Filter.parse? s).isNone
  | .orderBy, s => Text.allBlank s
  | .top, s | .skip, s => Text.allBlank s || Binary64.ofText s == .nan
  | .count, s => s != "true"

namespace Options

/-- The options without the given one, if it is malformed. -/
def dropMalformed (o : Options) (k : SystemOption) : Options :=
  if (o.get k).any k.isMalformed then o.put k none else o

/-- The options without those that are malformed. -/
def pruned (o : Options) : Options := SystemOption.all.foldl dropMalformed o

theorem get_dropMalformed (o : Options) (k j : SystemOption) :
    (o.dropMalformed k).get j =
      if j = k then (o.get k).filter fun s => !k.isMalformed s else o.get j := by
  unfold dropMalformed
  cases given : o.get k with
  | none =>
    by_cases same : j = k
    · rw [if_pos same, same]
      exact given
    · rw [if_neg same]
      rfl
  | some s =>
    rw [Option.any_some, Option.filter_some]
    cases k.isMalformed s with
    | true => exact get_put o k none j
    | false =>
      by_cases same : j = k
      · rw [if_pos same, same]
        exact given
      · rw [if_neg same]
        rfl

/-- What is left of every option. -/
theorem get_pruned (o : Options) (k : SystemOption) :
    o.pruned.get k = (o.get k).filter fun s => !k.isMalformed s := by
  show (((((o.dropMalformed .filter).dropMalformed .orderBy).dropMalformed .top).dropMalformed
    .skip).dropMalformed .count).get k = _
  simp only [get_dropMalformed]
  cases k <;> rfl

example : pruned ⟨some "name = 1", some " ", some "three", some "3", some "yes"⟩ =
    ⟨none, none, none, some "3", none⟩ := by decide +kernel

end Options

/-! ## Paging -/

namespace Paging

/-- A malformed number is none, or not-a-number. -/
theorem number?_malformed {s : String}
    (h : (Text.allBlank s || Binary64.ofText s == .nan) = true) :
    number? (some s) = none ∨ number? (some s) = some .nan := by
  by_cases blank : Text.allBlank s = true
  · exact Or.inl (number?_of_allBlank blank)
  · rw [Bool.or_eq_true, or_iff_right blank, beq_iff_eq] at h
    rw [number?_of_given (Bool.eq_false_of_not_eq_true blank), h]
    exact Or.inr rfl

/-- A malformed count passes over nothing, be it as no stage or as one that does nothing. -/
theorem skip_malformed {s : String} (h : SystemOption.isMalformed .skip s = true) :
    (skip (some s)).getD 0 = 0 := by
  rcases number?_malformed h with number | number
  · rw [skip, number]
    rfl
  · rw [skip, number]
    rfl

/-- A malformed limit is none. -/
theorem top_malformed {s : String} (h : SystemOption.isMalformed .top s = true) :
    top (some s) = none := by
  rcases number?_malformed h with number | number
  · rw [top, number]
    rfl
  · rw [top, number]
    rfl

end Paging

/-! ## Lenient answers -/

section

variable {o o' : Options}

/-- To pass over nothing is the same as not to pass over anything. -/
theorem Options.page_congr (skip : (Paging.skip o.skip).getD 0 = (Paging.skip o'.skip).getD 0)
    (top : Paging.top o.top = Paging.top o'.top) {α : Type} (xs : List α) :
    o.page xs = o'.page xs := by
  have page_eq : ∀ o : Options, o.page xs =
      (Paging.top o.top).elim (xs.drop ((Paging.skip o.skip).getD 0))
        (xs.drop ((Paging.skip o.skip).getD 0)).take := by
    intro o
    rw [page]
    cases Paging.skip o.skip <;> cases Paging.top o.top <;> rfl
  rw [page_eq, page_eq, skip, top]

/-- What of the options an answer depends on; of the filter that is what it accepts. -/
theorem Answer.lenient_congr_accepts
    (filter : ∀ row, ((o.filter.bind Filter.parse?).all fun f => f.accepts row) =
      (o'.filter.bind Filter.parse?).all fun f => f.accepts row)
    (orderBy : o.orderBy.bind OrderKey.parse? = o'.orderBy.bind OrderKey.parse?)
    (skip : (Paging.skip o.skip).getD 0 = (Paging.skip o'.skip).getD 0)
    (top : Paging.top o.top = Paging.top o'.top) (count : o.wantsCount = o'.wantsCount)
    (rows : List Row) : lenient o rows = lenient o' rows := by
  have ran : Plan.run id (Plan.lenient o) rows = Plan.run id (Plan.lenient o') rows := by
    rw [Plan.run_lenient, Plan.run_lenient, orderBy, Options.page_congr skip top]
    simp only [filter]
  rw [lenient, lenient, ofPlan, ofPlan, ran, count]

/-- Options of which the parts are read as the same have the same answer. -/
theorem Answer.lenient_congr
    (filter : o.filter.bind Filter.parse? = o'.filter.bind Filter.parse?)
    (orderBy : o.orderBy.bind OrderKey.parse? = o'.orderBy.bind OrderKey.parse?)
    (skip : (Paging.skip o.skip).getD 0 = (Paging.skip o'.skip).getD 0)
    (top : Paging.top o.top = Paging.top o'.top) (count : o.wantsCount = o'.wantsCount)
    (rows : List Row) : lenient o rows = lenient o' rows :=
  lenient_congr_accepts (fun _ => by rw [filter]) orderBy skip top count rows

end

namespace Answer

/-- A malformed option may as well not be there. -/
theorem lenient_put_none {o : Options} {k : SystemOption} {s : String} (given : o.get k = some s)
    (malformed : k.isMalformed s = true) (rows : List Row) :
    lenient (o.put k none) rows = lenient o rows := by
  -- each of them changes one of the things that the answer depends on, and that to the same
  cases k with
  | filter =>
    have none : o.filter.bind Filter.parse? = none := by
      have filter : o.filter = some s := given
      rw [filter, Option.bind_some]
      exact Option.isNone_iff_eq_none.mp malformed
    apply lenient_congr
    case filter => exact none.symm
    all_goals rfl
  | orderBy =>
    have none : o.orderBy.bind OrderKey.parse? = none := by
      have orderBy : o.orderBy = some s := given
      rw [orderBy, Option.bind_some]
      exact OrderKey.parse?_of_allBlank malformed
    apply lenient_congr
    case orderBy => exact none.symm
    all_goals rfl
  | top =>
    have none : Paging.top o.top = none := by
      have top : o.top = some s := given
      rw [top]
      exact Paging.top_malformed malformed
    apply lenient_congr
    case top => exact none.symm
    all_goals rfl
  | skip =>
    have none : (Paging.skip o.skip).getD 0 = 0 := by
      have skip : o.skip = some s := given
      rw [skip]
      exact Paging.skip_malformed malformed
    apply lenient_congr
    case skip => exact none.symm
    all_goals rfl
  | count =>
    have none : o.wantsCount = false := by
      have count : o.count = some s := given
      rw [Options.wantsCount, count]
      simpa [SystemOption.isMalformed] using malformed
    apply lenient_congr
    case count => exact none.symm
    all_goals rfl

theorem lenient_dropMalformed (o : Options) (k : SystemOption) (rows : List Row) :
    lenient (o.dropMalformed k) rows = lenient o rows := by
  unfold Options.dropMalformed
  split
  · next h =>
    obtain ⟨s, given, malformed⟩ := (Option.any_eq_true _ _).mp h
    exact lenient_put_none given malformed rows
  · rfl

/-- Any number of them may be left out. -/
theorem lenient_foldl_dropMalformed (ks : List SystemOption) (o : Options) (rows : List Row) :
    lenient (ks.foldl Options.dropMalformed o) rows = lenient o rows := by
  -- along the list; what is left out before has changed nothing
  induction ks generalizing o with
  | nil => rfl
  | cons k ks ih =>
    rw [List.foldl_cons, ih, lenient_dropMalformed]

end Answer

/-! ## Strict answers -/

/-- The plan that a strict reading gives is that of the lenient one. -/
theorem Plan.eq_lenient_of_strict {o : Options} {plan : Plan} (h : strict o = .ok plan) :
    plan = lenient o := by
  unfold strict at h
  unfold lenient
  cases given : o.filter with
  | none =>
    rw [given] at h
    exact (Except.ok.inj h).symm
  | some s =>
    rw [given] at h
    rw [Option.bind_some]
    -- a blank filter is left out here, and cannot be read there
    by_cases blank : Text.allBlank s = true
    · simp only [if_pos blank] at h
      rw [Filter.parse?_of_allBlank blank]
      exact (Except.ok.inj h).symm
    · simp only [if_neg blank] at h
      cases read : Filter.parse s with
      | error d =>
        rw [read] at h
        exact nomatch h
      | ok f =>
        rw [read] at h
        rw [Filter.parse?_eq_some_iff.mpr read]
        exact (Except.ok.inj h).symm

namespace Answer

/-- The only thing that a strict answer can fail on is a filter that is not blank. -/
theorem strict_eq_error_iff {o : Options} {rows : List Row} {e : Diagnostic} :
    strict o rows = .error e ↔
      ∃ s, o.filter = some s ∧ Text.allBlank s = false ∧ Filter.parse s = .error e := by
  unfold strict Plan.strict
  cases o.filter with
  | none => exact ⟨nofun, fun ⟨_, h, _⟩ => nomatch h⟩
  | some s =>
    simp only [Option.some.injEq, exists_eq_left']
    by_cases blank : Text.allBlank s = true
    · rw [if_pos blank, blank]
      exact ⟨nofun, fun ⟨h, _⟩ => nomatch h⟩
    · rw [if_neg blank, and_iff_right (Bool.not_eq_true _ ▸ blank)]
      cases Filter.parse s with
      | error d =>
        constructor
        · intro h
          rw [Except.error.inj h]
        · intro h
          rw [Except.error.inj h]
          rfl
      | ok f => exact ⟨nofun, nofun⟩

/-- A strict answer that does not fail is the lenient one. -/
theorem strict_error_or_lenient (o : Options) (rows : List Row) :
    (∃ e, strict o rows = .error e) ∨ strict o rows = .ok (lenient o rows) := by
  cases read : Plan.strict o with
  | error e =>
    left
    exact ⟨e, by rw [strict, read]; rfl⟩
  | ok plan =>
    right
    have planned : plan = Plan.lenient o := Plan.eq_lenient_of_strict read
    rw [strict, read, planned]
    rfl

/-- What malformed options do.  Left out, one by one or all together, they change no answer.  A
strict answer fails just for a filter that is neither blank nor readable, in the same way whatever
the rows and the other options, and is the lenient answer otherwise. -/
theorem strict_exact (o : Options) (rows : List Row) :
    (∀ k, o.pruned.get k = (o.get k).filter fun s => !k.isMalformed s) ∧
    lenient o.pruned rows = lenient o rows ∧
    (∀ ks : List SystemOption,
      lenient (ks.foldl Options.dropMalformed o) rows = lenient o rows) ∧
    (∀ e, strict o rows = .error e ↔
      ∃ s, o.filter = some s ∧ Text.allBlank s = false ∧ Filter.parse s = .error e) ∧
    ((∃ e, strict o rows = .error e) ∨ strict o rows = .ok (lenient o rows)) := by
  refine ⟨o.get_pruned, ?_, fun ks => lenient_foldl_dropMalformed ks o rows,
    fun e => strict_eq_error_iff, strict_error_or_lenient o rows⟩
  exact lenient_foldl_dropMalformed SystemOption.all o rows

end Answer

end ODataGateway
