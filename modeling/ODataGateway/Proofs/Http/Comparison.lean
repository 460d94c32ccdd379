/-
# ODataGateway.Proofs.Http.Comparison — the rounds in which two sequences of bytes are compared.

A comparison starts from the difference of the lengths, and each round adds the difference of the
bytes at one place, where a zero stands in for a byte that is missing.  What was gathered is never
taken back, so it is nothing just as long as the lengths agree and so do the bytes that were looked
at (`Comparison.After.gathered_eq_zero_iff`): a zero at the end of one sequence only looks like a
missing byte, and then the lengths have told.  Whether there is another round is asked of the place
alone, so the number of rounds is the longer length for all contents (`Comparison.ends_iff`).
-/
import ODataGateway.Proofs.Http.BasicScheme

namespace ODataGateway.Text

/-! ## Pairs by place -/

section

variable {as bs : List UInt8}

/-- At each place of the longer sequence stands a pair, with zeros for missing bytes. -/
theorem getElem?_pairUp {i : Nat} (h : i < max as.length bs.length) :
    (pairUp as bs)[i]? = some (as.getD i 0, bs.getD i 0) := by
  fun_induction pairUp as bs generalizing i with
  | case1 => exact absurd h (Nat.not_lt_zero i)
  | case2 a as ih | case3 b bs ih | case4 a as b bs ih =>
    cases i with
    | zero => rfl
    | succ i =>
      refine ih ?_
      simp only [List.length_cons, List.length_nil] at h ⊢
      omega

/-- The first pairs are those of the first bytes. -/
theorem take_pairUp (as bs : List UInt8) (n : Nat) :
    (pairUp as bs).take n = pairUp (as.take n) (bs.take n) := by
  fun_induction pairUp as bs generalizing n with
  | case1 => simp only [List.take_nil, pairUp]
  | case2 a as ih | case3 b bs ih | case4 a as b bs ih =>
    cases n with
    | zero => simp only [List.take_zero, pairUp]
    | succ n => simp only [List.take_succ_cons, List.take_nil, pairUp, ih]

end

/-! ## Rounds -/

/-- A comparison under way: the place to look at next, and what was gathered so far. -/
structure Comparison where
  place : Nat
  gathered : Nat

namespace Comparison

/-- Before the first round there is the difference of the lengths. -/
def start (as bs : List UInt8) : Comparison := ⟨0, as.length ^^^ bs.length⟩

/-- One round adds the difference at its place; there is none behind the longer sequence. -/
def round? (as bs : List UInt8) (s : Comparison) : Option Comparison :=
  if s.place < max as.length bs.length then
    some ⟨s.place + 1, s.gathered ||| (as.getD s.place 0 ^^^ bs.getD s.place 0).toNat⟩
  else none

/-- How a comparison stands after so many rounds. -/
inductive After (as bs : List UInt8) : Nat → Comparison → Prop
  | start : After as bs 0 (start as bs)
  | round {n : Nat} {s s' : Comparison} (before : After as bs n s)
      (h : s.round? as bs = some s') : After as bs (n + 1) s'

/-- A comparison ends after so many rounds with a verdict: there is no further round, and the
sequences are the same if nothing was gathered. -/
def Ends (as bs : List UInt8) (n : Nat) (verdict : Bool) : Prop :=
  ∃ s, After as bs n s ∧ s.round? as bs = none ∧ verdict = (s.gathered == 0)

variable {as bs : List UInt8} {n : Nat} {s s' : Comparison}

theorem round?_eq_some_iff : s.round? as bs = some s' ↔ s.place < max as.length bs.length ∧
    s' = ⟨s.place + 1, s.gathered ||| (as.getD s.place 0 ^^^ bs.getD s.place 0).toNat⟩ := by
  rw [round?]
  split
  · next more => rw [Option.some.injEq, and_iff_right more, eq_comm]
  · next done => exact iff_of_false (fun h => by cases h) fun h => done h.1

theorem round?_eq_none_iff : s.round? as bs = none ↔ max as.length bs.length ≤ s.place := by
  rw [round?]
  split
  · next more => exact iff_of_false (Option.some_ne_none _) (Nat.not_le.mpr more)
  · next done => exact iff_of_true rfl (Nat.not_lt.mp done)

/-- The rounds go through the places in order, and gather what lies in the pairs there. -/
theorem After.eq (h : After as bs n s) : n ≤ max as.length bs.length ∧
    s = ⟨n, ((pairUp as bs).take n).foldl (fun gathered p => gathered ||| (p.1 ^^^ p.2).toNat)
      (as.length ^^^ bs.length)⟩ := by
  induction h with
  | start => exact ⟨Nat.zero_le _, rfl⟩
  | round before h ih =>
    obtain ⟨-, rfl⟩ := ih
    obtain ⟨more, rfl⟩ := round?_eq_some_iff.mp h
    refine ⟨more, ?_⟩
    rw [List.take_add_one, getElem?_pairUp more, List.foldl_append]
    rfl

/-- Up to the longer length there is always a further round. -/
theorem exists_after (h : n ≤ max as.length bs.length) : ∃ s, After as bs n s := by
  induction n with
  | zero => exact ⟨_, .start⟩
  | succ n ih =>
    obtain ⟨s, before⟩ := ih (Nat.le_of_succ_le h)
    have more : s.place < max as.length bs.length := by
      rw [before.eq.2]
      exact h
    exact ⟨_, before.round (round?_eq_some_iff.mpr ⟨more, rfl⟩)⟩

/-- Nothing is gathered while the bytes agree, if the lengths do; and a difference that was found
stays. -/
theorem After.gathered_eq_zero_iff (h : After as bs n s) :
    s.gathered = 0 ↔ as.length = bs.length ∧ as.take n = bs.take n := by
  rw [h.eq.2]
  show List.foldl _ _ _ = 0 ↔ _
  rw [Text.gathered_eq_zero_iff, Nat.xor_eq_zero_iff, take_pairUp]
  refine and_congr_right fun length => pairUp_same_iff ?_
  rw [List.length_take, List.length_take, length]

/-- A comparison has as many rounds as the longer sequence has bytes, and its verdict is that of the
whole. -/
theorem ends_iff {verdict : Bool} : Ends as bs n verdict ↔
    n = max as.length bs.length ∧ verdict = sameBytes as bs := by
  have last (s : Comparison) (after : After as bs (max as.length bs.length) s) :
      (s.gathered == 0) = sameBytes as bs := by
    have all : (pairUp as bs).length ≤ max as.length bs.length := Nat.le_of_eq (length_pairUp as bs)
    rw [after.eq.2, List.take_of_length_le all]
    rfl
  constructor
  · rintro ⟨s, after, done, rfl⟩
    obtain ⟨within, place⟩ := after.eq
    rw [round?_eq_none_iff, place] at done
    obtain rfl : n = max as.length bs.length := Nat.le_antisymm within done
    exact ⟨rfl, last s after⟩
  · rintro ⟨rfl, rfl⟩
    obtain ⟨s, after⟩ := exists_after (Nat.le_refl (max as.length bs.length))
    have place : s.place = max as.length bs.length := congrArg Comparison.place after.eq.2
    exact ⟨s, after, round?_eq_none_iff.mpr (Nat.le_of_eq place.symm), (last s after).symm⟩

end Comparison

/-! ## The verdict -/

/-- Zeros at the end make another sequence. -/
theorem eq_append_replicate_iff {as : List UInt8} {n : Nat} :
    as = as ++ List.replicate n 0 ↔ n = 0 := by
  rw [List.self_eq_append_right, List.replicate_eq_nil_iff]

/-- Sequences are found to be the same exactly if they are, and zeros at the end of one are seen.
Whatever they hold, the verdict comes after as many rounds as the longer of them has bytes; and
after each of them nothing is gathered just if the lengths and the bytes up to there agree. -/
theorem sameBytes_exact (as bs : List UInt8) :
    (sameBytes as bs = true ↔ as = bs) ∧
    (∀ n, (sameBytes as (as ++ List.replicate n 0) = true ↔ n = 0) ∧
      (sameBytes (as ++ List.replicate n 0) as = true ↔ n = 0)) ∧
    (∀ n verdict, Comparison.Ends as bs n verdict ↔
      n = max as.length bs.length ∧ verdict = sameBytes as bs) ∧
    ∀ n s, Comparison.After as bs n s →
      (s.gathered = 0 ↔ as.length = bs.length ∧ as.take n = bs.take n) := by
  refine ⟨sameBytes_iff, fun n => ⟨?_, ?_⟩, fun n verdict => Comparison.ends_iff,
    fun n s after => after.gathered_eq_zero_iff⟩
  · rw [sameBytes_iff, eq_append_replicate_iff]
  · rw [sameBytes_iff, eq_comm, eq_append_replicate_iff]

end ODataGateway.Text
