/-
# ODataGateway.Proofs.Json.Members — the members of an object, gathered by key.

Members are put one after the other into a list that stays sorted (`sorted_insertMember`).  So
sorted members are gathered into themselves (`ofMembers_sorted`), and of members with keys all
different none gets lost, in whatever order they come (`get?_ofMembers`).
-/
import ODataGateway.Json.Basic

namespace ODataGateway.Json

open Std (OrientedCmp TransCmp)

/-- The keys go up, and each is there once. -/
def Sorted (ms : List (String × Json)) : Prop := ms.Pairwise fun m n => compare m.1 n.1 = .lt

/-- The members put one after the other into those that are there. -/
def gathered (start ms : List (String × Json)) : List (String × Json) :=
  ms.foldl (fun sorted m => insertMember m.1 m.2 sorted) start

section

variable {ms start : List (String × Json)} {m : String × Json} {key k : String} {value : Json}

/-! ## One member -/

theorem mem_insertMember (h : m ∈ insertMember key value ms) : m = (key, value) ∨ m ∈ ms := by
  fun_induction insertMember key value ms with
  | case1 => exact Or.inl (List.mem_singleton.mp h)
  | case2 k v rest => exact List.mem_cons.mp h
  | case3 k v rest =>
    rcases List.mem_cons.mp h with rfl | h
    · exact Or.inl rfl
    · exact Or.inr (List.mem_cons_of_mem _ h)
  | case4 k v rest _ ih =>
    rcases List.mem_cons.mp h with rfl | h
    · exact Or.inr (List.mem_cons_self ..)
    · exact (ih h).imp_right (List.mem_cons_of_mem _)

/-- Sorted members stay sorted. -/
theorem sorted_insertMember (h : Sorted ms) : Sorted (insertMember key value ms) := by
  fun_induction insertMember key value ms with
  | case1 => exact List.pairwise_singleton _ _
  | case2 k v rest before =>
    refine List.pairwise_cons.mpr ⟨?_, h⟩
    intro n hn
    rcases List.mem_cons.mp hn with rfl | hn
    · exact before
    · exact TransCmp.lt_trans before (List.rel_of_pairwise_cons h hn)
  | case3 k v rest same =>
    obtain rfl : key = k := Std.compare_eq_iff_eq.mp same
    exact List.pairwise_cons.mpr ⟨fun n hn => List.rel_of_pairwise_cons h hn, h.of_cons⟩
  | case4 k v rest after ih =>
    refine List.pairwise_cons.mpr ⟨?_, ih h.of_cons⟩
    intro n hn
    rcases mem_insertMember hn with rfl | hn
    · exact OrientedCmp.gt_iff_lt.mp after
    · exact List.rel_of_pairwise_cons h hn

/-- A member with the greatest key comes last. -/
theorem insertMember_last (h : ∀ n ∈ ms, compare n.1 key = .lt) :
    insertMember key value ms = ms ++ [(key, value)] := by
  induction ms with
  | nil => rfl
  | cons n rest ih =>
    have after : compare key n.1 = .gt := OrientedCmp.gt_iff_lt.mpr (h n (List.mem_cons_self ..))
    have others := ih fun n' hn => h n' (List.mem_cons_of_mem _ hn)
    rw [insertMember, after, others]
    rfl

theorem lookup_member_cons {rest : List (String × Json)} :
    ((key, value) :: rest).lookup k = if k = key then some value else rest.lookup k := by
  by_cases same : k = key
  · rw [if_pos same, same, List.lookup_cons_self]
  · rw [if_neg same, List.lookup_cons, beq_false_of_ne same]

/-- What is put in is found under its key, and under other keys what was there before. -/
theorem lookup_insertMember :
    (insertMember key value ms).lookup k = if k = key then some value else ms.lookup k := by
  fun_induction insertMember key value ms with
  | case1 => exact lookup_member_cons
  | case2 k' v rest => exact lookup_member_cons
  | case3 k' v rest equal =>
    obtain rfl : key = k' := Std.compare_eq_iff_eq.mp equal
    rw [lookup_member_cons, lookup_member_cons]
    by_cases same : k = key
    · rw [if_pos same, if_pos same]
    · rw [if_neg same, if_neg same, if_neg same]
  | case4 k' v rest after ih =>
    rw [lookup_member_cons, lookup_member_cons, ih]
    by_cases here : k = k'
    · -- the key that is put in is a greater one
      have other : k ≠ key := by
        rintro rfl
        rw [here, Std.compare_self] at after
        exact nomatch after
      rw [if_pos here, if_neg other, if_pos here]
    · rw [if_neg here, if_neg here]

/-! ## All members -/

theorem mem_gathered (h : m ∈ gathered start ms) : m ∈ start ∨ m ∈ ms := by
  induction ms generalizing start with
  | nil => exact Or.inl h
  | cons n rest ih =>
    rcases ih h with h | h
    · rcases mem_insertMember h with rfl | h
      · exact Or.inr (List.mem_cons_self ..)
      · exact Or.inl h
    · exact Or.inr (List.mem_cons_of_mem _ h)

theorem sorted_gathered (h : Sorted start) (ms : List (String × Json)) :
    Sorted (gathered start ms) := by
  induction ms generalizing start with
  | nil => exact h
  | cons n rest ih => exact ih (sorted_insertMember h)

/-- Members that follow on those that are there are put behind them. -/
theorem gathered_append (h : Sorted (start ++ ms)) : gathered start ms = start ++ ms := by
  induction ms generalizing start with
  | nil => exact (List.append_nil start).symm
  | cons n rest ih =>
    have before : ∀ n' ∈ start, compare n'.1 n.1 = .lt := by
      intro n' hn
      exact (List.pairwise_append.mp h).2.2 n' hn n (List.mem_cons_self ..)
    have step : gathered start (n :: rest) = gathered (start ++ [n]) rest := by
      show gathered (insertMember n.1 n.2 start) rest = _
      rw [insertMember_last before]
    have cut : start ++ n :: rest = start ++ [n] ++ rest := by simp
    rw [step, cut]
    exact ih (cut ▸ h)

/-- Members with keys all different are found under them. -/
theorem lookup_gathered (distinct : (ms.map Prod.fst).Nodup) (k : String) :
    (gathered start ms).lookup k = (ms.lookup k).or (start.lookup k) := by
  induction ms generalizing start with
  | nil => rfl
  | cons n rest ih =>
    obtain ⟨fresh, others⟩ := List.nodup_cons.mp distinct
    have step : (gathered start (n :: rest)).lookup k =
        (rest.lookup k).or ((insertMember n.1 n.2 start).lookup k) := ih others
    rw [step, lookup_insertMember, lookup_member_cons]
    by_cases here : k = n.1
    · have later : rest.lookup k = none := by
        rw [List.lookup_eq_none_iff]
        intro p hp
        rw [here, bne_iff_ne]
        intro same
        exact fresh (same ▸ List.mem_map_of_mem hp)
      rw [later, if_pos here, if_pos here]
      rfl
    · rw [if_neg here, if_neg here]

theorem ofMembers_eq (ms : List (String × Json)) : ofMembers ms = .object (gathered [] ms) := rfl

/-- Sorted members make the object that has them. -/
theorem ofMembers_sorted (h : Sorted ms) : ofMembers ms = .object ms := by
  have behind : Sorted ([] ++ ms) := h
  rw [ofMembers_eq, gathered_append behind]
  rfl

/-- Every member is found under its key. -/
theorem get?_ofMembers (distinct : (ms.map Prod.fst).Nodup) (k : String) :
    (ofMembers ms).get? k = ms.lookup k := by
  show (gathered [] ms).lookup k = _
  rw [lookup_gathered distinct, List.lookup_nil, Option.or_none]

end

end ODataGateway.Json
