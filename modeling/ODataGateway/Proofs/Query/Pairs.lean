/-
# ODataGateway.Proofs.Query.Pairs — the options of a query are those that come first.

An option is what the first pair of its name gives it (`Options.get_ofPairs`).  Later pairs of the
name, pairs of other names and the order of different options make no difference.  Giving values one
by one goes the other way, since each value replaces the one before it (`Options.overwrite`), and so
it comes to the same when the pairs are taken from behind (`Options.ofPairs_first_wins`).
-/
import ODataGateway.Query.Options

namespace ODataGateway

/-! ## Names -/

namespace SystemOption

/-- An option is found under its own name and under no other. -/
theorem ofName?_eq_some_iff {name : String} {k : SystemOption} :
    ofName? name = some k ↔ name = k.name := by
  constructor
  · intro h
    unfold ofName? at h
    have found := List.find?_some h
    exact (beq_iff_eq.mp found).symm
  · rintro rfl
    cases k <;> rfl

/-- A name is unknown if it is the name of no option. -/
theorem ofName?_eq_none_iff {name : String} :
    ofName? name = none ↔ ∀ k : SystemOption, name ≠ k.name := by
  rw [Option.eq_none_iff_forall_ne_some]
  exact forall_congr' fun k => not_congr ofName?_eq_some_iff

theorem name_injective {j k : SystemOption} (h : j.name = k.name) : j = k := by
  have found : ofName? j.name = some k := ofName?_eq_some_iff.mpr h
  rw [ofName?_eq_some_iff.mpr rfl] at found
  exact Option.some.inj found

end SystemOption

/-! ## Pairs -/

namespace Options

/-- What a pair does to an option: it gives it its value, if it has the name of the option and the
option has none yet. -/
theorem get_addPair (o : Options) (pair : String × String) (k : SystemOption) :
    (o.addPair pair).get k = (o.get k).or (if pair.1 = k.name then some pair.2 else none) := by
  unfold addPair
  cases named : SystemOption.ofName? pair.1 with
  | none =>
    rw [if_neg (SystemOption.ofName?_eq_none_iff.mp named k), Option.or_none]
  | some j =>
    have name : pair.1 = j.name := SystemOption.ofName?_eq_some_iff.mp named
    rw [name]
    by_cases same : k = j
    · subst same
      rw [if_pos rfl]
      cases given : o.get k with
      | none => simp [given]
      | some s => simp [given]
    · have other : j.name ≠ k.name := fun h => same (SystemOption.name_injective h).symm
      rw [if_neg other, Option.or_none]
      dsimp only
      split
      · rw [get_put, if_neg same]
      · rfl

/-- What is found in pairs under a name: the value of the first pair, if it has the name, and else
what is found behind it. -/
theorem lookup_cons_eq_or (pair : String × String) (rest : List (String × String))
    (name : String) :
    (pair :: rest).lookup name =
      (if pair.1 = name then some pair.2 else none).or (rest.lookup name) := by
  rw [List.lookup_cons]
  by_cases same : pair.1 = name
  · rw [if_pos same, same, beq_self_eq_true]
    rfl
  · have other : (name == pair.1) = false := beq_false_of_ne (Ne.symm same)
    rw [if_neg same, other]
    rfl

/-- An option keeps what it has, and otherwise takes what the first pair of its name gives. -/
theorem get_foldl_addPair (pairs : List (String × String)) (o : Options) (k : SystemOption) :
    (pairs.foldl addPair o).get k = (o.get k).or (pairs.lookup k.name) := by
  induction pairs generalizing o with
  | nil => simp
  | cons pair rest ih =>
    rw [List.foldl_cons, ih, get_addPair, Option.or_assoc, lookup_cons_eq_or]

/-- Every option is what the first pair of its name gives it. -/
theorem get_ofPairs (pairs : List (String × String)) (k : SystemOption) :
    (ofPairs pairs).get k = pairs.lookup k.name := by
  rw [ofPairs, get_foldl_addPair]
  cases k <;> rfl

/-! ## Values one by one -/

/-- Takes one pair into account in place of what was there before.  Unknown names are passed
over. -/
def overwrite (o : Options) (pair : String × String) : Options :=
  match SystemOption.ofName? pair.1 with
  | some k => o.put k (some pair.2)
  | none => o

/-- What a pair does to an option when it replaces what was there. -/
theorem get_overwrite (o : Options) (pair : String × String) (k : SystemOption) :
    (o.overwrite pair).get k = (if pair.1 = k.name then some pair.2 else none).or (o.get k) := by
  unfold overwrite
  cases named : SystemOption.ofName? pair.1 with
  | none =>
    rw [if_neg (SystemOption.ofName?_eq_none_iff.mp named k), Option.none_or]
  | some j =>
    have name : pair.1 = j.name := SystemOption.ofName?_eq_some_iff.mp named
    rw [get_put, name]
    by_cases same : k = j
    · rw [if_pos same, same, if_pos rfl, Option.some_or]
    · have other : j.name ≠ k.name := fun h => same (SystemOption.name_injective h).symm
      rw [if_neg same, if_neg other, Option.none_or]

/-- When each value replaces the one before it and the pairs are taken from behind, the first pair
of a name has the last word. -/
theorem get_foldl_overwrite_reverse (pairs : List (String × String)) (o : Options)
    (k : SystemOption) :
    (pairs.reverse.foldl overwrite o).get k = (pairs.lookup k.name).or (o.get k) := by
  induction pairs with
  | nil => rfl
  | cons pair rest ih =>
    rw [List.reverse_cons, List.foldl_append, List.foldl_cons, List.foldl_nil, get_overwrite, ih,
      ← Option.or_assoc, lookup_cons_eq_or]

/-! ## What counts in pairs -/

/-- Options are told apart by what they hold. -/
theorem ext_get {o o' : Options} (h : ∀ k, o.get k = o'.get k) : o = o' := by
  cases o
  cases o'
  rw [mk.injEq]
  exact ⟨h .filter, h .orderBy, h .top, h .skip, h .count⟩

/-- The pairs that have the name of an option. -/
def named (pairs : List (String × String)) : List (String × String) :=
  pairs.filter fun pair => (SystemOption.all.map SystemOption.name).contains pair.1

/-- Under the name of an option nothing is found but pairs of such names. -/
theorem lookup_named (pairs : List (String × String)) (k : SystemOption) :
    (named pairs).lookup k.name = pairs.lookup k.name := by
  have known : (SystemOption.all.map SystemOption.name).contains k.name = true := by
    cases k <;> decide
  induction pairs with
  | nil => rfl
  | cons pair rest ih =>
    by_cases kept : (SystemOption.all.map SystemOption.name).contains pair.1 = true
    · have step : named (pair :: rest) = pair :: named rest := List.filter_cons_of_pos kept
      rw [step, lookup_cons_eq_or, ih, lookup_cons_eq_or]
    · have step : named (pair :: rest) = named rest := List.filter_cons_of_neg kept
      have other : pair.1 ≠ k.name := fun same => kept (same ▸ known)
      rw [step, ih, lookup_cons_eq_or, if_neg other, Option.none_or]

/-- How pairs are collected.  Of two lists of pairs, one behind the other, the first decides on
every option that it has, be it an empty text, and the second on the others.  Keeping the first
value of a name gives the same options as giving all values one by one from behind.  And two lists
give the same options just if they have the same first value under each of the five names: how the
pairs are mixed does not count, and neither do pairs of other names. -/
theorem ofPairs_first_wins (p q : List (String × String)) :
    (∀ k, (ofPairs (p ++ q)).get k = ((ofPairs p).get k).or ((ofPairs q).get k)) ∧
    ofPairs p = p.reverse.foldl overwrite empty ∧
    (ofPairs p = ofPairs q ↔ ∀ k : SystemOption, p.lookup k.name = q.lookup k.name) ∧
    ofPairs (named p) = ofPairs p := by
  refine ⟨?_, ?_, ?_, ?_⟩
  · intro k
    rw [get_ofPairs, get_ofPairs, get_ofPairs, List.lookup_append]
  · apply ext_get
    intro k
    have nothing : empty.get k = none := by cases k <;> rfl
    rw [get_ofPairs, get_foldl_overwrite_reverse, nothing, Option.or_none]
  · constructor
    · intro same k
      rw [← get_ofPairs, ← get_ofPairs, same]
    · intro same
      apply ext_get
      intro k
      rw [get_ofPairs, get_ofPairs, same]
  · apply ext_get
    intro k
    rw [get_ofPairs, get_ofPairs, lookup_named]

example : ofPairs [("$top", ""), ("$Top", "9"), ("$skip", "1"), ("$top", "3")] =
    ⟨none, none, some "", some "1", none⟩ := by decide

end Options

end ODataGateway
