/-
# ODataGateway.Proofs.Service.Environment — what an environment decides, and by which variables.

Whether there are settings is decided by the address of the source, the number to listen on and the
time limit, looked at in this order, and an error is about the first of them that does not fit
(`Settings.FirstFault`).  All that is read of these three is in `Settings.checked`; the other
variables are only put beside it (`Settings.ofEnvironment_eq`), so they have no part in an error.
Credentials are taken as they stand, and each pair by itself (`Settings.IsPair`).
-/
import ODataGateway.Proofs.Number.Spelled
import ODataGateway.Proofs.Query.FilterGrammar
import ODataGateway.Settings

namespace ODataGateway

/-! ## Variables -/

namespace Environment

variable {env : Environment} {name : String}

/-- The variable is missing or blank. -/
def Unset (env : Environment) (name : String) : Prop :=
  ∀ v, env.lookup name = some v → Text.allBlank v = true

/-- The variable holds this text, which is not empty and may have blanks around it. -/
def Holds (env : Environment) (name : String) (t : List Char) : Prop :=
  t ≠ [] ∧ ∃ v, env.lookup name = some v ∧ Text.trim v.toList = t

/-- The variable is missing or empty; blanks are something. -/
def IsEmpty (env : Environment) (name : String) : Prop :=
  env.lookup name = none ∨ env.lookup name = some ""

theorem Holds.unique {t t' : List Char} (h : env.Holds name t) (h' : env.Holds name t') :
    t = t' := by
  obtain ⟨-, v, found, rfl⟩ := h
  obtain ⟨-, v', found', rfl⟩ := h'
  rw [found] at found'
  rw [Option.some.inj found']

theorem Holds.not_unset {t : List Char} (h : env.Holds name t) : ¬ env.Unset name := by
  obtain ⟨nonempty, v, found, rfl⟩ := h
  intro unset
  exact nonempty (Text.allBlank_iff.mp (unset v found))

/-- What is read of a variable that has a value: nothing, if it is blank. -/
theorem filled?_of_lookup {v : String} (found : env.lookup name = some v) :
    env.filled? name = if Text.allBlank v then none else some (Text.trimmed v) := by
  have empty : (Text.trimmed v).isEmpty = true ↔ Text.allBlank v = true := by
    rw [String.isEmpty_iff, Text.trimmed, ← String.toList_inj, String.toList_ofList,
      Text.allBlank_iff]
    rfl
  rw [filled?, found, Option.map_some, Option.filter_some]
  by_cases blank : Text.allBlank v = true
  · rw [empty.mpr blank, if_pos blank]
    rfl
  · rw [Bool.eq_false_of_not_eq_true (mt empty.mp blank), if_neg blank]
    rfl

theorem filled?_eq_none_iff : env.filled? name = none ↔ env.Unset name := by
  unfold Unset
  cases found : env.lookup name with
  | none =>
    rw [filled?, found]
    exact iff_of_true rfl fun v h => absurd h.symm (Option.some_ne_none v)
  | some v =>
    rw [filled?_of_lookup found]
    simp

theorem filled?_eq_some_iff {s : String} :
    env.filled? name = some s ↔ env.Holds name s.toList := by
  constructor
  · intro h
    cases found : env.lookup name with
    | none =>
      rw [filled?, found] at h
      exact absurd h.symm (Option.some_ne_none s)
    | some v =>
      rw [filled?_of_lookup found] at h
      split at h
      · exact absurd h.symm (Option.some_ne_none s)
      · next given =>
        obtain rfl := Option.some.inj h
        rw [Text.trimmed, String.toList_ofList]
        exact ⟨mt Text.allBlank_iff.mpr given, v, found, rfl⟩
  · rintro ⟨nonempty, v, found, trimmed⟩
    have given : ¬ Text.allBlank v = true := by
      rw [Text.allBlank_iff, trimmed]
      exact nonempty
    rw [filled?_of_lookup found, if_neg given, Text.trimmed, trimmed, String.ofList_toList]

theorem verbatim_eq_empty_iff : env.verbatim name = "" ↔ env.IsEmpty name := by
  unfold verbatim IsEmpty
  cases env.lookup name <;> simp

end Environment

namespace Settings

/-! ## Natural numbers -/

/-- The text is a natural number in decimal digits, with a plus before them or nothing. -/
inductive NaturalText : List Char → Nat → Prop
  | mk {sign ds : List Char} (signed : sign = [] ∨ sign = ['+']) (nonempty : ds ≠ [])
      (digits : ∀ c ∈ ds, c.isDigit = true) : NaturalText (sign ++ ds) (Numeral.digitsValue ds)

/-- The digits behind an optional plus. -/
def behindPlus : List Char → List Char
  | '+' :: r => r
  | r => r

theorem exists_sign (t : List Char) :
    ∃ sign, (sign = [] ∨ sign = ['+']) ∧ t = sign ++ behindPlus t := by
  unfold behindPlus
  split
  · next r => exact ⟨['+'], Or.inr rfl, rfl⟩
  · exact ⟨[], Or.inl rfl, rfl⟩

theorem behindPlus_append {sign ds : List Char} (signed : sign = [] ∨ sign = ['+'])
    (nonempty : ds ≠ []) (digits : ∀ c ∈ ds, c.isDigit = true) :
    behindPlus (sign ++ ds) = ds := by
  obtain ⟨c, r, rfl⟩ := List.exists_cons_of_ne_nil nonempty
  rcases signed with rfl | rfl
  · have digit : c ≠ '+' := (Numeral.ne_sign_of_isDigit (digits c (List.mem_cons_self ..))).1
    unfold behindPlus
    split
    · next r' same => exact absurd (List.cons.inj same).1 digit
    · rfl
  · rfl

theorem natural?_eq (limit : Nat) (s : String) :
    natural? limit s =
      if (behindPlus s.toList).isEmpty || !(behindPlus s.toList).all Char.isDigit then none
      else if Numeral.digitsValue (behindPlus s.toList) ≤ limit then
        some (Numeral.digitsValue (behindPlus s.toList))
      else none := rfl

/-- Natural numbers up to the limit are read and nothing else. -/
theorem natural?_eq_some_iff {limit n : Nat} {s : String} :
    natural? limit s = some n ↔ NaturalText s.toList n ∧ n ≤ limit := by
  rw [natural?_eq]
  constructor
  · intro h
    split at h
    · exact absurd h.symm (Option.some_ne_none n)
    · next given =>
      rw [Bool.or_eq_true, not_or, List.isEmpty_iff, Bool.not_eq_true', Bool.not_eq_false,
        List.all_eq_true] at given
      split at h
      · next small =>
        obtain rfl := Option.some.inj h
        obtain ⟨sign, signed, whole⟩ := exists_sign s.toList
        have spelled := NaturalText.mk signed given.1 given.2
        rw [← whole] at spelled
        exact ⟨spelled, small⟩
      · exact absurd h.symm (Option.some_ne_none n)
  · rintro ⟨h, small⟩
    generalize s.toList = t at h
    cases h with
    | @mk sign ds signed nonempty digits =>
      have given : ¬ (ds.isEmpty || !ds.all Char.isDigit) = true := by
        rw [Bool.or_eq_true, not_or, List.isEmpty_iff, Bool.not_eq_true', Bool.not_eq_false,
          List.all_eq_true]
        exact ⟨nonempty, digits⟩
      rw [behindPlus_append signed nonempty digits, if_neg given, if_pos small]

/-! ## Variables with numbers -/

/-- The variable holds a natural number within bounds, or nothing. -/
def TakesNumber (env : Environment) (name : String) (low high : Nat) : Prop :=
  env.Unset name ∨ ∃ t n, env.Holds name t ∧ NaturalText t n ∧ low ≤ n ∧ n ≤ high

/-- The number that a variable gives: its default where nothing is held, or what the text says. -/
def GivesNumber (env : Environment) (name : String) (default low high n : Nat) : Prop :=
  env.Unset name ∧ n = default ∨ ∃ t, env.Holds name t ∧ NaturalText t n ∧ low ≤ n ∧ n ≤ high

section

variable {env : Environment} {name : String} {limit default n : Nat}
  {wrong : String → SettingsError} {e : SettingsError}

theorem takesNumber_iff (env : Environment) (name : String) (default low high : Nat) :
    TakesNumber env name low high ↔ ∃ n, GivesNumber env name default low high n := by
  constructor
  · rintro (unset | ⟨t, n, number⟩)
    · exact ⟨default, Or.inl ⟨unset, rfl⟩⟩
    · exact ⟨n, Or.inr ⟨t, number⟩⟩
  · rintro ⟨n, ⟨unset, -⟩ | ⟨t, number⟩⟩
    · exact Or.inl unset
    · exact Or.inr ⟨t, n, number⟩

theorem naturalOf_eq_ok_iff : naturalOf env name limit default wrong = .ok n ↔
    GivesNumber env name default 0 limit n := by
  unfold naturalOf GivesNumber
  cases filled : env.filled? name with
  | none =>
    have unset : env.Unset name := Environment.filled?_eq_none_iff.mp filled
    have nothing : ¬ ∃ t, env.Holds name t ∧ NaturalText t n ∧ 0 ≤ n ∧ n ≤ limit :=
      fun ⟨t, holds, _⟩ => holds.not_unset unset
    rw [and_iff_right unset, or_iff_left nothing]
    exact ⟨fun h => (Except.ok.inj h).symm, fun h => congrArg Except.ok h.symm⟩
  | some s =>
    have holds : env.Holds name s.toList := Environment.filled?_eq_some_iff.mp filled
    have given : ¬ (env.Unset name ∧ n = default) := fun h => holds.not_unset h.1
    have read : ((natural? limit s).map Except.ok).getD (.error (wrong name)) = .ok n ↔
        natural? limit s = some n := by
      cases natural? limit s <;> simp
    rw [or_iff_right given]
    refine (read.trans natural?_eq_some_iff).trans ⟨?_, ?_⟩
    · rintro ⟨natural, small⟩
      exact ⟨s.toList, holds, natural, Nat.zero_le n, small⟩
    · rintro ⟨t, holds', natural, -, small⟩
      rw [holds.unique holds']
      exact ⟨natural, small⟩

/-- There is but one way to fail. -/
theorem naturalOf_ok_or_wrong (env : Environment) (name : String) (limit default : Nat)
    (wrong : String → SettingsError) : (∃ n, naturalOf env name limit default wrong = .ok n) ∨
      naturalOf env name limit default wrong = .error (wrong name) := by
  unfold naturalOf
  cases env.filled? name with
  | none => exact Or.inl ⟨default, rfl⟩
  | some s =>
    dsimp only
    cases natural? limit s with
    | none => exact Or.inr rfl
    | some n => exact Or.inl ⟨n, rfl⟩

theorem naturalOf_eq_error_iff : naturalOf env name limit default wrong = .error e ↔
    e = wrong name ∧ ¬ TakesNumber env name 0 limit := by
  have found : TakesNumber env name 0 limit ↔
      ∃ n, naturalOf env name limit default wrong = .ok n := by
    simp only [naturalOf_eq_ok_iff, takesNumber_iff env name default]
  rw [found]
  rcases naturalOf_ok_or_wrong env name limit default wrong with ⟨n, h⟩ | h
  · rw [h]
    refine iff_of_false (fun same => by cases same) ?_
    rintro ⟨-, none⟩
    exact none ⟨n, rfl⟩
  · have none : ¬ ∃ n, naturalOf env name limit default wrong = .ok n := by
      rintro ⟨n, same⟩
      rw [h] at same
      cases same
    rw [and_iff_left none, h]
    exact ⟨fun h => (Except.error.inj h).symm, fun h => congrArg Except.error h.symm⟩

end

/-! ## What is checked -/

/-- The address of the source, if it can be read as one. -/
def addressOf (env : Environment) : Except SettingsError String :=
  match env.filled? "UPSTREAM_URL" with
  | none => .error (.missing "UPSTREAM_URL")
  | some s => if (Url.parse? s).isSome then .ok s else .error (.notAnAddress "UPSTREAM_URL")

/-- The time limit, which may not be 0. -/
def timeLimitOf (env : Environment) : Except SettingsError Nat := do
  let n ← naturalOf env "UPSTREAM_TIMEOUT_MS" Binary64.maxCount 10000 .notAnInteger
  if n = 0 then .error (.notPositive "UPSTREAM_TIMEOUT_MS") else .ok n

/-- What can be wrong with an environment, in the order in which it is looked at. -/
def checked (env : Environment) : Except SettingsError (String × Nat × Nat) := do
  let sourceUrl ← addressOf env
  let socketNumber ← naturalOf env "PORT" 65535 3000 .notASocketNumber
  let timeLimit ← timeLimitOf env
  return (sourceUrl, socketNumber, timeLimit)

/-- The settings for what was checked; nothing in the other variables can be wrong. -/
def assembled (env : Environment) (c : String × Nat × Nat) : Settings where
  sourceUrl := c.1
  socketNumber := c.2.1
  timeLimit := c.2.2
  sourceCredentials := credentialsOf env "UPSTREAM_USERNAME" "UPSTREAM_PASSWORD"
  clientCredentials := credentialsOf env "ODATA_USERNAME" "ODATA_PASSWORD"
  strictFilter := saysYes env "ODATA_STRICT_QUERY"

theorem ofEnvironment_eq (env : Environment) :
    ofEnvironment env = (checked env).map (assembled env) := by
  unfold ofEnvironment checked addressOf timeLimitOf
  -- along the steps: where one fails both sides end there
  cases env.filled? "UPSTREAM_URL" with
  | none => rfl
  | some s =>
    by_cases address : (Url.parse? s).isSome = true
    · simp only [address, if_true]
      cases naturalOf env "PORT" 65535 3000 .notASocketNumber with
      | error e => rfl
      | ok socketNumber =>
        cases naturalOf env "UPSTREAM_TIMEOUT_MS" Binary64.maxCount 10000 .notAnInteger with
        | error e => rfl
        | ok timeLimit =>
          cases timeLimit with
          | zero => rfl
          | succ n => rfl
    · simp only [address]
      rfl

/-! ## The first fault -/

/-- The variable for the source holds an address. -/
def TakesAddress (env : Environment) : Prop :=
  ∃ t, env.Holds "UPSTREAM_URL" t ∧ (Url.parse? (String.ofList t)).isSome = true

/-- The first thing that is wrong with an environment. -/
inductive FirstFault (env : Environment) : SettingsError → Prop
  | missing (unset : env.Unset "UPSTREAM_URL") : FirstFault env (.missing "UPSTREAM_URL")
  | notAnAddress {t : List Char} (holds : env.Holds "UPSTREAM_URL" t)
      (unread : Url.parse? (String.ofList t) = none) :
      FirstFault env (.notAnAddress "UPSTREAM_URL")
  | notASocketNumber (address : TakesAddress env) (wrong : ¬ TakesNumber env "PORT" 0 65535) :
      FirstFault env (.notASocketNumber "PORT")
  | notAnInteger (address : TakesAddress env) (socket : TakesNumber env "PORT" 0 65535)
      (wrong : ¬ TakesNumber env "UPSTREAM_TIMEOUT_MS" 0 (2 ^ 64 - 1)) :
      FirstFault env (.notAnInteger "UPSTREAM_TIMEOUT_MS")
  | notPositive {t : List Char} (address : TakesAddress env)
      (socket : TakesNumber env "PORT" 0 65535) (holds : env.Holds "UPSTREAM_TIMEOUT_MS" t)
      (zero : NaturalText t 0) : FirstFault env (.notPositive "UPSTREAM_TIMEOUT_MS")

section

variable {env : Environment} {e : SettingsError}

theorem addressOf_eq_ok_iff {u : String} : addressOf env = .ok u ↔
    env.Holds "UPSTREAM_URL" u.toList ∧ (Url.parse? u).isSome = true := by
  rw [← Environment.filled?_eq_some_iff]
  unfold addressOf
  cases env.filled? "UPSTREAM_URL" with
  | none => simp
  | some s =>
    by_cases address : (Url.parse? s).isSome = true
    · simp only [address, if_true, Except.ok.injEq, Option.some.injEq]
      exact ⟨fun same => ⟨same, same ▸ address⟩, And.left⟩
    · simp only [address, Bool.false_eq_true, if_false, reduceCtorEq, false_iff, Option.some.injEq]
      rintro ⟨rfl, read⟩
      exact address read

theorem exists_addressOf_iff : (∃ u, addressOf env = .ok u) ↔ TakesAddress env := by
  simp only [addressOf_eq_ok_iff, TakesAddress]
  constructor
  · rintro ⟨u, holds, read⟩
    exact ⟨u.toList, holds, by rwa [String.ofList_toList]⟩
  · rintro ⟨t, holds, read⟩
    exact ⟨String.ofList t, by rwa [String.toList_ofList], read⟩

theorem addressOf_eq_error_iff : addressOf env = .error e ↔
    e = .missing "UPSTREAM_URL" ∧ env.Unset "UPSTREAM_URL" ∨
      e = .notAnAddress "UPSTREAM_URL" ∧
        ∃ t, env.Holds "UPSTREAM_URL" t ∧ Url.parse? (String.ofList t) = none := by
  unfold addressOf
  cases filled : env.filled? "UPSTREAM_URL" with
  | none =>
    have unset := Environment.filled?_eq_none_iff.mp filled
    have nothing : ¬ ∃ t, env.Holds "UPSTREAM_URL" t ∧ Url.parse? (String.ofList t) = none :=
      fun ⟨t, holds, _⟩ => holds.not_unset unset
    rw [and_iff_left unset, or_iff_left fun h => nothing h.2]
    exact ⟨fun h => (Except.error.inj h).symm, fun h => congrArg Except.error h.symm⟩
  | some s =>
    have holds := Environment.filled?_eq_some_iff.mp filled
    rw [or_iff_right fun h => holds.not_unset h.2]
    dsimp only
    split
    · next read =>
      refine iff_of_false (fun same => by cases same) ?_
      rintro ⟨-, t, holds', unread⟩
      rw [← holds.unique holds', String.ofList_toList] at unread
      rw [unread] at read
      exact absurd read Bool.false_ne_true
    · next unread =>
      have none : Url.parse? (String.ofList s.toList) = none := by
        rw [String.ofList_toList]
        exact Option.not_isSome_iff_eq_none.mp unread
      constructor
      · intro h
        exact ⟨(Except.error.inj h).symm, s.toList, holds, none⟩
      · rintro ⟨rfl, -⟩
        rfl

theorem timeLimitOf_eq_ok_iff {n : Nat} : timeLimitOf env = .ok n ↔
    GivesNumber env "UPSTREAM_TIMEOUT_MS" 10000 1 (2 ^ 64 - 1) n := by
  unfold timeLimitOf
  rw [bind_eq_ok_iff]
  constructor
  · rintro ⟨m, given, h⟩
    split at h
    · cases h
    · next positive =>
      obtain rfl := Except.ok.inj h
      rcases naturalOf_eq_ok_iff.mp given with byDefault | ⟨t, holds, natural, -, small⟩
      · exact Or.inl byDefault
      · exact Or.inr ⟨t, holds, natural, Nat.pos_of_ne_zero positive, small⟩
  · rintro (⟨unset, rfl⟩ | ⟨t, holds, natural, positive, small⟩)
    · exact ⟨10000, naturalOf_eq_ok_iff.mpr (Or.inl ⟨unset, rfl⟩), rfl⟩
    · refine ⟨n, naturalOf_eq_ok_iff.mpr (Or.inr ⟨t, holds, natural, Nat.zero_le n, small⟩), ?_⟩
      exact if_neg (Nat.ne_of_gt positive)

theorem timeLimitOf_eq_error_iff : timeLimitOf env = .error e ↔
    e = .notAnInteger "UPSTREAM_TIMEOUT_MS" ∧
        ¬ TakesNumber env "UPSTREAM_TIMEOUT_MS" 0 (2 ^ 64 - 1) ∨
      e = .notPositive "UPSTREAM_TIMEOUT_MS" ∧
        ∃ t, env.Holds "UPSTREAM_TIMEOUT_MS" t ∧ NaturalText t 0 := by
  unfold timeLimitOf
  rw [bind_eq_error_iff]
  refine or_congr naturalOf_eq_error_iff ⟨?_, ?_⟩
  · rintro ⟨n, given, h⟩
    split at h
    · next zero =>
      refine ⟨(Except.error.inj h).symm, ?_⟩
      rcases naturalOf_eq_ok_iff.mp given with ⟨-, byDefault⟩ | ⟨t, holds, natural, -⟩
      · omega
      · exact ⟨t, holds, zero ▸ natural⟩
    · cases h
  · rintro ⟨rfl, t, holds, zero⟩
    exact ⟨0, naturalOf_eq_ok_iff.mpr (Or.inr ⟨t, holds, zero, Nat.le_refl 0, Nat.zero_le _⟩), rfl⟩

/-- What is checked fails with the first fault. -/
theorem checked_eq_error_iff : checked env = .error e ↔ FirstFault env e := by
  have socket : (∃ n, naturalOf env "PORT" 65535 3000 .notASocketNumber = .ok n) ↔
      TakesNumber env "PORT" 0 65535 := by
    simp only [naturalOf_eq_ok_iff, takesNumber_iff env "PORT" 3000]
  unfold checked
  simp only [bind_eq_error_iff, addressOf_eq_error_iff, naturalOf_eq_error_iff,
    timeLimitOf_eq_error_iff]
  constructor
  · rintro ((⟨rfl, unset⟩ | ⟨rfl, t, holds, unread⟩) | ⟨u, read, rest⟩)
    · exact .missing unset
    · exact .notAnAddress holds unread
    · have address : TakesAddress env := exists_addressOf_iff.mp ⟨u, read⟩
      rcases rest with ⟨rfl, wrong⟩ | ⟨n, given, rest⟩
      · exact .notASocketNumber address wrong
      · have takes := socket.mp ⟨n, given⟩
        rcases rest with (⟨rfl, wrong⟩ | ⟨rfl, t, holds, zero⟩) | ⟨l, -, done⟩
        · exact .notAnInteger address takes wrong
        · exact .notPositive address takes holds zero
        · cases done
  · intro fault
    cases fault with
    | missing unset => exact Or.inl (Or.inl ⟨rfl, unset⟩)
    | notAnAddress holds unread => exact Or.inl (Or.inr ⟨rfl, _, holds, unread⟩)
    | notASocketNumber address wrong =>
      obtain ⟨u, read⟩ := exists_addressOf_iff.mpr address
      exact Or.inr ⟨u, read, Or.inl ⟨rfl, wrong⟩⟩
    | notAnInteger address takes wrong =>
      obtain ⟨u, read⟩ := exists_addressOf_iff.mpr address
      obtain ⟨n, given⟩ := socket.mpr takes
      exact Or.inr ⟨u, read, Or.inr ⟨n, given, Or.inl (Or.inl ⟨rfl, wrong⟩)⟩⟩
    | notPositive address takes holds zero =>
      obtain ⟨u, read⟩ := exists_addressOf_iff.mpr address
      obtain ⟨n, given⟩ := socket.mpr takes
      exact Or.inr ⟨u, read, Or.inr ⟨n, given, Or.inl (Or.inr ⟨rfl, _, holds, zero⟩)⟩⟩

/-- What is checked is given where each of the three variables fits. -/
theorem checked_eq_ok_iff {c : String × Nat × Nat} : checked env = .ok c ↔
    (env.Holds "UPSTREAM_URL" c.1.toList ∧ (Url.parse? c.1).isSome = true) ∧
      GivesNumber env "PORT" 3000 0 65535 c.2.1 ∧
      GivesNumber env "UPSTREAM_TIMEOUT_MS" 10000 1 (2 ^ 64 - 1) c.2.2 := by
  unfold checked
  simp only [bind_eq_ok_iff, addressOf_eq_ok_iff, naturalOf_eq_ok_iff, timeLimitOf_eq_ok_iff]
  constructor
  · rintro ⟨u, address, n, socket, l, limit, done⟩
    obtain rfl := Except.ok.inj done
    exact ⟨address, socket, limit⟩
  · rintro ⟨address, socket, limit⟩
    exact ⟨c.1, address, c.2.1, socket, c.2.2, limit, rfl⟩

/-- The variables that decide whether there are settings. -/
def decisive : List String := ["UPSTREAM_URL", "PORT", "UPSTREAM_TIMEOUT_MS"]

theorem exists_checked_iff : (∃ c, checked env = .ok c) ↔ TakesAddress env ∧
    TakesNumber env "PORT" 0 65535 ∧
    TakesNumber env "UPSTREAM_TIMEOUT_MS" 1 (2 ^ 64 - 1) := by
  simp only [checked_eq_ok_iff, ← exists_addressOf_iff, addressOf_eq_ok_iff,
    takesNumber_iff env "PORT" 3000, takesNumber_iff env "UPSTREAM_TIMEOUT_MS" 10000]
  constructor
  · rintro ⟨c, address, socket, limit⟩
    exact ⟨⟨c.1, address⟩, ⟨c.2.1, socket⟩, c.2.2, limit⟩
  · rintro ⟨⟨u, address⟩, ⟨n, socket⟩, l, limit⟩
    exact ⟨(u, n, l), address, socket, limit⟩

/-- Nothing but the decisive variables is checked. -/
theorem checked_congr {env' : Environment}
    (same : ∀ name ∈ decisive, env'.lookup name = env.lookup name) :
    checked env' = checked env := by
  have filled : ∀ name ∈ decisive, env'.filled? name = env.filled? name := by
    intro name hname
    rw [Environment.filled?, Environment.filled?, same name hname]
  unfold checked timeLimitOf addressOf naturalOf
  rw [filled "UPSTREAM_URL" (by decide), filled "PORT" (by decide),
    filled "UPSTREAM_TIMEOUT_MS" (by decide)]

/-- An environment fails just where it fails what is checked. -/
theorem ofEnvironment_eq_error_iff : ofEnvironment env = .error e ↔ checked env = .error e := by
  rw [ofEnvironment_eq]
  cases checked env with
  | error e' =>
    constructor
    · intro h
      rw [Except.error.inj h]
    · intro h
      rw [Except.error.inj h]
      rfl
  | ok c => exact iff_of_false (fun same => by cases same) fun same => by cases same

/-- The settings are those for what was checked. -/
theorem ofEnvironment_eq_ok_iff {s : Settings} :
    ofEnvironment env = .ok s ↔ ∃ c, checked env = .ok c ∧ assembled env c = s := by
  rw [ofEnvironment_eq]
  cases checked env with
  | error e' => exact iff_of_false (fun same => by cases same) fun ⟨c, same, _⟩ => by cases same
  | ok c =>
    constructor
    · intro h
      exact ⟨c, rfl, Except.ok.inj h⟩
    · rintro ⟨c', same, rfl⟩
      rw [Except.ok.inj same]
      rfl

theorem exists_ofEnvironment_iff :
    (∃ s, ofEnvironment env = .ok s) ↔ ∃ c, checked env = .ok c := by
  simp only [ofEnvironment_eq_ok_iff]
  constructor
  · rintro ⟨s, c, check, -⟩
    exact ⟨c, check⟩
  · rintro ⟨c, check⟩
    exact ⟨assembled env c, c, check, rfl⟩

end

/-! ## Credentials -/

/-- The credentials in two variables: none just if both are missing or empty, and otherwise what
they hold, blanks included, with an empty text for a missing one. -/
structure IsPair (env : Environment) (name word : String) (credentials : Option Credentials) :
    Prop where
  none_iff : credentials = none ↔ env.IsEmpty name ∧ env.IsEmpty word
  eq_of_some : ∀ c, credentials = some c →
    c = ⟨(env.lookup name).getD "", (env.lookup word).getD ""⟩

theorem isPair_credentialsOf (env : Environment) (name word : String) :
    IsPair env name word (credentialsOf env name word) := by
  have empty : ((env.verbatim name).isEmpty && (env.verbatim word).isEmpty) = true ↔
      env.IsEmpty name ∧ env.IsEmpty word := by
    rw [Bool.and_eq_true, String.isEmpty_iff, String.isEmpty_iff,
      Environment.verbatim_eq_empty_iff, Environment.verbatim_eq_empty_iff]
  unfold credentialsOf
  constructor
  · rw [← empty]
    dsimp only
    split
    · next both => exact iff_of_true rfl both
    · next one => exact iff_of_false (Option.some_ne_none _) one
  · intro c h
    dsimp only at h
    split at h
    · exact absurd h.symm (Option.some_ne_none c)
    · exact (Option.some.inj h).symm

/-- Two variables hold one pair of credentials. -/
theorem IsPair.unique {env env' : Environment} {name word : String}
    {c c' : Option Credentials} (h : IsPair env name word c) (h' : IsPair env' name word c')
    (sameName : env'.lookup name = env.lookup name)
    (sameWord : env'.lookup word = env.lookup word) : c' = c := by
  have none : c' = none ↔ c = none := by
    rw [h'.none_iff, h.none_iff, Environment.IsEmpty, Environment.IsEmpty, Environment.IsEmpty,
      Environment.IsEmpty, sameName, sameWord]
  cases c with
  | none => exact none.mpr rfl
  | some d =>
    cases c' with
    | none => exact absurd (none.mp rfl) (Option.some_ne_none d)
    | some d' => rw [h.eq_of_some d rfl, h'.eq_of_some d' rfl, sameName, sameWord]

/-! ## Environments -/

/-- What comes of an environment.  There are settings just if the source has an address and the two
numbers, where they are given, lie within their bounds; they are then what the variables say.
Otherwise the error is about the first of the three that does not fit.  Environments that agree in
these three fail alike, and say the same when they do, whatever else they hold.  The credentials in
settings are those in their own two variables, whatever the rest of the environment. -/
theorem ofEnvironment_exact (env : Environment) :
    ((∃ s, ofEnvironment env = .ok s) ↔ TakesAddress env ∧ TakesNumber env "PORT" 0 65535 ∧
      TakesNumber env "UPSTREAM_TIMEOUT_MS" 1 (2 ^ 64 - 1)) ∧
    (∀ e, ofEnvironment env = .error e ↔ FirstFault env e) ∧
    (∀ env' : Environment, (∀ name ∈ decisive, env'.lookup name = env.lookup name) →
      (∀ e, ofEnvironment env' = .error e ↔ ofEnvironment env = .error e) ∧
      ((∃ s, ofEnvironment env' = .ok s) ↔ ∃ s, ofEnvironment env = .ok s) ∧
      Startup.ofEnvironment env' = Startup.ofEnvironment env) ∧
    ∀ s, ofEnvironment env = .ok s →
      env.Holds "UPSTREAM_URL" s.sourceUrl.toList ∧
      GivesNumber env "PORT" 3000 0 65535 s.socketNumber ∧
      GivesNumber env "UPSTREAM_TIMEOUT_MS" 10000 1 (2 ^ 64 - 1) s.timeLimit ∧
      IsPair env "ODATA_USERNAME" "ODATA_PASSWORD" s.clientCredentials ∧
      IsPair env "UPSTREAM_USERNAME" "UPSTREAM_PASSWORD" s.sourceCredentials ∧
      ∀ env' s', ofEnvironment env' = .ok s' →
        ((∀ name ∈ ["ODATA_USERNAME", "ODATA_PASSWORD"], env'.lookup name = env.lookup name) →
          s'.clientCredentials = s.clientCredentials) ∧
        ((∀ name ∈ ["UPSTREAM_USERNAME", "UPSTREAM_PASSWORD"],
            env'.lookup name = env.lookup name) →
          s'.sourceCredentials = s.sourceCredentials) := by
  refine ⟨?_, ?_, ?_, ?_⟩
  · rw [exists_ofEnvironment_iff, ← exists_checked_iff]
  · intro e
    rw [ofEnvironment_eq_error_iff, checked_eq_error_iff]
  · intro env' same
    have checks := checked_congr same
    refine ⟨fun e => ?_, ?_, ?_⟩
    · rw [ofEnvironment_eq_error_iff, ofEnvironment_eq_error_iff, checks]
    · rw [exists_ofEnvironment_iff, exists_ofEnvironment_iff, checks]
    · rw [Startup.ofEnvironment, Startup.ofEnvironment, ofEnvironment_eq, ofEnvironment_eq, checks]
      cases checked env <;> rfl
  · intro s h
    obtain ⟨c, check, rfl⟩ := ofEnvironment_eq_ok_iff.mp h
    obtain ⟨⟨holds, -⟩, socket, limit⟩ := checked_eq_ok_iff.mp check
    have client := isPair_credentialsOf env "ODATA_USERNAME" "ODATA_PASSWORD"
    have source := isPair_credentialsOf env "UPSTREAM_USERNAME" "UPSTREAM_PASSWORD"
    refine ⟨holds, socket, limit, client, source, ?_⟩
    intro env' s' h'
    obtain ⟨c', -, rfl⟩ := ofEnvironment_eq_ok_iff.mp h'
    refine ⟨fun same => ?_, fun same => ?_⟩
    · exact client.unique (isPair_credentialsOf env' _ _) (same _ (by decide)) (same _ (by decide))
    · exact source.unique (isPair_credentialsOf env' _ _) (same _ (by decide)) (same _ (by decide))

/-- Half a pair each, one of them a blank, beside an address between blanks and a number with a plus;
and a password that is not told when the time limit is wrong. -/
theorem ofEnvironment_exact_half_pairs :
    (∃ s, ofEnvironment [("UPSTREAM_URL", " http://[::1]:8080/rows "), ("PORT", "+08081"),
        ("ODATA_USERNAME", " "), ("UPSTREAM_PASSWORD", "s3cret")] = .ok s ∧
      s.clientCredentials = some ⟨" ", ""⟩ ∧ s.sourceCredentials = some ⟨"", "s3cret"⟩) ∧
    Startup.ofEnvironment [("ODATA_PASSWORD", "s3cret"), ("UPSTREAM_URL", "http://[::1]:8080/rows"),
        ("UPSTREAM_TIMEOUT_MS", "0")] =
      Startup.ofEnvironment [("UPSTREAM_URL", "http://[::1]:8080/rows"),
        ("UPSTREAM_TIMEOUT_MS", "0")] := by
  constructor
  · generalize henv : [("UPSTREAM_URL", " http://[::1]:8080/rows "), ("PORT", "+08081"),
      ("ODATA_USERNAME", " "), ("UPSTREAM_PASSWORD", "s3cret")] = env
    have address : TakesAddress env := by
      subst henv
      exact ⟨"http://[::1]:8080/rows".toList, ⟨by decide, _, rfl, by decide⟩, by decide +kernel⟩
    have socket : TakesNumber env "PORT" 0 65535 := by
      subst henv
      have read : natural? 65535 "+08081" = some 8081 := by decide
      obtain ⟨natural, small⟩ := natural?_eq_some_iff.mp read
      exact Or.inr ⟨"+08081".toList, 8081, ⟨by decide, _, rfl, by decide⟩, natural, by decide, small⟩
    have limit : TakesNumber env "UPSTREAM_TIMEOUT_MS" 1 (2 ^ 64 - 1) := by
      subst henv
      refine Or.inl fun v found => ?_
      cases found
    obtain ⟨s, settings⟩ := (ofEnvironment_exact env).1.mpr ⟨address, socket, limit⟩
    obtain ⟨-, -, -, client, source, -⟩ := (ofEnvironment_exact env).2.2.2 s settings
    subst henv
    refine ⟨s, settings, ?_, ?_⟩
    · have given : s.clientCredentials ≠ none := by
        intro none
        exact absurd (client.none_iff.mp none).1 (by unfold Environment.IsEmpty; decide)
      obtain ⟨c, hc⟩ := Option.ne_none_iff_exists'.mp given
      rw [hc, client.eq_of_some c hc]
      rfl
    · have given : s.sourceCredentials ≠ none := by
        intro none
        exact absurd (source.none_iff.mp none).2 (by unfold Environment.IsEmpty; decide)
      obtain ⟨c, hc⟩ := Option.ne_none_iff_exists'.mp given
      rw [hc, source.eq_of_some c hc]
      rfl
  · refine ((ofEnvironment_exact _).2.2.1 _ ?_).2.2
    exact List.forall_mem_cons.mpr ⟨rfl, List.forall_mem_cons.mpr ⟨rfl, List.forall_mem_singleton.mpr rfl⟩⟩

end Settings

end ODataGateway
