/-
# ODataGateway.Proofs.Query.OrderTokens — an order key is its first two tokens.

The tokens of a text are its longest runs of characters that are not blank.  `Text.Tokens` lists
them in their order, and it lists them in one way only (`Text.Tokens.unique`).  The first of them is
the property of an order key, and the second turns its direction if it is the one word that does.
What is read is a function of these two (`OrderKey.parse?_of_tokens`), so neither the blanks nor any
later token of a text make a difference.
-/
import ODataGateway.Proofs.Plan.Degraded
import ODataGateway.Proofs.Query.Reading
import ODataGateway.Proofs.Text.Runs

namespace ODataGateway

namespace Text

variable {s gap token rest : List Char} {ts ts' more : List (List Char)}

/-! ## Tokens -/

/-- The tokens of a text: behind blanks, if there are any, a run of other characters, which ends
where the text does or before a blank, and then the tokens of what follows it. -/
inductive Tokens : List Char → List (List Char) → Prop
  | none {s : List Char} (blanks : ∀ c ∈ s, isBlank c = true) : Tokens s []
  | token {gap token rest : List Char} {more : List (List Char)}
      (blanks : ∀ c ∈ gap, isBlank c = true) (nonempty : token ≠ [])
      (solid : ∀ c ∈ token, (!isBlank c) = true) (ends : Halts (fun c => !isBlank c) rest)
      (tokens : Tokens rest more) : Tokens (gap ++ (token ++ rest)) (token :: more)

/-- Blanks go no further than to the next token. -/
theorem halts_token (nonempty : token ≠ []) (solid : ∀ c ∈ token, (!isBlank c) = true)
    (rest : List Char) : Halts isBlank (token ++ rest) := by
  rw [halts_append_iff nonempty]
  exact halts_of_forall fun c hc => by simpa using solid c hc

/-- Tokens end before blanks. -/
theorem ends_of_blanks (blanks : ∀ c ∈ s, isBlank c = true) : Halts (fun c => !isBlank c) s :=
  halts_of_forall fun c hc => by rw [blanks c hc]; rfl

theorem ends_cons {b : Char} (blank : isBlank b = true) (r : List Char) :
    Halts (fun c => !isBlank c) (b :: r) := by
  rw [halts_cons_iff, blank]
  rfl

/-- Blanks in front go to the gap before the first token. -/
theorem Tokens.pad_front (h : Tokens s ts) {a : List Char} (ha : ∀ c ∈ a, isBlank c = true) :
    Tokens (a ++ s) ts := by
  cases h with
  | none blanks => exact .none (List.forall_mem_append.mpr ⟨ha, blanks⟩)
  | token blanks nonempty solid ends tokens =>
    rw [← List.append_assoc]
    exact .token (List.forall_mem_append.mpr ⟨ha, blanks⟩) nonempty solid ends tokens

/-- Any other character in front starts a token or goes before the first one. -/
theorem Tokens.exists_cons (h : Tokens s ts) {c : Char} (solid : (!isBlank c) = true) :
    ∃ ts', Tokens (c :: s) ts' := by
  have single : ∀ x ∈ [c], (!isBlank x) = true := List.forall_mem_singleton.mpr solid
  have noGap : ∀ x ∈ ([] : List Char), isBlank x = true := List.forall_mem_nil _
  cases h with
  | none blanks =>
    exact ⟨[[c]], .token noGap (List.cons_ne_nil c []) single (ends_of_blanks blanks)
      (.none blanks)⟩
  | @token gap token rest more blanks nonempty inToken ends tokens =>
    cases gap with
    | nil =>
      have longer : ∀ x ∈ c :: token, (!isBlank x) = true :=
        List.forall_mem_cons.mpr ⟨solid, inToken⟩
      exact ⟨(c :: token) :: more, .token noGap (List.cons_ne_nil c token) longer ends tokens⟩
    | cons b gap =>
      have stop : isBlank b = true := blanks b (List.mem_cons_self ..)
      exact ⟨[c] :: token :: more, .token noGap (List.cons_ne_nil c []) single (ends_cons stop _)
        (.token blanks nonempty inToken ends tokens)⟩

/-- Every text has tokens. -/
theorem exists_tokens (s : List Char) : ∃ ts, Tokens s ts := by
  induction s with
  | nil => exact ⟨[], .none (List.forall_mem_nil _)⟩
  | cons c r ih =>
    obtain ⟨ts, h⟩ := ih
    by_cases blank : isBlank c = true
    · exact ⟨ts, h.pad_front (List.forall_mem_singleton.mpr blank)⟩
    · exact h.exists_cons (by rw [Bool.eq_false_of_not_eq_true blank]; rfl)

/-- A text without tokens is blank. -/
theorem Tokens.blanks (h : Tokens s []) : ∀ c ∈ s, isBlank c = true := by
  cases h with
  | none blanks => exact blanks

/-- What a text with tokens looks like. -/
theorem Tokens.exists_parts (h : Tokens s (token :: more)) :
    ∃ gap rest, s = gap ++ (token ++ rest) ∧ (∀ c ∈ gap, isBlank c = true) ∧ token ≠ [] ∧
      (∀ c ∈ token, (!isBlank c) = true) ∧ Halts (fun c => !isBlank c) rest ∧ Tokens rest more := by
  cases h with
  | token blanks nonempty solid ends tokens =>
    exact ⟨_, _, rfl, blanks, nonempty, solid, ends, tokens⟩

/-- No text has tokens and is blank. -/
theorem Tokens.not_blank (h : Tokens s (token :: more)) : ¬ ∀ c ∈ s, isBlank c = true := by
  obtain ⟨gap, rest, rfl, -, nonempty, solid, -⟩ := h.exists_parts
  intro blanks
  obtain ⟨c, r, rfl⟩ := List.exists_cons_of_ne_nil nonempty
  have blank : isBlank c = true := blanks c (by simp)
  have other : (!isBlank c) = true := solid c (List.mem_cons_self ..)
  rw [blank] at other
  exact absurd other Bool.false_ne_true

/-- A text has one list of tokens. -/
theorem Tokens.unique (h : Tokens s ts) (h' : Tokens s ts') : ts = ts' := by
  induction h generalizing ts' with
  | none blanks =>
    cases ts' with
    | nil => rfl
    | cons t more => exact absurd blanks h'.not_blank
  | @token gap token rest more blanks nonempty solid ends tokens ih =>
    cases ts' with
    | nil =>
      exact absurd h'.blanks (Tokens.token blanks nonempty solid ends tokens).not_blank
    | cons t more' =>
      obtain ⟨gap', rest', same, blanks', nonempty', solid', ends', tokens'⟩ := h'.exists_parts
      -- the two cuts agree: first where the blanks end, then where the token does
      obtain ⟨-, same⟩ := run_unique same blanks (halts_token nonempty solid rest) blanks'
        (halts_token nonempty' solid' rest')
      obtain ⟨rfl, rfl⟩ := run_unique same solid ends solid' ends'
      rw [ih tokens']

/-! ## Trimmed texts -/

/-- Blanks behind a text end its last token, if anything. -/
theorem Tokens.pad_back (h : Tokens s ts) {b : List Char} (hb : ∀ c ∈ b, isBlank c = true) :
    Tokens (s ++ b) ts := by
  induction h with
  | none blanks => exact .none (List.forall_mem_append.mpr ⟨blanks, hb⟩)
  | @token gap token rest more blanks nonempty solid ends _ ih =>
    have stop : Halts (fun c => !isBlank c) (rest ++ b) := by
      rcases List.eq_nil_or_concat rest with rfl | ⟨r, c, rfl⟩
      · exact ends_of_blanks hb
      · rwa [halts_append_iff (by simp)]
    rw [List.append_assoc, List.append_assoc]
    exact .token blanks nonempty solid stop ih

/-- Trimming changes no token. -/
theorem Tokens.trim (h : Tokens s ts) : Tokens (trim s) ts := by
  obtain ⟨ts', h'⟩ := exists_tokens (Text.trim s)
  obtain ⟨a, b, padded, ha, hb⟩ := exists_pad_trim s
  have same : ts' = ts := by
    have whole : Tokens s ts' := by
      rw [padded]
      exact (h'.pad_front ha).pad_back hb
    exact whole.unique h
  rwa [same] at h'

end Text

/-! ## Keywords -/

/-- Behind blanks a keyword stands just if it is the next token, provided that it may end the text
and that something else behind it has to be blank. -/
theorem Keyword.standsAt_skipBlanks_iff {k : Keyword} (nonempty : k.word ≠ [])
    (solid : ∀ c ∈ k.word, (!Text.isBlank c) = true) (blankAfter : k.blankAfter = true)
    (mayEnd : k.mayEnd = true) {c : Cursor} {ts : List (List Char)}
    (h : Text.Tokens c.rest ts) : k.standsAt c.skipBlanks = true ↔ ts.head? = some k.word := by
  have rest_eq : c.skipBlanks.rest = c.rest.dropWhile Text.isBlank := rfl
  have follows : ∀ r : List Char, Text.Halts (fun c => !Text.isBlank c) r ↔
      (r = [] ∧ k.mayEnd = true ∨
        ∃ d r', r = d :: r' ∧ (k.blankAfter = false ∨ Text.isBlank d = true)) := by
    intro r
    cases r with
    | nil => simp [Text.halts_nil, mayEnd]
    | cons d r' => simp [Text.halts_cons_iff, blankAfter]
  rw [Keyword.standsAt_iff, rest_eq]
  simp only [← follows]
  cases ts with
  | nil =>
    have empty : c.rest.dropWhile Text.isBlank = [] := Text.trimFront_eq_nil_iff.mpr h.blanks
    rw [empty]
    constructor
    · rintro ⟨r, word, -⟩
      exact absurd (List.append_eq_nil_iff.mp word.symm).1 nonempty
    · intro none
      exact absurd none.symm (Option.some_ne_none k.word)
  | cons t more =>
    obtain ⟨gap, rest, whole, blanks, nonempty', solid', ends, -⟩ := h.exists_parts
    have next : c.rest.dropWhile Text.isBlank = t ++ rest := by
      rw [whole, Text.dropWhile_run blanks (Text.halts_token nonempty' solid' rest)]
    rw [next, List.head?_cons, Option.some.injEq]
    constructor
    · rintro ⟨r, same, ends'⟩
      exact (Text.run_unique same solid' ends solid ends').1
    · intro same
      exact ⟨rest, by rw [same], ends⟩

/-! ## Order keys -/

namespace OrderKey

/-- What tokens mean as an order key. -/
def ofTokens? : List (List Char) → Option OrderKey
  | [] => none
  | t :: more =>
    some ⟨String.ofList t,
      if more.head? = some Keyword.desc.word then .descending else .ascending⟩

/-- Nothing counts but the first two tokens. -/
theorem ofTokens?_take (ts : List (List Char)) : ofTokens? (ts.take 2) = ofTokens? ts := by
  rcases ts with _ | ⟨t, _ | ⟨u, more⟩⟩ <;> rfl

/-- The first token is the property, and the second may turn the direction. -/
theorem ofTokens?_eq_some_iff {ts : List (List Char)} {k : OrderKey} :
    ofTokens? ts = some k ↔ ∃ t more, ts = t :: more ∧ k.property = String.ofList t ∧
      (k.direction = .descending ↔ more.head? = some Keyword.desc.word) := by
  obtain ⟨property, direction⟩ := k
  constructor
  · intro h
    cases ts with
    | nil => exact absurd h.symm (Option.some_ne_none _)
    | cons t more =>
      obtain ⟨rfl, rfl⟩ := OrderKey.mk.inj (Option.some.inj h)
      refine ⟨t, more, rfl, rfl, ?_⟩
      by_cases turned : more.head? = some Keyword.desc.word
      · rw [if_pos turned]
        exact iff_of_true rfl turned
      · rw [if_neg turned]
        exact iff_of_false Direction.noConfusion turned
  · rintro ⟨t, more, rfl, rfl, turns⟩
    rw [ofTokens?, Option.some.injEq, OrderKey.mk.injEq]
    refine ⟨rfl, ?_⟩
    cases direction with
    | ascending => exact if_neg fun turned => Direction.noConfusion (turns.mpr turned)
    | descending => exact if_pos (turns.mp rfl)

/-- What a text means as an order key is what its tokens mean. -/
theorem parse?_of_tokens {s : String} {ts : List (List Char)} (h : Text.Tokens s.toList ts) :
    parse? s = ofTokens? ts := by
  cases ts with
  | nil =>
    have blank : Text.allBlank s = true := List.all_eq_true.mpr h.blanks
    rw [parse?_of_allBlank blank]
    rfl
  | cons t more =>
    obtain ⟨gap, rest, whole, blanks, nonempty, solid, ends, tokens⟩ := h.trim.exists_parts
    -- the trimmed text starts with the first token
    have start : gap = [] := by
      have front : Text.Halts Text.isBlank (gap ++ (t ++ rest)) := whole ▸ Text.halts_trim s.toList
      cases gap with
      | nil => rfl
      | cons b gap =>
        rw [List.cons_append, Text.halts_cons_iff, blanks b (List.mem_cons_self ..)] at front
        exact absurd front.symm Bool.false_ne_true
    rw [start, List.nil_append] at whole
    have read : (Cursor.start (Text.trimmed s)).readToken = .ok (String.ofList t, ⟨t, rest⟩) := by
      apply Cursor.readRun_eq_ok_iff.mpr
      refine ⟨t, ⟨solid, ends, ?_, rfl⟩, nonempty, rfl⟩
      rw [Filter.rest_start_trimmed, whole]
    have direction : Keyword.desc.standsAt (Cursor.mk t rest).skipBlanks = true ↔
        more.head? = some Keyword.desc.word := by
      apply Keyword.standsAt_skipBlanks_iff (List.cons_ne_nil _ _) ?_ rfl rfl tokens
      exact List.all_eq_true.mp (by decide)
    simp only [parse?, read, direction, ofTokens?]

/-- How order keys are read.  Every text has one list of tokens.  Without a token there is no order
key; else the first token is the property, and the direction is turned just if there is a second
token and it is `desc`.  So texts with the same first two tokens have the same order key, whatever
blanks stand between and around them and whatever follows. -/
theorem parse?_by_tokens (s : String) :
    ∃ ts, (∀ ts', Text.Tokens s.toList ts' ↔ ts' = ts) ∧
      (parse? s = none ↔ ts = []) ∧
      (∀ k, parse? s = some k ↔ ∃ t more, ts = t :: more ∧ k.property = String.ofList t ∧
        (k.direction = .descending ↔ more.head? = some "desc".toList)) ∧
      ∀ s' ts', Text.Tokens s'.toList ts' → ts'.take 2 = ts.take 2 → parse? s' = parse? s := by
  obtain ⟨ts, h⟩ := Text.exists_tokens s.toList
  have only : ∀ ts', Text.Tokens s.toList ts' ↔ ts' = ts := by
    intro ts'
    exact ⟨fun h' => h'.unique h, fun same => same ▸ h⟩
  refine ⟨ts, only, ?_, ?_, ?_⟩
  · rw [parse?_of_tokens h]
    cases ts <;> simp [ofTokens?]
  · intro k
    rw [parse?_of_tokens h]
    exact ofTokens?_eq_some_iff
  · intro s' ts' h' same
    rw [parse?_of_tokens h, parse?_of_tokens h', ← ofTokens?_take, same, ofTokens?_take]

/-- Wide blanks, a blank at either end and a third token make no difference. -/
theorem parse?_by_tokens_wide_blanks :
    Text.Tokens "profit desc".toList ["profit".toList, "desc".toList] ∧
      parse? "\u3000profit\tdesc outlet " = parse? "profit desc" ∧
      parse? "profit desc" = some ⟨"profit", .descending⟩ := by
  have profit : ∀ c ∈ "profit".toList, (!Text.isBlank c) = true := List.all_eq_true.mp (by decide)
  have desc : ∀ c ∈ "desc".toList, (!Text.isBlank c) = true := List.all_eq_true.mp (by decide)
  have outlet : ∀ c ∈ "outlet".toList, (!Text.isBlank c) = true := List.all_eq_true.mp (by decide)
  have space : Text.isBlank ' ' = true := by decide
  have tab : Text.isBlank '\t' = true := by decide
  have wide : Text.isBlank '\u3000' = true := by decide
  have single : ∀ {b}, Text.isBlank b = true → ∀ c ∈ [b], Text.isBlank c = true :=
    fun blank => List.forall_mem_singleton.mpr blank
  have short : Text.Tokens "profit desc".toList ["profit".toList, "desc".toList] :=
    .token (List.forall_mem_nil _) (by decide) profit (Text.ends_cons space _) <|
      .token (single space) (by decide) desc Text.halts_nil (.none (List.forall_mem_nil _))
  have long : Text.Tokens "\u3000profit\tdesc outlet ".toList
      ["profit".toList, "desc".toList, "outlet".toList] :=
    .token (single wide) (by decide) profit (Text.ends_cons tab _) <|
      .token (single tab) (by decide) desc (Text.ends_cons space _) <|
        .token (single space) (by decide) outlet (Text.ends_cons space [])
          (.none (single space))
  obtain ⟨ts, only, -, keys, same⟩ := parse?_by_tokens "profit desc"
  obtain rfl := (only _).mp short
  exact ⟨short, same _ _ long rfl, (keys _).mpr ⟨_, _, rfl, rfl, iff_of_true rfl rfl⟩⟩

end OrderKey

end ODataGateway
