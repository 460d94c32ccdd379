/-
# ODataGateway.Proofs.Query.Reading — what a cursor reads, said of the characters before and after.

The reading operations of a cursor all take the longest run of a class off the front of what
remains.  `Took` says this of two cursors and the run between them, and each operation is then
described by the cursors it connects: `readRun_eq_ok_iff` when it reads something, and
`readRun_eq_error_iff` when there is nothing to read.
-/
import ODataGateway.Proofs.Text.Runs
import ODataGateway.Query.Cursor

namespace ODataGateway.Cursor

open Text (Halts halts_cons_iff halts_dropWhile takeWhile_run dropWhile_run)

variable {c c' : Cursor} {ofClass : Char → Bool} {run : List Char} {fault : Fault}

/-! ## Characters -/

/-- The characters of field names by their code points. -/
theorem isWordChar_iff {c : Char} :
    isWordChar c = true ↔ 65 ≤ c.toNat ∧ c.toNat ≤ 90 ∨ 97 ≤ c.toNat ∧ c.toNat ≤ 122 ∨
      48 ≤ c.toNat ∧ c.toNat ≤ 57 ∨ c.toNat = 95 := by
  have underscore : c = '_' ↔ c.toNat = 95 := Char.toNat_inj.symm
  show ((((65 ≤ c.val ∧ c.val ≤ 90 : Bool) || (97 ≤ c.val && c.val ≤ 122)) ||
    (48 ≤ c.val && c.val ≤ 57)) || decide (c = '_')) = true ↔ _
  simp only [Bool.or_eq_true, Bool.and_eq_true, decide_eq_true_eq, UInt32.le_iff_toNat_le,
    underscore, or_assoc]
  rfl

/-- No blank is a character of field names. -/
theorem isWordChar_of_isBlank {c : Char} (blank : Text.isBlank c = true) :
    isWordChar c = false := by
  rw [Bool.eq_false_iff]
  intro word
  have ranges := isWordChar_iff.mp word
  simp only [Text.isBlank, Text.blankRanges, List.any_cons, List.any_nil, Bool.or_eq_true,
    Bool.and_eq_true, decide_eq_true_eq, Bool.false_eq_true, or_false] at blank
  omega

theorem isBlank_of_isWordChar {c : Char} (word : isWordChar c = true) :
    Text.isBlank c = false := by
  rw [Bool.eq_false_iff]
  intro blank
  rw [isWordChar_of_isBlank blank] at word
  exact nomatch word

theorem isBlank_of_isDigit {c : Char} (digit : c.isDigit = true) : Text.isBlank c = false := by
  apply isBlank_of_isWordChar
  simp [isWordChar, Char.isAlphanum, digit]

/-! ## Places -/

theorem length_eq_length_text (c : Cursor) : c.length = c.text.length := List.length_append.symm

/-- The characters up to the length are all that remain. -/
theorem slice_to_end (c : Cursor) : c.slice c.position c.length = c.remaining := by
  rw [slice, length_eq_length_text, List.take_length, text, position, List.drop_left, remaining]

/-- A cursor at the end stands at the length. -/
theorem position_of_atEnd (ended : c.atEnd = true) : c.position = c.length := by
  rw [atEnd, List.isEmpty_iff] at ended
  rw [length, ended]
  rfl

theorem position_advance (c : Cursor) (n : Nat) :
    (c.advance n).position = min (c.position + n) c.length := by
  rw [position, advance, List.length_append, List.length_take, length]
  show c.position + min n c.rest.length = min (c.position + n) (c.position + c.rest.length)
  omega

theorem position_le_advance (c : Cursor) (n : Nat) : c.position ≤ (c.advance n).position := by
  rw [position_advance]
  exact Nat.le_min.mpr ⟨Nat.le_add_right .., c.position_le_length⟩

theorem toEnd_eq_advance (c : Cursor) : c.toEnd = c.advance c.length := by
  have all : c.rest.length ≤ c.length := Nat.le_add_left ..
  rw [toEnd, advance, List.take_of_length_le all, List.drop_eq_nil_of_le all]
  rfl

/-! ## Taking runs -/

/-- The second cursor stands right behind the longest run of the class that comes after the
first. -/
structure Took (ofClass : Char → Bool) (c : Cursor) (run : List Char) (c' : Cursor) : Prop where
  inClass : ∀ x ∈ run, ofClass x = true
  halts : Halts ofClass c'.rest
  rest_eq : c.rest = run ++ c'.rest
  passed_eq : c'.passed = c.passed ++ run

/-- Taking a run is what `takeRun` does. -/
theorem takeRun_eq_iff : c.takeRun ofClass = (run, c') ↔ Took ofClass c run c' := by
  constructor
  · intro h
    obtain ⟨rfl, rfl⟩ := Prod.mk.inj h
    exact ⟨fun _ => List.mem_takeWhile_imp, halts_dropWhile c.rest,
      (List.takeWhile_append_dropWhile ..).symm, rfl⟩
  · rintro ⟨inClass, halts, rest_eq, passed_eq⟩
    have htake : c.rest.takeWhile ofClass = run := by rw [rest_eq, takeWhile_run inClass halts]
    have hdrop : c.rest.dropWhile ofClass = c'.rest := by rw [rest_eq, dropWhile_run inClass halts]
    simp only [takeRun, htake, hdrop, ← passed_eq]

/-- A run is empty exactly where the class does not go on. -/
theorem Took.eq_nil_iff (h : Took ofClass c run c') : run = [] ↔ Halts ofClass c.rest := by
  obtain ⟨inClass, halts, rest_eq, -⟩ := h
  constructor
  · rintro rfl
    rw [rest_eq]
    exact halts
  · intro stop
    cases run with
    | nil => rfl
    | cons x run =>
      have hx : ofClass x = true := inClass x (List.mem_cons_self ..)
      rw [rest_eq, List.cons_append, halts_cons_iff, hx] at stop
      exact nomatch stop

theorem Took.text_eq (took : Took ofClass c run c') : c'.text = c.text := by
  rw [text, text, took.passed_eq, took.rest_eq, List.append_assoc]

theorem Took.position_eq (took : Took ofClass c run c') :
    c'.position = c.position + run.length := by
  rw [position, took.passed_eq, List.length_append]
  rfl

theorem took_nil (halts : Halts ofClass c.rest) : Took ofClass c [] c where
  inClass := fun _ h => absurd h List.not_mem_nil
  halts := halts
  rest_eq := rfl
  passed_eq := (List.append_nil _).symm

theorem Took.position_le (took : Took ofClass c run c') : c.position ≤ c'.position :=
  took.position_eq ▸ Nat.le_add_right ..

theorem Took.lt_position (took : Took ofClass c run c') (nonempty : run ≠ []) :
    c.position < c'.position := by
  rw [took.position_eq]
  exact Nat.lt_add_of_pos_right (List.length_pos_iff.mpr nonempty)

/-- What stands between two cursors is the run that the second has taken. -/
theorem Took.between (took : Took ofClass c run c') :
    (c'.text.take c'.position).drop c.position = run := by
  have passed : c'.text.take c'.position = c'.passed := List.take_left
  rw [passed, took.passed_eq, position, List.drop_left]

/-! ## Reading runs -/

/-- Something is read: a run of the class that is not empty. -/
theorem readRun_eq_ok_iff {s : String} :
    c.readRun ofClass fault = .ok (s, c') ↔
      ∃ run, Took ofClass c run c' ∧ run ≠ [] ∧ s = String.ofList run := by
  constructor
  · intro h
    unfold readRun at h
    split at h
    · exact nomatch h
    · next run c₁ nonempty taken =>
      obtain ⟨rfl, rfl⟩ := Prod.mk.inj (Except.ok.inj h)
      exact ⟨run, takeRun_eq_iff.mp taken, nonempty, rfl⟩
  · rintro ⟨run, took, nonempty, rfl⟩
    rw [readRun, takeRun_eq_iff.mpr took]
    cases run with
    | nil => exact absurd rfl nonempty
    | cons x run => rfl

/-- Nothing is read where the class does not go on, and the diagnostic is about that place. -/
theorem readRun_eq_error_iff {d : Diagnostic} :
    c.readRun ofClass fault = .error d ↔
      Halts ofClass c.rest ∧ d = c.diagnose fault c.position := by
  cases htake : c.takeRun ofClass with
  | mk run c' =>
    have took : Took ofClass c run c' := takeRun_eq_iff.mp htake
    rw [← took.eq_nil_iff, readRun, htake]
    cases run with
    | nil => simp only [Except.error.injEq, true_and]; exact eq_comm
    | cons x run => simp

/-- Blanks are passed: a run of them that is not empty. -/
theorem expectBlanks_eq_ok_iff :
    c.expectBlanks = .ok c' ↔ ∃ run, Took Text.isBlank c run c' ∧ run ≠ [] := by
  rw [expectBlanks]
  constructor
  · intro h
    cases hread : c.readRun Text.isBlank .blank with
    | error d => rw [hread] at h; exact nomatch h
    | ok r =>
      obtain ⟨s, c₁⟩ := r
      rw [hread] at h
      obtain rfl : c₁ = c' := Except.ok.inj h
      obtain ⟨run, took, nonempty, -⟩ := readRun_eq_ok_iff.mp hread
      exact ⟨run, took, nonempty⟩
  · rintro ⟨run, took, nonempty⟩
    rw [readRun_eq_ok_iff.mpr ⟨run, took, nonempty, rfl⟩]
    rfl

/-- Blanks are missing where the next character is none. -/
theorem expectBlanks_eq_error_iff {d : Diagnostic} : c.expectBlanks = .error d ↔
    Halts Text.isBlank c.rest ∧ d = c.diagnose .blank c.position := by
  rw [← readRun_eq_error_iff, expectBlanks]
  cases c.readRun Text.isBlank .blank with
  | error e =>
    constructor <;> exact fun h => congrArg Except.error (Except.error.inj h)
  | ok r => exact iff_of_false (fun h => by cases h) fun h => by cases h

/-! ## Reading quotations -/

/-- A quotation is read when the rest of the text is one: two quotes with none between them. -/
theorem readQuoted_eq_some_iff {s : String} :
    c.readQuoted.1 = some s ↔
      ∃ t, '\'' ∉ t ∧ c.rest = '\'' :: t ++ ['\''] ∧ s = String.ofList t := by
  constructor
  · intro h
    unfold readQuoted at h
    split at h
    · exact nomatch h
    · next quote =>
      cases htake : c.next.takeRun (· ≠ '\'') with
      | mk run c₁ =>
        rw [htake] at h
        obtain ⟨inClass, halts, rest_eq, -⟩ := takeRun_eq_iff.mp htake
        -- what follows the run is the closing quote and nothing else
        have closing : c₁.rest = ['\''] ∧ s = String.ofList run := by
          cases hrest : c₁.rest with
          | nil => simp [atEnd, hrest] at h
          | cons q r =>
            have hq : q = '\'' := by simpa [hrest, halts_cons_iff] using halts
            cases r with
            | nil => simpa [atEnd, next, advance, hrest, hq, eq_comm] using h
            | cons x r => simp [atEnd, next, advance, hrest] at h
        have opening : c.rest = '\'' :: c.next.rest := by
          simp only [current, ne_eq, Decidable.not_not] at quote
          cases hc : c.rest with
          | nil => simp [hc] at quote
          | cons q r => simp_all [next, advance]
        refine ⟨run, fun hmem => by simpa using inClass _ hmem, ?_, closing.2⟩
        rw [opening, rest_eq, closing.1]
        rfl
  · rintro ⟨t, noQuote, hrest, rfl⟩
    have htake : c.next.takeRun (· ≠ '\'') = (t, ⟨c.next.passed ++ t, ['\'']⟩) := by
      refine takeRun_eq_iff.mpr ⟨fun x hx => ?_, by simp [halts_cons_iff], ?_, rfl⟩
      · exact decide_eq_true fun same => noQuote (same ▸ hx)
      · simp [next, advance, hrest]
    have quote : c.current = '\'' := by simp [current, hrest]
    rw [readQuoted, if_neg (not_not_intro quote), htake]
    simp [atEnd, next, advance]

@[simp]
theorem text_readQuoted (c : Cursor) : c.readQuoted.2.text = c.text := by
  rw [readQuoted]
  split
  · rfl
  · have run := c.next.text_takeRun (· ≠ '\'')
    dsimp only
    split
    · exact run.trans c.text_next
    · split <;> exact (text_next _).trans (run.trans c.text_next)

theorem position_le_readQuoted (c : Cursor) : c.position ≤ c.readQuoted.2.position := by
  have opening : c.position ≤ c.next.position := c.position_le_advance 1
  have run : c.next.position ≤ (c.next.takeRun (· ≠ '\'')).2.position :=
    (takeRun_eq_iff.mp rfl).position_le
  have closing : (c.next.takeRun (· ≠ '\'')).2.position ≤
      (c.next.takeRun (· ≠ '\'')).2.next.position := position_le_advance _ 1
  rw [readQuoted]
  split
  · exact Nat.le_refl _
  · dsimp only
    split
    · exact Nat.le_trans opening run
    · split <;> exact Nat.le_trans opening (Nat.le_trans run closing)

theorem atEnd_readQuoted {s : String} (read : c.readQuoted.1 = some s) :
    c.readQuoted.2.atEnd = true := by
  rw [readQuoted] at read ⊢
  split at read
  · exact absurd read.symm (Option.some_ne_none s)
  · next quote =>
    rw [if_neg quote]
    dsimp only at read ⊢
    split at read
    · exact absurd read.symm (Option.some_ne_none s)
    · next more =>
      rw [if_neg more]
      split at read
      · next ended => rw [if_pos ended]; exact ended
      · exact absurd read.symm (Option.some_ne_none s)

end ODataGateway.Cursor

namespace ODataGateway.Keyword

/-! ## Finding keywords -/

/-- A keyword stands where its word comes next and what follows is allowed: the end of the text, or
a character that is blank if it has to be. -/
theorem standsAt_iff {k : Keyword} {c : Cursor} :
    k.standsAt c = true ↔ ∃ r, c.rest = k.word ++ r ∧
      (r = [] ∧ k.mayEnd = true ∨
        ∃ d r', r = d :: r' ∧ (k.blankAfter = false ∨ Text.isBlank d = true)) := by
  rw [standsAt, Bool.and_eq_true, List.isPrefixOf_iff_prefix]
  constructor
  · rintro ⟨⟨r, hr⟩, follows⟩
    rw [← hr, List.drop_left] at follows
    refine ⟨r, hr.symm, ?_⟩
    cases r with
    | nil => exact Or.inl ⟨rfl, follows⟩
    | cons d r' => exact Or.inr ⟨d, r', rfl, by simpa using follows⟩
  · rintro ⟨r, hr, follows⟩
    rw [hr, List.drop_left]
    refine ⟨List.prefix_append .., ?_⟩
    rcases follows with ⟨rfl, mayEnd⟩ | ⟨d, r', rfl, hd⟩
    · exact mayEnd
    · simpa using hd

/-- A longer word is not the keyword that it starts with. -/
example : desc.standsAt (.start "desc") = true ∧ desc.standsAt (.start "descending") = false := by
  decide +kernel

end ODataGateway.Keyword
