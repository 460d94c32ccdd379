/-
# ODataGateway.Proofs.Query.Diagnosed — what a diagnostic says about a text that is no filter.

A text that is read as a filter is passed in runs: a field name, blanks, the word `eq`, blanks.
Where each of them ends is a place that the text alone fixes (`Filter.wordEnd`,
`Filter.keywordStart`, `Filter.literalStart`), and reading a filter looks at nothing but these
places (`Filter.parse_eq`).  So the diagnostic can be told from the text: it is about the first of
the four parts that is missing, what stands before it can still be made a filter, and that the
blanks behind `eq` are missing is never said, since without them `eq` is no keyword
(`Filter.parse_diagnosed`).
-/
import ODataGateway.Proofs.Query.FilterGrammar

namespace ODataGateway

open Text (Halts)

/-! ## Places -/

namespace Cursor

/-- The cursor at a place of a text. -/
def ofPlace (t : List Char) (i : Nat) : Cursor := ⟨t.take i, t.drop i⟩

/-- The place where the run of a class that starts at a place ends. -/
def runEnd (ofClass : Char → Bool) (t : List Char) (i : Nat) : Nat :=
  i + ((t.drop i).takeWhile ofClass).length

section

variable {t : List Char} {i j n : Nat} {ofClass : Char → Bool} {fault : Fault}

@[simp]
theorem text_ofPlace (t : List Char) (i : Nat) : (ofPlace t i).text = t :=
  List.take_append_drop i t

theorem position_ofPlace (h : i ≤ t.length) : (ofPlace t i).position = i :=
  List.length_take_of_le h

theorem advance_ofPlace (t : List Char) (i n : Nat) :
    (ofPlace t i).advance n = ofPlace t (i + n) := by
  rw [advance, ofPlace, ofPlace, List.take_add, List.drop_drop]

theorem take_runEnd (ofClass : Char → Bool) (t : List Char) (i : Nat) :
    t.take (runEnd ofClass t i) = t.take i ++ (t.drop i).takeWhile ofClass := by
  have run : (t.drop i).take ((t.drop i).takeWhile ofClass).length =
      (t.drop i).takeWhile ofClass :=
    (List.prefix_iff_eq_take.mp (List.takeWhile_prefix ofClass)).symm
  rw [runEnd, List.take_add, run]

theorem drop_runEnd (ofClass : Char → Bool) (t : List Char) (i : Nat) :
    t.drop (runEnd ofClass t i) = (t.drop i).dropWhile ofClass := by
  have parts : (t.drop i).takeWhile ofClass ++ (t.drop i).dropWhile ofClass = t.drop i :=
    List.takeWhile_append_dropWhile
  calc t.drop (runEnd ofClass t i)
      = (t.drop i).drop ((t.drop i).takeWhile ofClass).length := List.drop_drop.symm
    _ = ((t.drop i).takeWhile ofClass ++ (t.drop i).dropWhile ofClass).drop
          ((t.drop i).takeWhile ofClass).length := by rw [parts]
    _ = (t.drop i).dropWhile ofClass := List.drop_left

theorem runEnd_le_length (h : i ≤ t.length) : runEnd ofClass t i ≤ t.length := by
  have run : ((t.drop i).takeWhile ofClass).length ≤ (t.drop i).length :=
    (List.takeWhile_prefix ofClass).length_le
  rw [List.length_drop] at run
  rw [runEnd]
  omega

/-- A run is empty where the class does not go on. -/
theorem runEnd_eq_self_iff : runEnd ofClass t i = i ↔ t[i]?.any ofClass = false := by
  have front : t[i]? = (t.drop i)[0]? := by rw [List.getElem?_drop, Nat.add_zero]
  rw [runEnd, front, Nat.add_eq_left, List.length_eq_zero_iff]
  cases t.drop i with
  | nil => simp
  | cons c r => cases hc : ofClass c <;> simp [hc]

theorem takeWhile_ne_nil (h : runEnd ofClass t i ≠ i) : (t.drop i).takeWhile ofClass ≠ [] := by
  intro empty
  rw [runEnd, empty] at h
  exact h rfl

theorem takeRun_ofPlace (ofClass : Char → Bool) (t : List Char) (i : Nat) :
    (ofPlace t i).takeRun ofClass =
      ((t.drop i).takeWhile ofClass, ofPlace t (runEnd ofClass t i)) := by
  rw [takeRun, ofPlace, ofPlace, take_runEnd, drop_runEnd]

end

end Cursor

/-- The diagnostic about a span of a text: its text goes one character past the span, as far as
there is one. -/
def Diagnostic.about (t : List Char) (fault : Fault) (start stop : Nat) : Diagnostic :=
  ⟨fault, start, stop, String.ofList ((t.take (min (stop + 1) t.length)).drop start)⟩

namespace Cursor

section

variable {t : List Char} {i j : Nat} {ofClass : Char → Bool} {fault : Fault}

theorem diagnose_of_text {c : Cursor} (text : c.text = t) (position : c.position = j) :
    c.diagnose fault i = .about t fault i j := by
  rw [diagnose, Diagnostic.about, slice, text, position, ← List.take_eq_take_min]

/-! ## Reading from place to place -/

/-- Reading a run leads to its end, unless it is empty. -/
theorem readRun_ofPlace (h : i ≤ t.length) :
    (ofPlace t i).readRun ofClass fault =
      if runEnd ofClass t i = i then .error (.about t fault i i)
      else .ok (String.ofList ((t.drop i).takeWhile ofClass), ofPlace t (runEnd ofClass t i)) := by
  have here : (ofPlace t i).position = i := position_ofPlace h
  split
  · next stays =>
    have halts : Halts ofClass (ofPlace t i).rest := by
      rw [runEnd, Nat.add_eq_left, List.length_eq_zero_iff] at stays
      exact (takeRun_eq_iff.mp (takeRun_ofPlace ofClass t i)).eq_nil_iff.mp stays
    rw [readRun_eq_error_iff]
    exact ⟨halts, by rw [diagnose_of_text (text_ofPlace t i) here, here]⟩
  · next moves =>
    rw [readRun_eq_ok_iff]
    exact ⟨_, takeRun_eq_iff.mp (takeRun_ofPlace ofClass t i), takeWhile_ne_nil moves, rfl⟩

theorem expectBlanks_ofPlace (h : i ≤ t.length) :
    (ofPlace t i).expectBlanks =
      if runEnd Text.isBlank t i = i then .error (.about t .blank i i)
      else .ok (ofPlace t (runEnd Text.isBlank t i)) := by
  rw [expectBlanks, readRun_ofPlace h]
  split <;> rfl

end

end Cursor

/-! ## The places of a filter -/

namespace Filter

open Cursor (isWordChar ofPlace runEnd)

/-- How long the field name is that a text starts with. -/
def wordEnd (t : List Char) : Nat := (t.takeWhile isWordChar).length

/-- The first place behind the field name that is not blank. -/
def keywordStart (t : List Char) : Nat := runEnd Text.isBlank t (wordEnd t)

/-- The first place behind the comparison that is not blank. -/
def literalStart (t : List Char) : Nat := runEnd Text.isBlank t (keywordStart t + 2)

/-- Whether the word `eq` stands at a place, with a blank behind it. -/
def EqualityAt (t : List Char) (i : Nat) : Prop :=
  t[i]? = some 'e' ∧ t[i + 1]? = some 'q' ∧ t[i + 2]?.any Text.isBlank = true

instance (t : List Char) (i : Nat) : Decidable (EqualityAt t i) :=
  inferInstanceAs (Decidable (_ ∧ _ ∧ _))

section

variable {t : List Char} {i : Nat}

theorem wordEnd_eq_runEnd (t : List Char) : wordEnd t = runEnd isWordChar t 0 := by
  rw [runEnd, Nat.zero_add, List.drop_zero, wordEnd]

theorem wordEnd_le_length (t : List Char) : wordEnd t ≤ t.length :=
  (List.takeWhile_prefix isWordChar).length_le

theorem keywordStart_le_length (t : List Char) : keywordStart t ≤ t.length :=
  Cursor.runEnd_le_length (wordEnd_le_length t)

/-- Where `eq` stands the text goes on with it and a blank. -/
theorem equalityAt_iff :
    EqualityAt t i ↔ ∃ b r, t.drop i = 'e' :: 'q' :: b :: r ∧ Text.isBlank b = true := by
  have first : t[i]? = (t.drop i)[0]? := by rw [List.getElem?_drop, Nat.add_zero]
  have second : t[i + 1]? = (t.drop i)[1]? := by rw [List.getElem?_drop]
  have third : t[i + 2]? = (t.drop i)[2]? := by rw [List.getElem?_drop]
  rw [EqualityAt, first, second, third]
  rcases t.drop i with - | ⟨e, - | ⟨q, - | ⟨b, r⟩⟩⟩
  · simp
  · simp
  · simp
  · simp [and_assoc]

theorem EqualityAt.add_two_lt_length (h : EqualityAt t i) : i + 2 < t.length := by
  obtain ⟨b, r, rest, -⟩ := equalityAt_iff.mp h
  have length := congrArg List.length rest
  rw [List.length_drop, List.length_cons, List.length_cons, List.length_cons] at length
  omega

theorem EqualityAt.take_add_two (h : EqualityAt t i) : t.take (i + 2) = t.take i ++ ['e', 'q'] := by
  obtain ⟨b, r, rest, -⟩ := equalityAt_iff.mp h
  rw [List.take_add, rest]
  rfl

/-- The blank behind `eq` starts a run of blanks. -/
theorem EqualityAt.runEnd_ne (h : EqualityAt t i) : runEnd Text.isBlank t (i + 2) ≠ i + 2 := by
  intro stays
  have none := Cursor.runEnd_eq_self_iff.mp stays
  rw [h.2.2] at none
  exact nomatch none

theorem standsAt_ofPlace_iff : Keyword.eq.standsAt (ofPlace t i) = true ↔ EqualityAt t i := by
  rw [Keyword.standsAt_iff, equalityAt_iff]
  constructor
  · rintro ⟨_, rest, ⟨rfl, mayEnd⟩ | ⟨b, r, rfl, must | blank⟩⟩
    · exact nomatch mayEnd
    · exact nomatch must
    · exact ⟨b, r, rest, blank⟩
  · rintro ⟨b, r, rest, blank⟩
    exact ⟨b :: r, rest, Or.inr ⟨b, r, rfl, Or.inr blank⟩⟩

/-! ## Reading a filter from place to place -/

/-- What reading a filter comes to, by the places of the text. -/
theorem parse_eq {s : String} (ht : Text.trim s.toList = t) :
    parse s =
      if wordEnd t = 0 then .error (.about t .fieldName 0 0)
      else if keywordStart t = wordEnd t then .error (.about t .blank (wordEnd t) (wordEnd t))
      else if EqualityAt t (keywordStart t) then
        (Literal.read (ofPlace t (literalStart t))).1.map fun operand =>
          ⟨String.ofList (t.takeWhile isWordChar), operand⟩
      else .error (.about t .equality (keywordStart t) (keywordStart t)) := by
  have start : Cursor.start (Text.trimmed s) = ofPlace t 0 := by
    rw [Cursor.start, Text.trimmed, String.toList_ofList, ht]
    rfl
  have word : (ofPlace t 0).readWord =
      if wordEnd t = 0 then .error (.about t .fieldName 0 0)
      else .ok (String.ofList (t.takeWhile isWordChar), ofPlace t (wordEnd t)) := by
    rw [Cursor.readWord, Cursor.readRun_ofPlace (Nat.zero_le _), ← wordEnd_eq_runEnd,
      List.drop_zero]
  have before : (ofPlace t (wordEnd t)).expectBlanks =
      if keywordStart t = wordEnd t then .error (.about t .blank (wordEnd t) (wordEnd t))
      else .ok (ofPlace t (keywordStart t)) := Cursor.expectBlanks_ofPlace (wordEnd_le_length t)
  simp only [parse, start, word]
  split
  · rfl
  · show ((ofPlace t (wordEnd t)).expectBlanks >>= _) = _
    rw [before]
    split
    · rfl
    · show (do
        unless Keyword.eq.standsAt (ofPlace t (keywordStart t)) do
          throw ((ofPlace t (keywordStart t)).diagnose .equality
            (ofPlace t (keywordStart t)).position)
        let c ← ((ofPlace t (keywordStart t)).advance 2).expectBlanks
        let operand ← (Literal.read c).1
        return (⟨String.ofList (t.takeWhile isWordChar), operand⟩ : Filter)) = _
      by_cases equality : EqualityAt t (keywordStart t)
      · have after : ((ofPlace t (keywordStart t)).advance 2).expectBlanks =
            .ok (ofPlace t (literalStart t)) := by
          rw [Cursor.advance_ofPlace, Cursor.expectBlanks_ofPlace equality.add_two_lt_length.le,
            if_neg equality.runEnd_ne]
          rfl
        rw [if_pos equality, after, standsAt_ofPlace_iff.mpr equality]
        show (Literal.read (ofPlace t (literalStart t))).1 >>= (fun operand => .ok
          (⟨String.ofList (t.takeWhile isWordChar), operand⟩ : Filter)) = _
        cases (Literal.read (ofPlace t (literalStart t))).1 <;> rfl
      · have here : (ofPlace t (keywordStart t)).position = keywordStart t :=
          Cursor.position_ofPlace (keywordStart_le_length t)
        have absent : Keyword.eq.standsAt (ofPlace t (keywordStart t)) = false := by
          rw [Bool.eq_false_iff]
          exact fun stands => equality (standsAt_ofPlace_iff.mp stands)
        rw [if_neg equality, absent, here, Cursor.diagnose_of_text (Cursor.text_ofPlace _ _) here]
        rfl

/-- A literal that cannot be read is faulted to the end of the text. -/
theorem read_ofPlace_error {d : Diagnostic} (h : i ≤ t.length)
    (failed : (Literal.read (ofPlace t i)).1 = .error d) : d = .about t .literal i t.length := by
  have here : (ofPlace t i).position = i := Cursor.position_ofPlace h
  have behind : (ofPlace t i).toEnd.position = t.length := by
    show (ofPlace t i).text.length = _
    rw [Cursor.text_ofPlace]
  have whole : (ofPlace t i).toEnd.text = t := by rw [Cursor.text_toEnd, Cursor.text_ofPlace]
  unfold Literal.read at failed
  split at failed
  · exact nomatch failed
  · split at failed
    · exact nomatch failed
    · rw [← Except.error.inj failed, here, Cursor.diagnose_of_text whole behind]

/-! ## Texts that can still become filters -/

/-- A field name, blanks and the comparison with blanks behind it can be made a filter. -/
theorem exists_parse {word before after : List Char} (word_ne : word ≠ [])
    (hword : ∀ c ∈ word, isWordChar c = true) (before_ne : before ≠ [])
    (hbefore : ∀ c ∈ before, Text.isBlank c = true) (after_ne : after ≠ [])
    (hafter : ∀ c ∈ after, Text.isBlank c = true) :
    ∃ f, parse (String.ofList (word ++ (before ++ ('e' :: 'q' :: (after ++ ['\'', '\'']))))) =
      .ok f := by
  let w : Written := ⟨word, before, after, '\'' :: [] ++ ['\''], .text (String.ofList []),
    word_ne, hword, before_ne, hbefore, after_ne, hafter, .quoted List.not_mem_nil⟩
  refine ⟨w.filter, parse_of_written ?_⟩
  rw [String.toList_ofList]
  exact w.trim_text.symm

/-- A text that starts a filter. -/
def Viable (t : List Char) : Prop := ∃ u f, parse (String.ofList (t ++ u)) = .ok f

theorem blanks_space : ∀ c ∈ [' '], Text.isBlank c = true := List.all_eq_true.mp (by decide)

theorem viable_nil : Viable [] := by
  obtain ⟨f, read⟩ := exists_parse (List.cons_ne_nil 'a' []) (List.all_eq_true.mp (by decide))
    (List.cons_ne_nil _ _) blanks_space (List.cons_ne_nil _ _) blanks_space
  exact ⟨_, f, read⟩

theorem take_wordEnd (t : List Char) : t.take (wordEnd t) = t.takeWhile isWordChar :=
  (List.prefix_iff_eq_take.mp (List.takeWhile_prefix isWordChar)).symm

theorem word_ne_nil (h : wordEnd t ≠ 0) : t.takeWhile isWordChar ≠ [] :=
  List.ne_nil_of_length_pos (Nat.pos_of_ne_zero h)

/-- A field name starts a filter. -/
theorem viable_wordEnd (hw : wordEnd t ≠ 0) : Viable (t.take (wordEnd t)) := by
  obtain ⟨f, read⟩ := exists_parse (word_ne_nil hw) (fun _ => List.mem_takeWhile_imp)
    (List.cons_ne_nil _ _) blanks_space (List.cons_ne_nil _ _) blanks_space
  rw [take_wordEnd]
  exact ⟨_, f, read⟩

/-- So does a field name with blanks behind it. -/
theorem viable_keywordStart (hw : wordEnd t ≠ 0) (hk : keywordStart t ≠ wordEnd t) :
    Viable (t.take (keywordStart t)) := by
  obtain ⟨f, read⟩ := exists_parse (word_ne_nil hw) (fun _ => List.mem_takeWhile_imp)
    (Cursor.takeWhile_ne_nil hk) (fun _ => List.mem_takeWhile_imp) (List.cons_ne_nil _ _) blanks_space
  rw [← List.append_assoc] at read
  rw [keywordStart, Cursor.take_runEnd, take_wordEnd]
  exact ⟨_, f, read⟩

/-- And so does what stands before a literal. -/
theorem viable_literalStart (hw : wordEnd t ≠ 0) (hk : keywordStart t ≠ wordEnd t)
    (equality : EqualityAt t (keywordStart t)) : Viable (t.take (literalStart t)) := by
  obtain ⟨f, read⟩ := exists_parse (word_ne_nil hw) (fun _ => List.mem_takeWhile_imp)
    (Cursor.takeWhile_ne_nil hk) (fun _ => List.mem_takeWhile_imp)
    (Cursor.takeWhile_ne_nil equality.runEnd_ne) (fun _ => List.mem_takeWhile_imp)
  rw [literalStart, Cursor.take_runEnd, equality.take_add_two, keywordStart, Cursor.take_runEnd,
    take_wordEnd]
  refine ⟨['\'', '\''], f, ?_⟩
  simp only [List.append_assoc, List.cons_append, List.nil_append]
  exact read

/-! ## Diagnostics -/

/-- The four ways in which reading a filter fails. -/
theorem parse_error_cases {s : String} {d : Diagnostic} (ht : Text.trim s.toList = t)
    (failed : parse s = .error d) :
    (wordEnd t = 0 ∧ d = .about t .fieldName 0 0) ∨
    wordEnd t ≠ 0 ∧
      ((keywordStart t = wordEnd t ∧ d = .about t .blank (wordEnd t) (wordEnd t)) ∨
      keywordStart t ≠ wordEnd t ∧
        ((¬ EqualityAt t (keywordStart t) ∧
          d = .about t .equality (keywordStart t) (keywordStart t)) ∨
        (EqualityAt t (keywordStart t) ∧ d = .about t .literal (literalStart t) t.length))) := by
  rw [parse_eq ht] at failed
  split at failed
  · next noWord => exact Or.inl ⟨noWord, (Except.error.inj failed).symm⟩
  · next hw =>
    refine Or.inr ⟨hw, ?_⟩
    split at failed
    · next noBlank => exact Or.inl ⟨noBlank, (Except.error.inj failed).symm⟩
    · next hk =>
      refine Or.inr ⟨hk, ?_⟩
      split at failed
      · next equality =>
        refine Or.inr ⟨equality, ?_⟩
        have inside : literalStart t ≤ t.length :=
          Cursor.runEnd_le_length equality.add_two_lt_length.le
        cases read : (Literal.read (ofPlace t (literalStart t))).1 with
        | ok operand =>
          rw [read] at failed
          exact nomatch failed
        | error e =>
          rw [read] at failed
          rw [← Except.error.inj failed]
          exact read_ofPlace_error inside read
      · next other => exact Or.inl ⟨other, (Except.error.inj failed).symm⟩

/-- Behind a keyword that must have a blank behind it there are blanks. -/
theorem expectBlanks_behind_keyword {c : Cursor} (stands : Keyword.eq.standsAt c = true) :
    ∃ c', (c.advance Keyword.eq.word.length).expectBlanks = .ok c' := by
  obtain ⟨r, rest, ⟨-, mayEnd⟩ | ⟨b, r', rfl, must | blank⟩⟩ := Keyword.standsAt_iff.mp stands
  · cases mayEnd
  · cases must
  · have behind : (c.advance Keyword.eq.word.length).rest = b :: r' := by
      rw [Cursor.advance, rest, List.drop_left]
    cases htake : (c.advance Keyword.eq.word.length).takeRun Text.isBlank with
    | mk run c' =>
      have took := Cursor.takeRun_eq_iff.mp htake
      refine ⟨c', Cursor.expectBlanks_eq_ok_iff.mpr ⟨run, took, ?_⟩⟩
      intro empty
      have halts := took.eq_nil_iff.mp empty
      rw [behind, Text.halts_cons_iff, blank] at halts
      cases halts

end

/-- What a diagnostic says about a trimmed text. -/
structure Diagnoses (d : Diagnostic) (t : List Char) : Prop where
  /-- It names the first of the four parts that is missing, and the span where it should have
  started: an empty one, or for a literal the rest of the text. -/
  part : (d.message, d.start, d.stop) =
    if wordEnd t = 0 then ("Expected a field name", 0, 0)
    else if wordEnd t = t.length ∨ t[wordEnd t]?.any Text.isBlank = false then
      ("Expected whitespace", wordEnd t, wordEnd t)
    else if ¬ EqualityAt t (keywordStart t) then
      ("Expected 'eq'", keywordStart t, keywordStart t)
    else ("Invalid literal", literalStart t, t.length)
  ordered : d.start ≤ d.stop
  inside : d.stop ≤ t.length
  /-- The text is that of the span with one character more, as far as there is one. -/
  text : d.text = String.ofList ((t.take (min (d.stop + 1) t.length)).drop d.start)
  /-- What stands before the span can be continued to a filter. -/
  viable : Viable (t.take d.start)

/-- Diagnostics are exact.  A diagnostic says which of the four parts of a filter is the first that
the trimmed text does not have: a field name, blanks behind it, the word `eq` with a blank behind
it, or a literal up to the end.  That there are no blanks behind `eq` is never the cause, since it
stands nowhere without one. -/
theorem parse_diagnosed (s : String) :
    (∀ d, parse s = .error d → Diagnoses d (Text.trim s.toList)) ∧
    ∀ c : Cursor, Keyword.eq.standsAt c = true →
      ∃ c', (c.advance Keyword.eq.word.length).expectBlanks = .ok c' := by
  refine ⟨?_, fun c => expectBlanks_behind_keyword⟩
  intro d failed
  generalize ht : Text.trim s.toList = t
  -- where the blanks are missing the text ends or goes on with another character
  have noBlank : (wordEnd t = t.length ∨ t[wordEnd t]?.any Text.isBlank = false) ↔
      keywordStart t = wordEnd t := by
    rw [show keywordStart t = wordEnd t ↔ t[wordEnd t]?.any Text.isBlank = false from
      Cursor.runEnd_eq_self_iff]
    refine or_iff_right_of_imp ?_
    intro ended
    rw [ended, List.getElem?_eq_none le_rfl]
    rfl
  rcases parse_error_cases ht failed with
    ⟨hw, rfl⟩ | ⟨hw, ⟨hk, rfl⟩ | ⟨hk, ⟨other, rfl⟩ | ⟨equality, rfl⟩⟩⟩
  · refine ⟨?_, le_rfl, Nat.zero_le _, rfl, viable_nil⟩
    rw [if_pos hw]
    rfl
  · refine ⟨?_, le_rfl, wordEnd_le_length t, rfl, viable_wordEnd hw⟩
    rw [if_neg hw, if_pos (noBlank.mpr hk)]
    rfl
  · refine ⟨?_, le_rfl, keywordStart_le_length t, rfl, viable_keywordStart hw hk⟩
    rw [if_neg hw, if_neg (fun none => hk (noBlank.mp none)), if_pos other]
    rfl
  · have inside : literalStart t ≤ t.length :=
      Cursor.runEnd_le_length equality.add_two_lt_length.le
    refine ⟨?_, inside, le_rfl, rfl, viable_literalStart hw hk equality⟩
    rw [if_neg hw, if_neg (fun none => hk (noBlank.mp none)), if_neg (not_not_intro equality)]
    rfl

/-- Another comparison is faulted where it stands, with the one character that shows it. -/
theorem parse_diagnosed_other_comparison :
    ∃ d, parse " id gt 4" = .error d ∧ (d.message, d.start, d.stop) = ("Expected 'eq'", 3, 3) ∧
      d.text = "g" ∧ Viable ['i', 'd', ' '] := by
  have failed : parse " id gt 4" = .error ⟨.equality, 3, 3, "g"⟩ := by decide +kernel
  exact ⟨_, failed, rfl, rfl, ((parse_diagnosed " id gt 4").1 _ failed).viable⟩

end Filter

end ODataGateway
