/-
# ODataGateway.Proofs.Query.FilterGrammar — the texts that are filters, and what they say.

A written filter is a field name, blanks, the word `eq`, blanks and a literal (`Filter.Written`).
`parse` accepts a text exactly when its trim is a written filter, and returns the filter that is
written there.  The parts of a written filter can be told from its text alone, so what is returned
depends on the name and the literal and on nothing in between.
-/
import ODataGateway.Proofs.Query.LiteralSpelling
import ODataGateway.Proofs.Text.Runs
import ODataGateway.Query.Filter

namespace ODataGateway

open Text (Halts halts_cons_iff run_unique)

/-- A chain of readers succeeds when each of them does. -/
theorem bind_eq_ok_iff {ε α β : Type} {x : Except ε α} {f : α → Except ε β} {b : β} :
    (x >>= f) = .ok b ↔ ∃ a, x = .ok a ∧ f a = .ok b := by
  cases x with
  | error e => exact ⟨nofun, fun ⟨_, h, _⟩ => nomatch h⟩
  | ok a => exact ⟨fun h => ⟨a, rfl, h⟩, fun ⟨_, h, hf⟩ => Except.ok.inj h ▸ hf⟩

/-- It fails as the first of them that does. -/
theorem bind_eq_error_iff {ε α β : Type} {x : Except ε α} {f : α → Except ε β} {e : ε} :
    (x >>= f) = .error e ↔ x = .error e ∨ ∃ a, x = .ok a ∧ f a = .error e := by
  cases x with
  | error e' => simp [bind, Except.bind]
  | ok a => simp [bind, Except.bind]

namespace Filter

/-! ## Written filters -/

/-- The parts of a text that is a filter, with the literal that is spelled in it. -/
structure Written where
  word : List Char
  blanksBefore : List Char
  blanksAfter : List Char
  constant : List Char
  operand : Literal
  word_nonempty : word ≠ []
  word_inClass : ∀ c ∈ word, Cursor.isWordChar c = true
  blanksBefore_nonempty : blanksBefore ≠ []
  blanksBefore_inClass : ∀ c ∈ blanksBefore, Text.isBlank c = true
  blanksAfter_nonempty : blanksAfter ≠ []
  blanksAfter_inClass : ∀ c ∈ blanksAfter, Text.isBlank c = true
  spells : Literal.Spells constant operand

namespace Written

/-- What follows the word `eq`. -/
def tail (w : Written) : List Char := w.blanksAfter ++ w.constant

/-- The text with the given parts. -/
def text (w : Written) : List Char := w.word ++ (w.blanksBefore ++ ('e' :: 'q' :: w.tail))

/-- The filter that is written. -/
def filter (w : Written) : Filter := ⟨String.ofList w.word, w.operand⟩

/-! ### Where the parts end -/

theorem halts_blanksBefore (w : Written) :
    Halts Cursor.isWordChar (w.blanksBefore ++ ('e' :: 'q' :: w.tail)) := by
  obtain ⟨b, r, hb⟩ := List.exists_cons_of_ne_nil w.blanksBefore_nonempty
  rw [hb, List.cons_append, halts_cons_iff]
  exact Cursor.isWordChar_of_isBlank (w.blanksBefore_inClass b (hb ▸ List.mem_cons_self ..))

theorem halts_keyword (w : Written) : Halts Text.isBlank ('e' :: 'q' :: w.tail) :=
  halts_cons_iff.mpr (by decide)

theorem halts_constant (w : Written) : Halts Text.isBlank w.constant := w.spells.halts_front

/-- A written filter has no blanks at its ends. -/
theorem trim_text (w : Written) : Text.trim w.text = w.text := by
  refine Text.trim_eq_self ?_ ?_
  · obtain ⟨c, r, hword⟩ := List.exists_cons_of_ne_nil w.word_nonempty
    have hc : Cursor.isWordChar c = true := w.word_inClass c (hword ▸ List.mem_cons_self ..)
    rw [text, hword, List.cons_append, halts_cons_iff]
    exact Cursor.isBlank_of_isWordChar hc
  · obtain ⟨r, c, hconstant, hc⟩ := w.spells.not_blank_last
    rw [text, tail, hconstant]
    simp [halts_cons_iff, hc]

/-- The parts of a written filter are fixed by its text. -/
theorem text_injective {w w' : Written} (same : w.text = w'.text) : w = w' := by
  obtain ⟨hword, same⟩ := run_unique same w.word_inClass w.halts_blanksBefore w'.word_inClass
    w'.halts_blanksBefore
  obtain ⟨hbefore, same⟩ := run_unique same w.blanksBefore_inClass w.halts_keyword
    w'.blanksBefore_inClass w'.halts_keyword
  have htail : w.tail = w'.tail := (List.cons.inj (List.cons.inj same).2).2
  obtain ⟨hafter, hconstant⟩ := run_unique htail w.blanksAfter_inClass w.halts_constant
    w'.blanksAfter_inClass w'.halts_constant
  have hoperand : w.operand = w'.operand := w.spells.unique (hconstant ▸ w'.spells)
  cases w
  cases w'
  simp_all

end Written

/-! ## Reading filters -/

theorem rest_start_trimmed (s : String) :
    (Cursor.start (Text.trimmed s)).rest = Text.trim s.toList := by
  simp only [Cursor.start, Text.trimmed, String.toList_ofList]

/-- The steps of reading a filter. -/
theorem parse_eq_ok_iff_steps {s : String} {f : Filter} :
    parse s = .ok f ↔ ∃ c₁ c₂ c₃,
      (Cursor.start (Text.trimmed s)).readWord = .ok (f.property, c₁) ∧ c₁.expectBlanks = .ok c₂ ∧
      Keyword.eq.standsAt c₂ = true ∧ (c₂.advance 2).expectBlanks = .ok c₃ ∧
      (Literal.read c₃).1 = .ok f.operand := by
  simp only [parse, bind_eq_ok_iff]
  constructor
  · rintro ⟨⟨p, c₁⟩, hword, c₂, hbefore, h⟩
    split at h
    · next keyword =>
      simp only [bind_eq_ok_iff] at h
      obtain ⟨c₃, hafter, operand, hread, h⟩ := h
      obtain rfl := Except.ok.inj h
      exact ⟨c₁, c₂, c₃, hword, hbefore, keyword, hafter, hread⟩
    · exact nomatch h
  · rintro ⟨c₁, c₂, c₃, hword, hbefore, keyword, hafter, hread⟩
    refine ⟨_, hword, c₂, hbefore, ?_⟩
    rw [if_pos keyword]
    simp only [bind_eq_ok_iff]
    exact ⟨c₃, hafter, f.operand, hread, rfl⟩

/-- What is read as a filter is written as one. -/
theorem written_of_parse {s : String} {f : Filter} (h : parse s = .ok f) :
    ∃ w : Written, w.text = Text.trim s.toList ∧ w.filter = f := by
  obtain ⟨c₁, c₂, c₃, hword, hbefore, keyword, hafter, hread⟩ := parse_eq_ok_iff_steps.mp h
  obtain ⟨word, tookWord, word_ne, hproperty⟩ := Cursor.readRun_eq_ok_iff.mp hword
  obtain ⟨before, tookBefore, before_ne⟩ := Cursor.expectBlanks_eq_ok_iff.mp hbefore
  obtain ⟨after, tookAfter, after_ne⟩ := Cursor.expectBlanks_eq_ok_iff.mp hafter
  obtain ⟨r, hr, -⟩ := Keyword.standsAt_iff.mp keyword
  let w : Written := ⟨word, before, after, c₃.rest, f.operand, word_ne, tookWord.inClass,
    before_ne, tookBefore.inClass, after_ne, tookAfter.inClass, Literal.read_eq_ok_iff.mp hread⟩
  have htail : w.tail = r := by
    have h := tookAfter.rest_eq
    rw [Cursor.advance, hr] at h
    exact h.symm
  refine ⟨w, ?_, ?_⟩
  · rw [← rest_start_trimmed, tookWord.rest_eq, tookBefore.rest_eq, hr, ← htail]
    rfl
  · rw [Written.filter, ← hproperty]

/-- What is written as a filter is read as it. -/
theorem parse_of_written {s : String} {w : Written} (h : w.text = Text.trim s.toList) :
    parse s = .ok w.filter := by
  have hstart : (Cursor.start (Text.trimmed s)).rest = w.text := by rw [rest_start_trimmed, h]
  -- the cursors stand behind the name, before `eq` and before the literal
  refine parse_eq_ok_iff_steps.mpr ⟨⟨w.word, w.blanksBefore ++ ('e' :: 'q' :: w.tail)⟩,
    ⟨w.word ++ w.blanksBefore, 'e' :: 'q' :: w.tail⟩,
    ⟨w.word ++ w.blanksBefore ++ ['e', 'q'] ++ w.blanksAfter, w.constant⟩, ?_, ?_, ?_, ?_, ?_⟩
  · exact Cursor.readRun_eq_ok_iff.mpr
      ⟨w.word, ⟨w.word_inClass, w.halts_blanksBefore, hstart, rfl⟩, w.word_nonempty, rfl⟩
  · exact Cursor.expectBlanks_eq_ok_iff.mpr
      ⟨w.blanksBefore, ⟨w.blanksBefore_inClass, w.halts_keyword, rfl, rfl⟩,
        w.blanksBefore_nonempty⟩
  · obtain ⟨b, r, hafter⟩ := List.exists_cons_of_ne_nil w.blanksAfter_nonempty
    have hb : Text.isBlank b = true := w.blanksAfter_inClass b (hafter ▸ List.mem_cons_self ..)
    have htail : w.tail = b :: (r ++ w.constant) := by
      rw [Written.tail, hafter, List.cons_append]
    rw [Keyword.standsAt_iff]
    exact ⟨w.tail, by rw [Keyword.eq]; rfl, Or.inr ⟨b, _, htail, Or.inr hb⟩⟩
  · exact Cursor.expectBlanks_eq_ok_iff.mpr
      ⟨w.blanksAfter, ⟨w.blanksAfter_inClass, w.halts_constant, rfl, rfl⟩,
        w.blanksAfter_nonempty⟩
  · exact Literal.read_eq_ok_iff.mpr w.spells

/-- The two ways of reading agree. -/
theorem parse?_eq_some_iff {s : String} {f : Filter} : parse? s = some f ↔ parse s = .ok f := by
  rw [parse?]
  cases parse s with
  | error d => simp [Except.toOption]
  | ok g => simp [Except.toOption]

/-- Reading sees the trim of a text only. -/
theorem parse_congr_trim {s s' : String} (same : Text.trim s.toList = Text.trim s'.toList) :
    parse s = parse s' := by
  simp only [parse, Text.trimmed, same]

/-- What is read depends on the name and the literal, not on the blanks between them. -/
theorem Written.filter_congr {w w' : Written} (sameWord : w.word = w'.word)
    (sameConstant : w.constant = w'.constant) : w.filter = w'.filter := by
  have sameOperand : w.operand = w'.operand := w.spells.unique (sameConstant ▸ w'.spells)
  rw [Written.filter, Written.filter, sameWord, sameOperand]

/-- The filters and their texts.  What `parse` accepts are the texts whose trim is a written filter,
and it returns what is written there; `parse?` gives the same.  There is one way at most to see a
filter in a text, and its literal has one of three forms that exclude each other.  Blanks around a
filter make no difference, and neither do those between its parts. -/
theorem parse_exact (s : String) :
    (∀ f, parse s = .ok f ↔ ∃ w : Written, w.text = Text.trim s.toList ∧ w.filter = f) ∧
    (∀ f, parse? s = some f ↔ parse s = .ok f) ∧
    (∀ w w' : Written, w.text = Text.trim s.toList → w'.text = Text.trim s.toList → w = w') ∧
    (∀ t, (∃ l, Literal.Spells t l) ↔
      Literal.QuotedForm t ∨ Literal.NumberForm t ∨ Literal.DateForm t) ∧
    (∀ t, ¬ (Literal.QuotedForm t ∧ Literal.NumberForm t) ∧
      ¬ (Literal.QuotedForm t ∧ Literal.DateForm t) ∧
      ¬ (Literal.NumberForm t ∧ Literal.DateForm t)) ∧
    (∀ a b, (∀ c ∈ a, Text.isBlank c = true) → (∀ c ∈ b, Text.isBlank c = true) →
      parse (String.ofList (a ++ s.toList ++ b)) = parse s) ∧
    (∀ w w' : Written, w.text = Text.trim s.toList → w.word = w'.word → w.constant = w'.constant →
      parse (String.ofList w'.text) = parse s) := by
  refine ⟨?_, fun f => parse?_eq_some_iff, ?_, fun t => Literal.exists_spells_iff,
    Literal.forms_exclusive, ?_, ?_⟩
  · intro f
    constructor
    · exact written_of_parse
    · rintro ⟨w, htext, rfl⟩
      exact parse_of_written htext
  · intro w w' htext htext'
    exact Written.text_injective (htext.trans htext'.symm)
  · intro a b ha hb
    apply parse_congr_trim
    rw [String.toList_ofList]
    exact Text.trim_pad ha hb s.toList
  · intro w w' htext sameWord sameConstant
    have read : parse s = .ok w.filter := parse_of_written htext
    have read' : parse (String.ofList w'.text) = .ok w'.filter := by
      apply parse_of_written
      rw [String.toList_ofList, w'.trim_text]
    rw [read, read', Written.filter_congr sameWord sameConstant]

/-- A filter with a tab and an ideographic space in it. -/
theorem parse_spaced :
    parse " name\teq\u3000'a b'\n" = .ok ⟨"name", .text "a b"⟩ ∧
      parse? " name\teq\u3000'a b'\n" = some ⟨"name", .text "a b"⟩ := by
  let w : Written :=
    { word := "name".toList
      blanksBefore := ['\t']
      blanksAfter := ['\u3000']
      constant := '\'' :: "a b".toList ++ ['\'']
      operand := .text "a b"
      word_nonempty := by decide
      word_inClass := List.all_eq_true.mp (by decide)
      blanksBefore_nonempty := by decide
      blanksBefore_inClass := List.all_eq_true.mp (by decide)
      blanksAfter_nonempty := by decide
      blanksAfter_inClass := List.all_eq_true.mp (by decide)
      spells := .quoted (by decide) }
  obtain ⟨accepts, agree, -⟩ := parse_exact " name\teq\u3000'a b'\n"
  have read := (accepts ⟨"name", .text "a b"⟩).mpr ⟨w, by decide +kernel, rfl⟩
  exact ⟨read, (agree _).mpr read⟩

end Filter

end ODataGateway
