/-
# ODataGateway.Proofs.Query.Pointer — reading a text by index.

A cursor holds its text in two halves, and so it cannot leave it.  A pointer holds the text whole,
beside a length and the index of the character that comes next, and nothing in the type says that
the three fit together: to look at a character is to look it up, and where the text has none at the
index there is no result at all.  The operations of a cursor are written here for pointers, with
their loops over indices and their going back by setting the index.  On the pointer of a cursor
each of them has a result, and it is what the cursor's own operation gives (the `_pointer` lemmas).
-/
import ODataGateway.Proofs.Query.Diagnosed

namespace ODataGateway

/-- A text, a length for it, and the index of the character that comes next. -/
structure Pointer where
  text : List Char
  length : Nat
  position : Nat
deriving DecidableEq, Repr

namespace Pointer

/-- The pointer at the start of a text. -/
def start (s : String) : Pointer := ⟨s.toList, s.toList.length, 0⟩

/-! ## Looking -/

/-- Whether nothing remains. -/
def atEnd (p : Pointer) : Bool := p.length ≤ p.position

/-- The next character; at the end the null character stands in for it. -/
def current? (p : Pointer) : Option Char :=
  if p.position < p.length then p.text[p.position]? else some '\x00'

/-- The characters from `start` to before `stop`, both taken back to the length at most. -/
def slice? (p : Pointer) (start stop : Nat) : Option String :=
  if min stop p.length ≤ p.text.length then
    some (String.ofList ((p.text.take (min stop p.length)).drop (min start (min stop p.length))))
  else none

/-- The diagnostic of a fault about the span from `start` to the pointer. -/
def diagnose? (p : Pointer) (fault : Fault) (start : Nat) : Option Diagnostic :=
  (p.slice? start (p.position + 1)).map fun s => ⟨fault, start, p.position, s⟩

/-! ## Moving -/

/-- Moves over one character, if there is one. -/
def next (p : Pointer) : Pointer :=
  if p.position < p.length then { p with position := p.position + 1 } else p

/-- Moves over `n` characters, or to the end if fewer remain. -/
def advance (p : Pointer) (n : Nat) : Pointer :=
  { p with position := min (p.position + n) p.length }

/-- Within the text, one character further is the next one. -/
theorem next_eq_advance {p : Pointer} (within : p.position ≤ p.length) : p.next = p.advance 1 := by
  rw [next, advance]
  split
  · next inside => rw [Nat.min_eq_left inside]
  · next outside =>
    have here : min (p.position + 1) p.length = p.position := by omega
    rw [here]

theorem remaining_next_lt {p : Pointer} (more : ¬ p.atEnd = true) :
    p.next.length - p.next.position < p.length - p.position := by
  have inside : p.position < p.length := by
    rw [atEnd, decide_eq_true_eq] at more
    omega
  rw [next, if_pos inside]
  show p.length - (p.position + 1) < p.length - p.position
  omega

/-- Moves on as long as the next character is of the class. -/
def passRun? (ofClass : Char → Bool) (p : Pointer) : Option Pointer :=
  if _ : p.atEnd = true then some p
  else p.current?.bind fun ch => if ofClass ch then passRun? ofClass p.next else some p
termination_by p.length - p.position
decreasing_by exact remaining_next_lt ‹_›

/-! ## Reading -/

/-- Reads a run of characters of a class, at least one. -/
def readRun? (p : Pointer) (ofClass : Char → Bool) (fault : Fault) :
    Option (Except Diagnostic String × Pointer) :=
  (p.passRun? ofClass).bind fun p' =>
    if p'.position = p.position then
      (p'.diagnose? fault p.position).map fun d => (.error d, p')
    else (p'.slice? p.position p'.position).map fun s => (.ok s, p')

/-- Moves over the blanks, of which there must be one at least. -/
def expectBlanks? (p : Pointer) : Option (Except Diagnostic Unit × Pointer) :=
  p.current?.bind fun ch =>
    if p.atEnd || !Text.isBlank ch then
      (p.diagnose? .blank p.position).map fun d => (.error d, p)
    else (p.passRun? Text.isBlank).map fun p' => (.ok (), p')

/-- Reads a text in single quotes that ends the whole text, and stops where it is seen to be one
or none. -/
def readQuoted? (p : Pointer) : Option (Option String × Pointer) :=
  p.current?.bind fun ch =>
    if ch ≠ '\'' then some (none, p)
    else (p.next.passRun? (· ≠ '\'')).bind fun p' =>
      if p'.atEnd then some (none, p')
      else (p'.slice? p.next.position p'.position).map fun s =>
        (if p'.next.atEnd then some s else none, p'.next)

/-- Reads the rest of the text as a literal: in quotes, or else, from the same index again, as one
without. -/
def readLiteral? (p : Pointer) : Option (Except Diagnostic Literal × Pointer) :=
  p.readQuoted?.bind fun quoted =>
    quoted.1.elim
      (unquoted { quoted.2 with position := p.position })
      fun s => some (.ok (.text s), quoted.2)
where
  /-- Reads the rest of the text as a literal without quotes, and moves to the end. -/
  unquoted (p : Pointer) : Option (Except Diagnostic Literal × Pointer) :=
    (p.slice? p.position p.length).bind fun raw =>
      (Literal.unquoted? raw.toList).elim
        (((p.advance p.length).diagnose? .literal p.position).map fun d =>
          (.error d, p.advance p.length))
        fun l => some (.ok l, p.advance p.length)

/-! ## Finding words -/

/-- Whether a word comes next, from its character at `i` on. -/
def comesNext? (p : Pointer) (word : List Char) (i : Nat) : Option Bool :=
  if i < word.length then
    if p.length ≤ p.position + i then some false
    else word[i]?.bind fun w => p.text[p.position + i]?.bind fun ch =>
      if w ≠ ch then some false else p.comesNext? word (i + 1)
  else some true
termination_by word.length - i

/-- Whether a keyword stands at the pointer: its word comes next, and then the end is reached, or
the character behind the word is looked up where it has to be blank. -/
def finds? (p : Pointer) (k : Keyword) : Option Bool :=
  (p.comesNext? k.word 0).bind fun found =>
    if !found then some false
    else if p.length ≤ p.position + k.word.length then some k.mayEnd
    else if !k.blankAfter then some true
    else p.text[p.position + k.word.length]?.map Text.isBlank

end Pointer

/-! ## The pointer of a cursor -/

namespace Cursor

/-- The whole text of a cursor, with its place as an index. -/
def pointer (c : Cursor) : Pointer := ⟨c.text, c.length, c.position⟩

variable {c c' : Cursor} {ofClass : Char → Bool} {fault : Fault}

@[simp]
theorem pointer_start (s : String) : (start s).pointer = .start s := by
  simp [pointer, start, Pointer.start, text, length, position]

/-- What is looked up from the index on are the characters that remain. -/
theorem getElem?_text (c : Cursor) (i : Nat) : c.text[c.position + i]? = c.rest[i]? := by
  rw [text, position, List.getElem?_append_right (Nat.le_add_right ..), Nat.add_sub_cancel_left]

theorem position_add_lt_length_iff {i : Nat} :
    c.position + i < c.length ↔ i < c.rest.length :=
  Nat.add_lt_add_iff_left

theorem position_lt_length_iff : c.position < c.length ↔ c.rest ≠ [] := by
  rw [← List.length_pos_iff, ← position_add_lt_length_iff, Nat.add_zero]

/-! ## Looking -/

theorem atEnd_pointer (c : Cursor) : c.pointer.atEnd = c.atEnd := by
  rw [Bool.eq_iff_iff, Pointer.atEnd, decide_eq_true_eq, atEnd, List.isEmpty_iff, ← Nat.not_lt]
  exact (not_congr position_lt_length_iff).trans not_not

theorem current?_pointer (c : Cursor) : c.pointer.current? = some c.current := by
  have first : c.text[c.position]? = c.rest[0]? := c.getElem?_text 0
  rw [Pointer.current?]
  show (if c.position < c.length then c.text[c.position]? else some '\x00') = _
  rw [first, current]
  split
  · next inside =>
    obtain ⟨x, r, rest⟩ := List.exists_cons_of_ne_nil (position_lt_length_iff.mp inside)
    rw [rest]
    rfl
  · next outside =>
    rw [not_not.mp (mt position_lt_length_iff.mpr outside)]
    rfl

/-- A span that is brought within the text is that of the cursor, which takes what there is. -/
theorem slice?_pointer (c : Cursor) (i j : Nat) : c.pointer.slice? i j = some (c.slice i j) := by
  rw [Pointer.slice?]
  show (if min j c.length ≤ c.text.length then
    some (String.ofList ((c.text.take (min j c.length)).drop (min i (min j c.length)))) else none) =
    some (String.ofList ((c.text.take j).drop i))
  rw [length_eq_length_text, if_pos (Nat.min_le_right ..), ← List.take_eq_take_min]
  have all : (c.text.take j).length = min j c.text.length := List.length_take
  rcases Nat.le_total i (min j c.text.length) with inside | beyond
  · rw [Nat.min_eq_left inside]
  · rw [Nat.min_eq_right beyond, List.drop_eq_nil_of_le (Nat.le_of_eq all),
      List.drop_eq_nil_of_le (all ▸ beyond)]

theorem diagnose?_pointer (c : Cursor) (fault : Fault) (i : Nat) :
    c.pointer.diagnose? fault i = some (c.diagnose fault i) := by
  rw [Pointer.diagnose?, slice?_pointer]
  rfl

/-! ## Moving -/

theorem advance_pointer (c : Cursor) (n : Nat) :
    c.pointer.advance n = (c.advance n).pointer := by
  rw [pointer, pointer, Pointer.advance, text_advance, position_advance,
    length_eq_length_text (c.advance n), text_advance, ← length_eq_length_text]

theorem next_pointer (c : Cursor) : c.pointer.next = c.next.pointer := by
  rw [Pointer.next_eq_advance c.position_le_length, advance_pointer]
  rfl

/-- The loop over indices ends behind the longest run of the class. -/
theorem passRun?_pointer (c : Cursor) (ofClass : Char → Bool) :
    c.pointer.passRun? ofClass = some (c.takeRun ofClass).2.pointer := by
  obtain ⟨passed, rest⟩ := c
  -- each round takes one character off what remains
  induction rest generalizing passed with
  | nil =>
    have ended : (⟨passed, []⟩ : Cursor).pointer.atEnd = true := by
      rw [atEnd_pointer]
      rfl
    rw [Pointer.passRun?, dif_pos ended]
    simp [takeRun]
  | cons x r ih =>
    have more : ¬ (⟨passed, x :: r⟩ : Cursor).pointer.atEnd = true := by
      rw [atEnd_pointer]
      exact Bool.false_ne_true
    rw [Pointer.passRun?, dif_neg more, current?_pointer, Option.bind_some, next_pointer]
    show (if ofClass x then (⟨passed ++ [x], r⟩ : Cursor).pointer.passRun? ofClass
      else some (⟨passed, x :: r⟩ : Cursor).pointer) = _
    split
    · next hx =>
      rw [ih, takeRun, takeRun]
      simp [hx]
    · next hx =>
      rw [takeRun]
      simp [hx]

/-! ## Reading -/

theorem readRun?_of_ok {s : String} (h : c.readRun ofClass fault = .ok (s, c')) :
    c.pointer.readRun? ofClass fault = some (.ok s, c'.pointer) := by
  obtain ⟨run, took, nonempty, rfl⟩ := readRun_eq_ok_iff.mp h
  have moved : ¬ c'.position = c.position := Nat.ne_of_gt (took.lt_position nonempty)
  have read : c'.slice c.position c'.position = String.ofList run := by
    rw [slice, took.between]
  rw [Pointer.readRun?, passRun?_pointer, takeRun_eq_iff.mpr took, Option.bind_some]
  show (if c'.position = c.position then _ else
    (c'.pointer.slice? c.position c'.position).map _) = _
  rw [if_neg moved, slice?_pointer, read]
  rfl

theorem readRun?_of_error {d : Diagnostic} (h : c.readRun ofClass fault = .error d) :
    c.pointer.readRun? ofClass fault = some (.error d, c.pointer) := by
  obtain ⟨halts, rfl⟩ := readRun_eq_error_iff.mp h
  have stays : c.takeRun ofClass = ([], c) := takeRun_eq_iff.mpr (took_nil halts)
  rw [Pointer.readRun?, passRun?_pointer, stays, Option.bind_some, if_pos rfl]
  show (c.pointer.diagnose? fault c.position).map _ = _
  rw [diagnose?_pointer]
  rfl

/-- Looking at the first character before the loop is what tells whether there is a run. -/
theorem expectBlanks?_of_ok (h : c.expectBlanks = .ok c') :
    c.pointer.expectBlanks? = some (.ok (), c'.pointer) := by
  obtain ⟨run, took, nonempty⟩ := expectBlanks_eq_ok_iff.mp h
  obtain ⟨x, r, rfl⟩ := List.exists_cons_of_ne_nil nonempty
  have rest : c.rest = x :: (r ++ c'.rest) := took.rest_eq
  have blank : Text.isBlank x = true := took.inClass x (List.mem_cons_self ..)
  have goesOn : ¬ (c.atEnd || !Text.isBlank c.current) = true := by
    simp [atEnd, current, rest, blank]
  rw [Pointer.expectBlanks?, current?_pointer, Option.bind_some, atEnd_pointer, if_neg goesOn,
    passRun?_pointer, takeRun_eq_iff.mpr took]
  rfl

theorem expectBlanks?_of_error {d : Diagnostic} (h : c.expectBlanks = .error d) :
    c.pointer.expectBlanks? = some (.error d, c.pointer) := by
  obtain ⟨halts, rfl⟩ := expectBlanks_eq_error_iff.mp h
  have stops : (c.atEnd || !Text.isBlank c.current) = true := by
    rw [atEnd, current]
    cases rest : c.rest with
    | nil => rfl
    | cons x r =>
      rw [rest, Text.halts_cons_iff] at halts
      simp [halts]
  rw [Pointer.expectBlanks?, current?_pointer, Option.bind_some, atEnd_pointer, if_pos stops]
  show (c.pointer.diagnose? .blank c.position).map _ = _
  rw [diagnose?_pointer]
  rfl

theorem readQuoted?_pointer (c : Cursor) :
    c.pointer.readQuoted? = some (c.readQuoted.1, c.readQuoted.2.pointer) := by
  rw [Pointer.readQuoted?, current?_pointer, Option.bind_some, readQuoted, next_pointer,
    passRun?_pointer]
  by_cases quote : c.current ≠ '\''
  · rw [if_pos quote, if_pos quote]
  · rw [if_neg quote, if_neg quote, Option.bind_some]
    cases htake : c.next.takeRun (· ≠ '\'') with
    | mk run c₁ =>
      have took := takeRun_eq_iff.mp htake
      have read : c₁.slice c.next.position c₁.position = String.ofList run := by
        rw [slice, took.between]
      dsimp only
      rw [atEnd_pointer, next_pointer, atEnd_pointer]
      show (if c₁.atEnd = true then some (none, c₁.pointer) else
        (c₁.pointer.slice? c.next.position c₁.position).map _) = _
      rw [slice?_pointer, read, Option.map_some]
      split
      · rfl
      · split <;> rfl

theorem unquoted_pointer (c : Cursor) :
    Pointer.readLiteral?.unquoted c.pointer = some
      ((Literal.unquoted? c.rest).elim (.error (c.toEnd.diagnose .literal c.position)) .ok,
        c.toEnd.pointer) := by
  have ended : c.pointer.advance c.pointer.length = c.toEnd.pointer := by
    rw [toEnd_eq_advance, ← advance_pointer]
    rfl
  rw [Pointer.readLiteral?.unquoted, ended]
  show (c.pointer.slice? c.position c.length).bind _ = _
  rw [slice?_pointer, slice_to_end, Option.bind_some, remaining, String.toList_ofList]
  cases Literal.unquoted? c.rest with
  | none =>
    show (c.toEnd.pointer.diagnose? .literal c.position).map _ = _
    rw [diagnose?_pointer]
    rfl
  | some l => rfl

/-- Going back to an index is holding on to the cursor that was there. -/
theorem readLiteral?_pointer (c : Cursor) :
    c.pointer.readLiteral? = some ((Literal.read c).1, (Literal.read c).2.pointer) := by
  have back : { c.readQuoted.2.pointer with position := c.pointer.position } = c.pointer := by
    show (⟨c.readQuoted.2.text, c.readQuoted.2.length, c.position⟩ : Pointer) =
      ⟨c.text, c.length, c.position⟩
    rw [length_eq_length_text, text_readQuoted, length_eq_length_text]
  rw [Pointer.readLiteral?, readQuoted?_pointer, Option.bind_some, back, unquoted_pointer,
    Literal.read]
  rcases c.readQuoted with ⟨_ | s, c'⟩
  · dsimp only
    cases Literal.unquoted? c.rest <;> rfl
  · rfl

/-! ## Finding words -/

/-- Every character that is looked up is there: the loop asks whether the text has one first. -/
theorem comesNext?_pointer (c : Cursor) (word : List Char) (i : Nat) :
    c.pointer.comesNext? word i = some ((word.drop i).isPrefixOf (c.rest.drop i)) := by
  rw [Pointer.comesNext?]
  show (if i < word.length then
    if c.length ≤ c.position + i then some false
    else word[i]?.bind fun w => c.text[c.position + i]?.bind fun ch =>
      if w ≠ ch then some false else c.pointer.comesNext? word (i + 1)
    else some true) = _
  by_cases inWord : i < word.length
  · rw [if_pos inWord, List.drop_eq_getElem_cons inWord, List.getElem?_eq_getElem inWord,
      Option.bind_some]
    by_cases inText : i < c.rest.length
    · have more : ¬ c.length ≤ c.position + i :=
        Nat.not_le.mpr (position_add_lt_length_iff.mpr inText)
      rw [if_neg more, getElem?_text, List.getElem?_eq_getElem inText, Option.bind_some,
        List.drop_eq_getElem_cons inText, comesNext?_pointer c word (i + 1)]
      by_cases same : word[i] = c.rest[i]
      · rw [if_neg (not_not_intro same)]
        simp [List.isPrefixOf, same]
      · rw [if_pos same]
        simp [List.isPrefixOf, same]
    · have ended : c.length ≤ c.position + i :=
        Nat.not_lt.mp (mt position_add_lt_length_iff.mp inText)
      rw [if_pos ended, List.drop_eq_nil_of_le (Nat.not_lt.mp inText)]
      rfl
  · rw [if_neg inWord, List.drop_eq_nil_of_le (Nat.not_lt.mp inWord)]
    rfl
termination_by word.length - i

/-- The character behind the word is looked up only where the text does not end there. -/
theorem finds?_pointer (c : Cursor) (k : Keyword) :
    c.pointer.finds? k = some (k.standsAt c) := by
  rw [Pointer.finds?, comesNext?_pointer, Option.bind_some, List.drop_zero, List.drop_zero,
    Keyword.standsAt]
  cases found : k.word.isPrefixOf c.rest with
  | false => rfl
  | true =>
    show (if c.length ≤ c.position + k.word.length then some k.mayEnd
      else if !k.blankAfter then some true
      else c.text[c.position + k.word.length]?.map Text.isBlank) = _
    rw [getElem?_text, Bool.true_and]
    by_cases ended : c.length ≤ c.position + k.word.length
    · have short : c.rest.length ≤ k.word.length := Nat.le_of_add_le_add_left ended
      rw [if_pos ended, List.drop_eq_nil_of_le short]
    · have inText : k.word.length < c.rest.length :=
        position_add_lt_length_iff.mp (Nat.not_le.mp ended)
      rw [if_neg ended, List.drop_eq_getElem_cons inText, List.getElem?_eq_getElem inText]
      cases k.blankAfter <;> rfl

end Cursor

end ODataGateway
