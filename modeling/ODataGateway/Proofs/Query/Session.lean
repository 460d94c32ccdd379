/-
# ODataGateway.Proofs.Query.Session — what any series of operations on a cursor keeps.

An operation looks at a text or moves within it.  It can be carried out on a cursor and on a
pointer, and on the pointer of a cursor it has a result and the same one
(`Cursor.perform?_pointer`); so a whole session runs on pointers without a lookup outside of the
text.  What one operation may do is `Operation.Lawful`: the text and its length stay, the pointer
stays within them and does not go back, and what was read is what stands between the two places.
Keywords are looked for in the same way, and the last section says where they stand.
-/
import ODataGateway.Proofs.Query.Pointer

namespace ODataGateway

/-! ## Operations -/

/-- What can be done with a cursor: looking, moving, and reading. -/
inductive Operation where
  | atEnd
  | current
  | remaining
  | slice (start stop : Nat)
  | since (start : Nat)
  | standsAt (k : Keyword)
  | reachesEnd (k : Keyword)
  | diagnose (fault : Fault) (start : Nat)
  | next
  | skipBlanks
  | advance (n : Nat)
  | readWord
  | readToken
  | expectBlanks
  | readQuoted
  | readLiteral

/-- What an operation returns. -/
inductive Outcome where
  | done
  | truth (b : Bool)
  | character (ch : Char)
  | text (s : String)
  | noText
  | literal (l : Literal)
  | failed (d : Diagnostic)

/-- What a reading returns, with the diagnostic when it fails. -/
def Outcome.ofReading {α : Type} (read : α → Outcome) : Except Diagnostic α → Outcome
  | .ok a => read a
  | .error d => failed d

namespace Cursor

/-- A reading that may fail; then the cursor is where it was. -/
def settle {α : Type} (c : Cursor) (read : α → Outcome × Cursor) :
    Except Diagnostic α → Outcome × Cursor
  | .ok a => read a
  | .error d => (.failed d, c)

/-- A reading of a text. -/
def settleText (c : Cursor) : Except Diagnostic (String × Cursor) → Outcome × Cursor :=
  c.settle fun r => (.text r.1, r.2)

/-- Carries out an operation. -/
def perform (c : Cursor) : Operation → Outcome × Cursor
  | .atEnd => (.truth c.atEnd, c)
  | .current => (.character c.current, c)
  | .remaining => (.text c.remaining, c)
  | .slice i j => (.text (c.slice i j), c)
  | .since i => (.text (c.since i), c)
  | .standsAt k => (.truth (k.standsAt c), c)
  | .reachesEnd k => (.truth (k.reachesEnd c), c)
  | .diagnose fault i => (.failed (c.diagnose fault i), c)
  | .next => (.done, c.next)
  | .skipBlanks => (.done, c.skipBlanks)
  | .advance n => (.done, c.advance n)
  | .readWord => c.settleText c.readWord
  | .readToken => c.settleText c.readToken
  | .expectBlanks => c.settle (fun c' => (.done, c')) c.expectBlanks
  | .readQuoted => (c.readQuoted.1.elim .noText .text, c.readQuoted.2)
  | .readLiteral => (.ofReading .literal (Literal.read c).1, (Literal.read c).2)

/-- Carries out one operation after the other. -/
def session (c : Cursor) : List Operation → List Outcome × Cursor
  | [] => ([], c)
  | op :: ops =>
    ((c.perform op).1 :: ((c.perform op).2.session ops).1, ((c.perform op).2.session ops).2)

end Cursor

namespace Pointer

/-- Carries out an operation, unless a character is looked up that is not there. -/
def perform? (p : Pointer) : Operation → Option (Outcome × Pointer)
  | .atEnd => some (.truth p.atEnd, p)
  | .current => p.current?.map fun ch => (.character ch, p)
  | .remaining => (p.slice? p.position p.length).map fun s => (.text s, p)
  | .slice i j => (p.slice? i j).map fun s => (.text s, p)
  | .since i => (p.slice? i p.position).map fun s => (.text s, p)
  | .standsAt k => (p.finds? k).map fun b => (.truth b, p)
  | .reachesEnd k => some (.truth (p.length ≤ p.position + k.word.length), p)
  | .diagnose fault i => (p.diagnose? fault i).map fun d => (.failed d, p)
  | .next => some (.done, p.next)
  | .skipBlanks => (p.passRun? Text.isBlank).map fun p' => (.done, p')
  | .advance n => some (.done, p.advance n)
  | .readWord =>
    (p.readRun? Cursor.isWordChar .fieldName).map fun r => (.ofReading .text r.1, r.2)
  | .readToken =>
    (p.readRun? (fun ch => !Text.isBlank ch) .token).map fun r => (.ofReading .text r.1, r.2)
  | .expectBlanks => p.expectBlanks?.map fun r => (.ofReading (fun _ => .done) r.1, r.2)
  | .readQuoted => p.readQuoted?.map fun r => (r.1.elim .noText .text, r.2)
  | .readLiteral => p.readLiteral?.map fun r => (.ofReading .literal r.1, r.2)

/-- Carries out one operation after the other. -/
def session? (p : Pointer) : List Operation → Option (List Outcome × Pointer)
  | [] => some ([], p)
  | op :: ops => (p.perform? op).bind fun r => (r.2.session? ops).map fun rs => (r.1 :: rs.1, rs.2)

end Pointer

namespace Cursor

variable {c c' : Cursor} {ofClass : Char → Bool}

/-! ## Sessions by index -/

theorem readRun?_pointer (c : Cursor) (ofClass : Char → Bool) (fault : Fault) :
    (c.pointer.readRun? ofClass fault).map (fun r => (Outcome.ofReading .text r.1, r.2)) =
      some ((c.settleText (c.readRun ofClass fault)).1,
        (c.settleText (c.readRun ofClass fault)).2.pointer) := by
  cases read : c.readRun ofClass fault with
  | error d => rw [readRun?_of_error read]; rfl
  | ok r => rw [readRun?_of_ok read]; rfl

theorem expectBlanks?_pointer (c : Cursor) :
    c.pointer.expectBlanks?.map (fun r => (Outcome.ofReading (fun _ => .done) r.1, r.2)) =
      some ((c.settle (fun c' => (.done, c')) c.expectBlanks).1,
        (c.settle (fun c' => (.done, c')) c.expectBlanks).2.pointer) := by
  cases read : c.expectBlanks with
  | error d => rw [expectBlanks?_of_error read]; rfl
  | ok c' => rw [expectBlanks?_of_ok read]; rfl

/-- No operation looks outside of the text, and its outcome is that on the cursor. -/
theorem perform?_pointer (c : Cursor) (op : Operation) :
    c.pointer.perform? op = some ((c.perform op).1, (c.perform op).2.pointer) := by
  cases op with
  | atEnd => rw [Pointer.perform?, atEnd_pointer]; rfl
  | current => rw [Pointer.perform?, current?_pointer]; rfl
  | remaining =>
    have all : c.slice c.position c.length = c.remaining := slice_to_end c
    show (c.pointer.slice? c.position c.length).map _ = _
    rw [slice?_pointer, all]
    rfl
  | slice i j => rw [Pointer.perform?, slice?_pointer]; rfl
  | since i =>
    show (c.pointer.slice? i c.position).map _ = _
    rw [slice?_pointer]
    rfl
  | standsAt k => rw [Pointer.perform?, finds?_pointer]; rfl
  | reachesEnd k => rfl
  | diagnose fault i => rw [Pointer.perform?, diagnose?_pointer]; rfl
  | next => rw [Pointer.perform?, next_pointer]; rfl
  | skipBlanks => rw [Pointer.perform?, passRun?_pointer]; rfl
  | advance n => rw [Pointer.perform?, advance_pointer]; rfl
  | readWord => exact readRun?_pointer c isWordChar .fieldName
  | readToken => exact readRun?_pointer c (fun ch => !Text.isBlank ch) .token
  | expectBlanks => exact expectBlanks?_pointer c
  | readQuoted => rw [Pointer.perform?, readQuoted?_pointer]; rfl
  | readLiteral => rw [Pointer.perform?, readLiteral?_pointer]; rfl

theorem session?_pointer (c : Cursor) (ops : List Operation) :
    c.pointer.session? ops = some ((c.session ops).1, (c.session ops).2.pointer) := by
  induction ops generalizing c with
  | nil => rfl
  | cons op ops ih => rw [Pointer.session?, perform?_pointer, Option.bind_some, ih]; rfl

end Cursor

/-! ## What an operation may do -/

namespace Pointer

/-- The second pointer stands in the same text, within its length, and not before the first. -/
structure Follows (p p' : Pointer) : Prop where
  text_eq : p'.text = p.text
  length_eq : p'.length = p.length
  within : p'.position ≤ p'.length
  forward : p.position ≤ p'.position

theorem Follows.trans {p p' p'' : Pointer} (h : p.Follows p') (h' : p'.Follows p'') :
    p.Follows p'' where
  text_eq := h'.text_eq.trans h.text_eq
  length_eq := h'.length_eq.trans h.length_eq
  within := h'.within
  forward := h.forward.trans h'.forward

/-- From the first pointer to the second goes the longest run of the class: all characters between
them are of it, and at the second the text ends or one stands that is not. -/
structure PassesRun (ofClass : Char → Bool) (p p' : Pointer) : Prop where
  inClass : ∀ i, p.position ≤ i → i < p'.position →
    ∃ ch, p.text[i]? = some ch ∧ ofClass ch = true
  stops : p'.position = p.length ∨ ∃ ch, p.text[p'.position]? = some ch ∧ ofClass ch = false

/-- A run was read that is not empty, and is what stands between the pointers; or there is none,
and the pointer has stayed. -/
def Reads (ofClass : Char → Bool) (p : Pointer) (o : Outcome) (p' : Pointer) : Prop :=
  PassesRun ofClass p p' ∧
    (p.position < p'.position ∧
        o = .text (String.ofList ((p.text.take p'.position).drop p.position)) ∨
      p' = p ∧ ∃ d, o = .failed d)

end Pointer

namespace Operation

/-- Where an operation leads, and what it then has returned. -/
def Leads : Operation → Pointer → Outcome → Pointer → Prop
  | next, p, _, p' => p'.position = min (p.position + 1) p.length
  | skipBlanks, p, _, p' => p.PassesRun Text.isBlank p'
  | advance n, p, _, p' => p'.position = min (p.position + n) p.length
  | readWord, p, o, p' => p.Reads Cursor.isWordChar o p'
  | readToken, p, o, p' => p.Reads (fun ch => !Text.isBlank ch) o p'
  | expectBlanks, p, o, p' => p.PassesRun Text.isBlank p' ∧
      (p.position < p'.position ∧ o = .done ∨ p' = p ∧ ∃ d, o = .failed d)
  | readQuoted, p, o, p' => ∀ s, o = .text s → p'.position = p.length
  | readLiteral, p, _, p' => p'.position = p.length
  | _, p, _, p' => p' = p

/-- What an operation may do: every one keeps to the text and does not go back, and it leads where
it has to. -/
structure Lawful (op : Operation) (p : Pointer) (o : Outcome) (p' : Pointer) : Prop where
  follows : p.Follows p'
  leads : op.Leads p o p'

end Operation

namespace Cursor

variable {c c' : Cursor} {ofClass : Char → Bool} {run : List Char}

theorem follows_of (text : c'.text = c.text) (forward : c.position ≤ c'.position) :
    c.pointer.Follows c'.pointer where
  text_eq := text
  length_eq := by
    show c'.length = c.length
    rw [length_eq_length_text, text, length_eq_length_text]
  within := c'.position_le_length
  forward := forward

theorem follows_self (c : Cursor) : c.pointer.Follows c.pointer := follows_of rfl (Nat.le_refl _)

theorem follows_advance (c : Cursor) (n : Nat) : c.pointer.Follows (c.advance n).pointer :=
  follows_of (text_advance c n) (c.position_le_advance n)

theorem Took.follows (took : Took ofClass c run c') : c.pointer.Follows c'.pointer :=
  follows_of took.text_eq took.position_le

/-- The run that is taken is the longest one. -/
theorem Took.passesRun (took : Took ofClass c run c') :
    c.pointer.PassesRun ofClass c'.pointer where
  inClass := by
    intro i (behind : c.position ≤ i) (before : i < c'.position)
    obtain ⟨k, rfl⟩ := Nat.exists_eq_add_of_le behind
    have inRun : k < run.length := by
      rw [took.position_eq] at before
      omega
    refine ⟨run[k], ?_, took.inClass _ (List.getElem_mem inRun)⟩
    show c.text[c.position + k]? = some run[k]
    rw [getElem?_text, took.rest_eq, List.getElem?_append_left inRun,
      List.getElem?_eq_getElem inRun]
  stops := by
    show c'.position = c.length ∨ ∃ ch, c.text[c'.position]? = some ch ∧ ofClass ch = false
    rw [← took.text_eq, length_eq_length_text c, ← took.text_eq, ← length_eq_length_text]
    have next : c'.text[c'.position]? = c'.rest[0]? := c'.getElem?_text 0
    have halts := took.halts
    rw [next]
    cases rest : c'.rest with
    | nil => exact Or.inl (by rw [length, rest]; rfl)
    | cons ch r =>
      rw [rest, Text.halts_cons_iff] at halts
      exact Or.inr ⟨ch, rfl, halts⟩

/-- Reading a run, with or without success. -/
theorem reads_readRun (c : Cursor) (ofClass : Char → Bool) (fault : Fault) :
    c.pointer.Follows (c.settleText (c.readRun ofClass fault)).2.pointer ∧
    c.pointer.Reads ofClass (c.settleText (c.readRun ofClass fault)).1
      (c.settleText (c.readRun ofClass fault)).2.pointer := by
  cases read : c.readRun ofClass fault with
  | error d =>
    obtain ⟨halts, -⟩ := readRun_eq_error_iff.mp read
    exact ⟨c.follows_self, (took_nil halts).passesRun, Or.inr ⟨rfl, d, rfl⟩⟩
  | ok r =>
    obtain ⟨run, took, nonempty, text⟩ :=
      readRun_eq_ok_iff.mp (show c.readRun ofClass fault = .ok (r.1, r.2) from read)
    refine ⟨took.follows, took.passesRun, Or.inl ⟨took.lt_position nonempty, ?_⟩⟩
    show Outcome.text r.1 =
      .text (String.ofList ((c.text.take r.2.position).drop c.position))
    rw [text, ← took.text_eq, took.between]

theorem lawful_expectBlanks (c : Cursor) :
    Operation.expectBlanks.Lawful c.pointer (c.perform .expectBlanks).1
      (c.perform .expectBlanks).2.pointer := by
  rw [perform]
  cases read : c.expectBlanks with
  | error d =>
    have halts := (expectBlanks_eq_error_iff.mp read).1
    exact ⟨c.follows_self, (took_nil halts).passesRun, Or.inr ⟨rfl, d, rfl⟩⟩
  | ok c' =>
    obtain ⟨run, took, nonempty⟩ := expectBlanks_eq_ok_iff.mp read
    exact ⟨took.follows, took.passesRun, Or.inl ⟨took.lt_position nonempty, rfl⟩⟩

/-! ## Reading literals -/

/-- Whatever a literal is read as, nothing remains behind it. -/
theorem read_literal_to_end (c : Cursor) :
    (Literal.read c).2.text = c.text ∧ (Literal.read c).2.atEnd = true ∧
      c.position ≤ (Literal.read c).2.position := by
  have ended : c.toEnd.text = c.text ∧ c.toEnd.atEnd = true ∧ c.position ≤ c.toEnd.position := by
    refine ⟨c.text_toEnd, rfl, ?_⟩
    rw [toEnd_eq_advance]
    exact c.position_le_advance _
  have quoted : ∀ s, c.readQuoted.1 = some s → c.readQuoted.2.text = c.text ∧
      c.readQuoted.2.atEnd = true ∧ c.position ≤ c.readQuoted.2.position :=
    fun s read => ⟨c.text_readQuoted, atEnd_readQuoted read, c.position_le_readQuoted⟩
  rw [Literal.read]
  revert quoted
  rcases c.readQuoted with ⟨_ | s, c'⟩
  · intro _
    dsimp only
    cases Literal.unquoted? c.rest <;> exact ended
  · intro quoted
    exact quoted s rfl

/-! ## Sessions -/

/-- Every operation is lawful, wherever the cursor stands. -/
theorem lawful_perform (c : Cursor) (op : Operation) :
    op.Lawful c.pointer (c.perform op).1 (c.perform op).2.pointer := by
  cases op with
  | atEnd | current | remaining | slice | since | standsAt | reachesEnd | diagnose =>
    exact ⟨c.follows_self, rfl⟩
  | next => exact ⟨c.follows_advance 1, c.position_advance 1⟩
  | advance n => exact ⟨c.follows_advance n, c.position_advance n⟩
  | skipBlanks =>
    have took : Took Text.isBlank c (c.takeRun Text.isBlank).1 c.skipBlanks :=
      takeRun_eq_iff.mp rfl
    exact ⟨took.follows, took.passesRun⟩
  | readWord =>
    obtain ⟨follows, reads⟩ := c.reads_readRun isWordChar .fieldName
    exact ⟨follows, reads⟩
  | readToken =>
    obtain ⟨follows, reads⟩ := c.reads_readRun (fun ch => !Text.isBlank ch) .token
    exact ⟨follows, reads⟩
  | expectBlanks => exact c.lawful_expectBlanks
  | readQuoted =>
    have follows := follows_of c.text_readQuoted c.position_le_readQuoted
    refine ⟨follows, fun s returned => ?_⟩
    cases read : c.readQuoted.1 with
    | none => rw [perform, read] at returned; cases returned
    | some t => exact (position_of_atEnd (atEnd_readQuoted read)).trans follows.length_eq
  | readLiteral =>
    obtain ⟨text, ended, forward⟩ := c.read_literal_to_end
    have follows := follows_of text forward
    exact ⟨follows, (position_of_atEnd ended).trans follows.length_eq⟩

/-- What no operation changes no session changes. -/
theorem follows_session (c : Cursor) (ops : List Operation) :
    c.pointer.Follows (c.session ops).2.pointer := by
  induction ops generalizing c with
  | nil => exact c.follows_self
  | cons op ops ih => exact (c.lawful_perform op).follows.trans (ih (c.perform op).2)

/-- Every session from the start of a text runs through on the pointer as it does on the cursor: no
character is looked up that is not there.  It has then kept the text and its length, the place is
within them, and whatever comes next is lawful. -/
theorem session_lawful (s : String) (ops : List Operation) :
    ∃ os c, (start s).session ops = (os, c) ∧
      (Pointer.start s).session? ops = some (os, c.pointer) ∧
      (Pointer.start s).Follows c.pointer ∧
      ∀ op, ∃ o c', c.perform op = (o, c') ∧ c.pointer.perform? op = some (o, c'.pointer) ∧
        op.Lawful c.pointer o c'.pointer := by
  refine ⟨((start s).session ops).1, ((start s).session ops).2, rfl, ?_, ?_, ?_⟩
  · rw [← pointer_start, session?_pointer]
  · rw [← pointer_start]
    exact follows_session (start s) ops
  · intro op
    exact ⟨_, _, rfl, perform?_pointer _ op, lawful_perform _ op⟩

end Cursor

/-! ## Keywords -/

/-- Where a word comes next, the character behind it is the first of what follows the word, and the
word reaches the end just if nothing does. -/
theorem Pointer.behind_word (p : Pointer) (fits : p.length = p.text.length)
    (within : p.position ≤ p.length) {word r : List Char}
    (cut : p.text.drop p.position = word ++ r) :
    p.text[p.position + word.length]? = r[0]? ∧
      (p.position + word.length = p.length ↔ r = []) := by
  constructor
  · rw [← List.getElem?_drop, cut, List.getElem?_append_right (Nat.le_refl _), Nat.sub_self]
  · have lengths := congrArg List.length cut
    rw [List.length_drop, List.length_append, ← fits] at lengths
    rw [← List.length_eq_zero_iff]
    omega

namespace Keyword

/-- The pointer at a place of a text is that of the cursor there. -/
theorem pointer_ofPlace {p : Pointer} (fits : p.length = p.text.length)
    (within : p.position ≤ p.length) : (Cursor.ofPlace p.text p.position).pointer = p := by
  rw [Cursor.pointer, Cursor.length_eq_length_text, Cursor.text_ofPlace,
    Cursor.position_ofPlace (fits ▸ within), ← fits]

/-- A keyword is found by looking at the characters one by one, none of them outside of the text,
and the pointer stays.  It stands there when its word comes next, and behind the word the text ends
and may end, or there is a character, which is blank if it has to be. -/
theorem standsAt_exact (k : Keyword) (p : Pointer) (fits : p.length = p.text.length)
    (within : p.position ≤ p.length) :
    p.perform? (.standsAt k) = some (.truth (k.standsAt (.ofPlace p.text p.position)), p) ∧
    (k.standsAt (.ofPlace p.text p.position) = true ↔
      k.word <+: p.text.drop p.position ∧
        (p.position + k.word.length = p.length ∧ k.mayEnd = true ∨
          ∃ ch, p.text[p.position + k.word.length]? = some ch ∧
            (k.blankAfter = false ∨ Text.isBlank ch = true))) := by
  constructor
  · have found := (Cursor.ofPlace p.text p.position).perform?_pointer (.standsAt k)
    rw [pointer_ofPlace fits within] at found
    rw [found, Cursor.perform, pointer_ofPlace fits within]
  · rw [standsAt_iff]
    constructor
    · rintro ⟨r, cut, follows⟩
      obtain ⟨next, ends⟩ := p.behind_word fits within cut
      refine ⟨⟨r, cut.symm⟩, ?_⟩
      rcases follows with ⟨rfl, mayEnd⟩ | ⟨ch, r', rfl, blank⟩
      · exact Or.inl ⟨ends.mpr rfl, mayEnd⟩
      · exact Or.inr ⟨ch, next, blank⟩
    · rintro ⟨⟨r, cut⟩, follows⟩
      obtain ⟨next, ends⟩ := p.behind_word fits within cut.symm
      refine ⟨r, cut.symm, ?_⟩
      rcases follows with ⟨ended, mayEnd⟩ | ⟨ch, there, blank⟩
      · exact Or.inl ⟨ends.mp ended, mayEnd⟩
      · rw [next] at there
        cases r with
        | nil => exact absurd there.symm (Option.some_ne_none ch)
        | cons x r' => exact Or.inr ⟨x, r', rfl, Option.some.inj there ▸ blank⟩

/-- A word that is all that remains, and the empty one where nothing remains. -/
theorem standsAt_exact_at_the_end :
    desc.standsAt (.ofPlace ['a', ' ', 'd', 'e', 's', 'c'] 2) = true ∧
    (Keyword.mk [] true false).standsAt (.ofPlace ['a'] 1) = false := by
  constructor
  · refine (standsAt_exact desc ⟨['a', ' ', 'd', 'e', 's', 'c'], 6, 2⟩ rfl (by decide)).2.mpr ?_
    exact ⟨List.prefix_refl _, Or.inl ⟨rfl, rfl⟩⟩
  · rw [Bool.eq_false_iff]
    intro stands
    have follows := ((standsAt_exact ⟨[], true, false⟩ ⟨['a'], 1, 1⟩ rfl (by decide)).2.mp stands).2
    rcases follows with ⟨-, mayEnd⟩ | ⟨ch, there, -⟩
    · cases mayEnd
    · cases there

end Keyword

end ODataGateway
