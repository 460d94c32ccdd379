/-
# ODataGateway.Proofs.Json.Taking — what a reader takes off the front of a text.

`Takes piece s x rest` says that a reader succeeds on a text, with what value, and what it leaves.
The readers of whole values are put together from readers of pieces, and what they take is put
together in the same way: there is one lemma for each way in which they are joined.
-/
import ODataGateway.Json.Reader
import ODataGateway.Proofs.Text.Runs

namespace ODataGateway.Json

open Text (Halts halts_cons_iff dropWhile_of_halts)

/-- The reader takes the value off the front of the text and leaves the rest. -/
def Takes {α : Type} (piece : Reader α) (s : List Char) (x : α) (rest : List Char) : Prop :=
  ∃ q : Rest s, piece s = some (x, q) ∧ q.text = rest

/-- The reader comes to the given result on the text; if this is a value, it leaves the rest. -/
def Finds {α : Type} (piece : Reader α) (s : List Char) (result : Option α) (rest : List Char) :
    Prop :=
  ∃ q : Rest s, piece s = result.map (fun x => (x, q)) ∧ q.text = rest

section

variable {α β : Type} {piece : Reader α} {s r t rest : List Char} {x : α} {c close : Char}
  {result : Option α}

/-- To find a value is to take it. -/
theorem Finds.takes (h : Finds piece s (some x) rest) : Takes piece s x rest := h

theorem Takes.finds (h : Takes piece s x rest) : Finds piece s (some x) rest := h

theorem Finds.eq_none (h : Finds piece s none rest) : piece s = none := by
  obtain ⟨q, read, -⟩ := h
  exact read

/-! ## Tokens -/

theorem skipSpace_of_halts (h : Halts isSpace s) : skipSpace s = s := dropWhile_of_halts h

/-- Where there are no spaces, a piece is read as it is. -/
theorem finds_afterSpace (start : Halts isSpace s) (h : Finds piece s result rest) :
    Finds (afterSpace piece) s result rest := by
  rw [← skipSpace_of_halts start] at h
  obtain ⟨q, read, rfl⟩ := h
  unfold Finds afterSpace
  rw [read]
  exact ⟨q.widen (length_skipSpace_le s), by rw [Option.map_map]; rfl, rfl⟩

theorem takes_afterSpace (start : Halts isSpace s) (h : Takes piece s x rest) :
    Takes (afterSpace piece) s x rest := (finds_afterSpace start h.finds).takes

/-- A character that is no space is a token. -/
theorem takes_token (h : isSpace c = false) : Takes readToken (c :: r) c r := by
  have same : skipSpace (c :: r) = c :: r := skipSpace_of_halts (halts_cons_iff.mpr h)
  unfold Takes readToken
  split
  · next none =>
    rw [same] at none
    exact nomatch none
  · next found =>
    rw [same] at found
    obtain ⟨rfl, rfl⟩ := List.cons.inj found
    exact ⟨_, rfl, rfl⟩

/-! ## Sequences -/

/-- A sequence ends with its closing character. -/
theorem takes_sequence_last (hx : Takes piece s x r) (hclose : Takes readToken r close rest) :
    Takes (readSequence piece close) s [x] rest := by
  obtain ⟨q, read, rfl⟩ := hx
  obtain ⟨q', token, rfl⟩ := hclose
  unfold Takes
  rw [readSequence, read]
  simp only [token, if_true]
  exact ⟨_, rfl, rfl⟩

/-- It goes on after a comma. -/
theorem takes_sequence_more {xs : List α} (hx : Takes piece s x r)
    (hcomma : Takes readToken r ',' t) (open? : close ≠ ',')
    (hxs : Takes (readSequence piece close) t xs rest) :
    Takes (readSequence piece close) s (x :: xs) rest := by
  obtain ⟨q, read, rfl⟩ := hx
  obtain ⟨q', token, rfl⟩ := hcomma
  obtain ⟨q'', readRest, rfl⟩ := hxs
  unfold Takes
  rw [readSequence, read]
  simp only [token, if_neg open?.symm, if_true, readRest]
  exact ⟨_, rfl, rfl⟩

/-- Between brackets there may be nothing. -/
theorem takes_bracketed_nil (h : Takes readToken s close rest) :
    Takes (readBracketed piece close) s [] rest := by
  obtain ⟨q, token, rfl⟩ := h
  unfold Takes
  rw [readBracketed, token]
  simp only [if_true]
  exact ⟨_, rfl, rfl⟩

/-- What does not start with the closing bracket is a sequence. -/
theorem takes_bracketed_cons {xs : List α} (start : Takes readToken s c r) (more : c ≠ close)
    (h : Takes (readSequence piece close) s xs rest) :
    Takes (readBracketed piece close) s xs rest := by
  obtain ⟨q, token, rfl⟩ := start
  obtain ⟨q', read, rfl⟩ := h
  unfold Takes
  rw [readBracketed, token]
  simp only [if_neg more, read]
  exact ⟨_, rfl, rfl⟩

/-! ### Elements with commas between them -/

variable {write : β → List Char} {f : β → α} {xs : List β}

theorem commas_cons (write : β → List Char) (x y : β) (ys : List β) :
    [','].intercalate ((x :: y :: ys).map write) =
      write x ++ ',' :: [','].intercalate ((y :: ys).map write) := by
  rw [List.map_cons, List.map_cons, List.intercalate_cons_cons, List.append_assoc]
  rfl

/-- The first element comes first. -/
theorem commas_start (write : β → List Char) (x : β) (ys : List β) :
    ∃ r, [','].intercalate ((x :: ys).map write) = write x ++ r := by
  cases ys with
  | nil => exact ⟨[], by rw [List.map_singleton, List.intercalate_singleton, List.append_nil]⟩
  | cons y ys => exact ⟨_, commas_cons write x y ys⟩

/-- Elements that are read back one by one, each before a comma or the closing character, are read
back from their texts with commas between. -/
theorem takes_sequence (closing : isSpace close = false) (open? : close ≠ ',') (nonempty : xs ≠ [])
    (elements : ∀ x ∈ xs, ∀ c r, c = ',' ∨ c = close →
      Takes piece (write x ++ c :: r) (f x) (c :: r)) (rest : List Char) :
    Takes (readSequence piece close) ([','].intercalate (xs.map write) ++ close :: rest)
      (xs.map f) rest := by
  -- along the elements; the last one stands before the closing character, others before a comma
  induction xs with
  | nil => exact absurd rfl nonempty
  | cons x xs ih =>
    have first := elements x (List.mem_cons_self ..)
    cases xs with
    | nil =>
      rw [List.map_singleton, List.map_singleton, List.intercalate_singleton]
      exact takes_sequence_last (first close rest (Or.inr rfl)) (takes_token closing)
    | cons y ys =>
      have others := ih (List.cons_ne_nil _ _) fun z hz => elements z (List.mem_cons_of_mem _ hz)
      rw [commas_cons, List.map_cons, List.append_assoc]
      exact takes_sequence_more (first ',' _ (Or.inl rfl)) (takes_token (by decide)) open? others

/-- The same between brackets, where there may be no elements; the text of an element does not look
like the closing bracket. -/
theorem takes_bracketed (closing : isSpace close = false) (open? : close ≠ ',')
    (starts : ∀ x ∈ xs, ∃ c r, write x = c :: r ∧ isSpace c = false ∧ c ≠ close)
    (elements : ∀ x ∈ xs, ∀ c r, c = ',' ∨ c = close →
      Takes piece (write x ++ c :: r) (f x) (c :: r)) (rest : List Char) :
    Takes (readBracketed piece close) ([','].intercalate (xs.map write) ++ close :: rest)
      (xs.map f) rest := by
  cases xs with
  | nil => exact takes_bracketed_nil (takes_token closing)
  | cons x xs =>
    have sequence := takes_sequence closing open? (List.cons_ne_nil x xs) elements rest
    obtain ⟨c, r, text, noSpace, more⟩ := starts x (List.mem_cons_self ..)
    obtain ⟨r', start⟩ := commas_start write x xs
    rw [start, text] at sequence ⊢
    exact takes_bracketed_cons (takes_token noSpace) more sequence

end

/-! ## Members -/

section

variable {value : Reader Json} {s r t rest : List Char} {key : String} {v : Json}

theorem takes_colon (r : List Char) : Takes readColon (':' :: r) () r := by
  obtain ⟨q, token, left⟩ : Takes readToken (':' :: r) ':' r := takes_token (by decide)
  unfold Takes
  rw [readColon, token]
  exact ⟨_, rfl, left⟩

/-- A member is a key, a colon and a value. -/
theorem takes_member (hkey : Takes (afterSpace readString) s key r)
    (hcolon : Takes readColon r () t) (hvalue : Takes value t v rest) :
    Takes (readMember value) s (key, v) rest := by
  obtain ⟨q, read, rfl⟩ := hkey
  obtain ⟨q', colon, rfl⟩ := hcolon
  obtain ⟨q'', readValue, rfl⟩ := hvalue
  unfold Takes
  simp only [readMember, read, colon, readValue, Option.bind_eq_bind, Option.bind_some]
  exact ⟨_, rfl, rfl⟩

end

end ODataGateway.Json
