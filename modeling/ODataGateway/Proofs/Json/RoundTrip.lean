/-
# ODataGateway.Proofs.Json.RoundTrip — values that are written are read back.

Not every value can come from a text: integers have 64 bits, objects have their keys sorted, and
nesting has a bound.  `Readable` says which ones do: what is read is readable
(`readable_of_read?`), and what is readable is read back from its text (`read?_write_iff`).  An
object with its members in another order is written as well, and is read as the object that gathers
them (`readsAs_object`).
-/
import ODataGateway.Proofs.Json.Members
import ODataGateway.Proofs.Json.Numbers
import ODataGateway.Proofs.Json.Strings

namespace ODataGateway.Json

open Text (halts_cons_iff)

/-! ## How texts start -/

/-- A character that starts a scalar. -/
def StartsScalar (c : Char) : Prop := isSpace c = false ∧ c ≠ '[' ∧ c ≠ ']' ∧ c ≠ '{'

instance (c : Char) : Decidable (StartsScalar c) :=
  inferInstanceAs (Decidable (isSpace c = false ∧ c ≠ '[' ∧ c ≠ ']' ∧ c ≠ '{'))

/-- A character that starts a number. -/
def StartsNumber (c : Char) : Prop := c = '-' ∨ c.isDigit = true

theorem StartsNumber.ne {c x : Char} (h : StartsNumber c) (minus : x ≠ '-')
    (digit : x.isDigit = false) : c ≠ x := by
  rintro rfl
  rcases h with rfl | isDigit
  · exact minus rfl
  · rw [isDigit] at digit
    exact nomatch digit

/-- Numbers are scalars, and start as such. -/
theorem StartsNumber.startsScalar {c : Char} (h : StartsNumber c) : StartsScalar c := by
  have space : c ≠ ' ' := h.ne (by decide) (by decide)
  have tab : c ≠ '\t' := h.ne (by decide) (by decide)
  have newline : c ≠ '\n' := h.ne (by decide) (by decide)
  have home : c ≠ '\r' := h.ne (by decide) (by decide)
  refine ⟨?_, h.ne (by decide) (by decide), h.ne (by decide) (by decide),
    h.ne (by decide) (by decide)⟩
  simp only [isSpace, space, tab, newline, home, decide_false, Bool.or_self]

/-- A number starts with its minus or with the first digit of its whole part. -/
theorem starts_parts {negative : Bool} {whole : List Char} (hwhole : Numeral.IsWhole whole)
    (rest : List Char) :
    ∃ c r, (if negative then ['-'] else []) ++ (whole ++ rest) = c :: r ∧ StartsNumber c := by
  obtain ⟨c, w, rfl⟩ := List.exists_cons_of_ne_nil hwhole.ne_nil
  cases negative with
  | true => exact ⟨'-', _, rfl, Or.inl rfl⟩
  | false => exact ⟨c, _, rfl, Or.inr (hwhole.isDigit c (List.mem_cons_self ..))⟩

theorem integer_start (i : Int) : ∃ c r, Layout.integer i = c :: r ∧ StartsNumber c := by
  rw [numberText_integer]
  exact starts_parts (Layout.isWhole_natural _) _

theorem float_start (x : Binary64.Finite) :
    ∃ c r, Layout.wire.number x = c :: r ∧ StartsNumber c := by
  obtain ⟨whole, fraction, power, text, hwhole, -⟩ := numberText_float x
  rw [text]
  exact starts_parts hwhole _

/-- No text starts with a space or a closing bracket. -/
theorem write_start (v : Json) : ∃ c r, write v = c :: r ∧ isSpace c = false ∧ c ≠ ']' := by
  have number : ∀ text, (∃ c r, text = c :: r ∧ StartsNumber c) →
      ∃ c r, text = c :: r ∧ isSpace c = false ∧ c ≠ ']' := by
    rintro text ⟨c, r, same, start⟩
    obtain ⟨noSpace, -, noBracket, -⟩ := start.startsScalar
    exact ⟨c, r, same, noSpace, noBracket⟩
  cases v with
  | null => exact ⟨_, _, by rw [write]; rfl, by decide, by decide⟩
  | bool b => cases b <;> exact ⟨_, _, by rw [write]; rfl, by decide, by decide⟩
  | integer i =>
    rw [write]
    exact number _ (integer_start i)
  | float x =>
    rw [write]
    exact number _ (float_start x)
  | string t => exact ⟨_, _, by rw [write, quote]; rfl, by decide, by decide⟩
  | array items => exact ⟨_, _, by rw [write]; rfl, by decide, by decide⟩
  | object ms => exact ⟨_, _, by rw [write]; rfl, by decide, by decide⟩

/-- Only null is written as `null`. -/
theorem write_eq_null_iff {v : Json} : write v = "null".toList ↔ v = .null := by
  have number : ∀ text, (∃ c r, text = c :: r ∧ StartsNumber c) → text ≠ "null".toList := by
    rintro text ⟨c, r, rfl, start⟩ same
    exact start.ne (by decide) (by decide) (List.cons.inj same).1
  constructor
  · intro same
    cases v with
    | null => rfl
    | bool b => cases b <;> exact absurd same (by rw [write]; decide)
    | integer i =>
      rw [write] at same
      exact absurd same (number _ (integer_start i))
    | float x =>
      rw [write] at same
      exact absurd same (number _ (float_start x))
    | string t =>
      rw [write] at same
      exact absurd (List.cons.inj same).1 (by decide)
    | array items =>
      rw [write] at same
      exact absurd (List.cons.inj same).1 (by decide)
    | object ms =>
      rw [write] at same
      exact absurd (List.cons.inj same).1 (by decide)
  · rintro rfl
    rw [write]

/-! ## Scalars -/

section

variable {s r rest text : List Char} {c : Char} {v : Json} {result : Option Json}

/-- Numbers are what is left when a scalar is neither a word nor a string. -/
theorem finds_scalar_number (start : StartsNumber c) (h : Finds readNumber (c :: r) result rest) :
    Finds readScalar (c :: r) result rest := by
  have other : ∀ x : Char, x ≠ '-' → x.isDigit = false → ∀ w, c :: r ≠ x :: w := by
    intro x minus digit w same
    exact start.ne minus digit (List.cons.inj same).1
  have read : readScalar (c :: r) = readNumber (c :: r) := by
    rw [readScalar]
    · exact fun _ => other 'n' (by decide) (by decide) _
    · exact fun _ => other 't' (by decide) (by decide) _
    · exact fun _ => other 'f' (by decide) (by decide) _
    · exact fun _ => other '"' (by decide) (by decide) _
  obtain ⟨q, number, left⟩ := h
  exact ⟨q, read ▸ number, left⟩

theorem takes_scalar_string (t : String) (rest : List Char) :
    Takes readScalar (quote t ++ rest) (.string t) rest := by
  obtain ⟨q, read, left⟩ := takes_string_quote t rest
  have step : readScalar (quote t ++ rest) = some (.string t, q) := by
    show (readString (quote t ++ rest)).map (fun p => (Json.string p.1, p.2)) = _
    rw [read]
    rfl
  exact ⟨q, step, left⟩

/-- Scalars are values at every depth. -/
theorem finds_value_of_scalar (d : Nat) (start : StartsScalar c)
    (h : Finds readScalar (c :: r) result rest) : Finds (readValue d) (c :: r) result rest := by
  have noSpace : Text.Halts isSpace (c :: r) := halts_cons_iff.mpr start.1
  cases d with
  | zero => exact finds_afterSpace noSpace h
  | succ d =>
    have step : readCompound (readValue d) (c :: r) = readScalar (c :: r) := by
      rw [readCompound]
      · rintro w same
        exact start.2.1 (List.cons.inj same).1
      · rintro w same
        exact start.2.2.2 (List.cons.inj same).1
    obtain ⟨q, read, left⟩ := h
    exact finds_afterSpace noSpace ⟨q, step.trans read, left⟩

theorem takes_value_of_scalar (d : Nat) (start : StartsScalar c)
    (h : Takes readScalar (c :: r) v rest) : Takes (readValue d) (c :: r) v rest :=
  (finds_value_of_scalar d start h.finds).takes

theorem finds_value_of_number (d : Nat) (start : ∃ c r, text = c :: r ∧ StartsNumber c)
    (h : Finds readNumber (text ++ rest) result rest) :
    Finds (readValue d) (text ++ rest) result rest := by
  obtain ⟨c, r, rfl, start⟩ := start
  exact finds_value_of_scalar d start.startsScalar (finds_scalar_number start h)

theorem takes_value_of_number (d : Nat) (start : ∃ c r, text = c :: r ∧ StartsNumber c)
    (h : Takes readNumber (text ++ rest) v rest) : Takes (readValue d) (text ++ rest) v rest :=
  (finds_value_of_number d start h.finds).takes

end

/-! ## Arrays and objects -/

theorem writeItems_eq (items : List Json) :
    writeItems items = [','].intercalate (items.map write) := by
  induction items with
  | nil =>
    rw [writeItems]
    rfl
  | cons v rest ih =>
    cases rest with
    | nil => rw [writeItems, List.map_singleton, List.intercalate_singleton]
    | cons w rest =>
      rw [writeItems, ih, commas_cons]
      exact List.cons_ne_nil w rest

/-- The text of a member. -/
def writeMember (m : String × Json) : List Char := quote m.1 ++ ':' :: write m.2

theorem writeMembers_eq (ms : List (String × Json)) :
    writeMembers ms = [','].intercalate (ms.map writeMember) := by
  induction ms with
  | nil =>
    rw [writeMembers]
    rfl
  | cons m rest ih =>
    obtain ⟨k, v⟩ := m
    cases rest with
    | nil =>
      rw [writeMembers, List.map_singleton, List.intercalate_singleton]
      rfl
    | cons n rest =>
      rw [writeMembers, ih, commas_cons]
      · rfl
      · exact List.cons_ne_nil n rest

theorem ends_of_delimiter {c : Char} (h : c = ',' ∨ c = ']' ∨ c = '}') (r : List Char) :
    Ends (c :: r) := by
  rcases h with rfl | rfl | rfl
  · exact halts_cons_iff.mpr (by decide)
  · exact halts_cons_iff.mpr (by decide)
  · exact halts_cons_iff.mpr (by decide)

/-- A value is read back at some depth as another one, wherever its text may stand. -/
def ReadsAs (d : Nat) (v w : Json) : Prop :=
  ∀ rest, Ends rest → Takes (readValue d) (write v ++ rest) w rest

section

variable {d : Nat}

/-- An array is read back element by element. -/
theorem readsAs_array {α : Type} {xs : List α} {value result : α → Json}
    (h : ∀ x ∈ xs, ReadsAs d (value x) (result x)) :
    ReadsAs (d + 1) (.array (xs.map value)) (.array (xs.map result)) := by
  intro rest _
  have elements : ∀ x ∈ xs, ∀ c r, c = ',' ∨ c = ']' →
      Takes (readValue d) (write (value x) ++ c :: r) (result x) (c :: r) := by
    intro x hx c r delimiter
    exact h x hx (c :: r) (ends_of_delimiter (delimiter.imp_right Or.inl) r)
  obtain ⟨q, read, left⟩ := takes_bracketed (by decide) (by decide)
    (fun x _ => write_start (value x)) elements rest
  have text : write (.array (xs.map value)) ++ rest =
      '[' :: ([','].intercalate (xs.map fun x => write (value x)) ++ ']' :: rest) := by
    rw [write, writeItems_eq, List.map_map, List.cons_append, List.cons_append, List.append_assoc]
    rfl
  have step : readCompound (readValue d)
      ('[' :: ([','].intercalate (xs.map fun x => write (value x)) ++ ']' :: rest)) =
        some (.array (xs.map result), q.behind '[') := by
    rw [readCompound, read]
    rfl
  rw [text]
  exact takes_afterSpace (halts_cons_iff.mpr (by decide)) ⟨_, step, left⟩

/-- A member is read back if its value is. -/
theorem takes_writeMember {m : String × Json} (h : ReadsAs d m.2 m.2) {rest : List Char}
    (ends : Ends rest) : Takes (readMember (readValue d)) (writeMember m ++ rest) m rest := by
  have text : writeMember m ++ rest = quote m.1 ++ ':' :: (write m.2 ++ rest) := by
    rw [writeMember, List.append_assoc]
    rfl
  have start : Text.Halts isSpace (quote m.1 ++ ':' :: (write m.2 ++ rest)) :=
    halts_cons_iff.mpr (by decide)
  rw [text]
  exact takes_member (takes_afterSpace start (takes_string_quote m.1 _)) (takes_colon _)
    (h rest ends)

/-- An object is read back as the one that gathers its members. -/
theorem readsAs_object {ms : List (String × Json)} (h : ∀ m ∈ ms, ReadsAs d m.2 m.2) :
    ReadsAs (d + 1) (.object ms) (ofMembers ms) := by
  intro rest _
  have elements : ∀ m ∈ ms, ∀ c r, c = ',' ∨ c = '}' →
      Takes (readMember (readValue d)) (writeMember m ++ c :: r) (id m) (c :: r) := by
    intro m hm c r delimiter
    exact takes_writeMember (h m hm) (ends_of_delimiter (delimiter.imp_right Or.inr) r)
  have starts : ∀ m ∈ ms, ∃ c r, writeMember m = c :: r ∧ isSpace c = false ∧ c ≠ '}' :=
    fun m _ => ⟨'"', _, rfl, by decide, by decide⟩
  obtain ⟨q, read, left⟩ := takes_bracketed (by decide) (by decide) starts elements rest
  rw [List.map_id] at read
  have text : write (.object ms) ++ rest =
      '{' :: ([','].intercalate (ms.map writeMember) ++ '}' :: rest) := by
    rw [write, writeMembers_eq, List.cons_append, List.cons_append, List.append_assoc]
    rfl
  have step : readCompound (readValue d)
      ('{' :: ([','].intercalate (ms.map writeMember) ++ '}' :: rest)) =
        some (ofMembers ms, q.behind '{') := by
    rw [readCompound, read]
    rfl
  rw [text]
  exact takes_afterSpace (halts_cons_iff.mpr (by decide)) ⟨_, step, left⟩

end

/-! ## What is readable is read back -/

/-- The values that can come from a text where arrays and objects may nest to a depth. -/
inductive Readable : Nat → Json → Prop
  | null {d : Nat} : Readable d .null
  | bool {d : Nat} (b : Bool) : Readable d (.bool b)
  | integer {d : Nat} {i : Int} (low : -0x8000000000000000 ≤ i) (high : i ≤ 0xFFFFFFFFFFFFFFFF) :
      Readable d (.integer i)
  | float {d : Nat} (x : Binary64.Finite) : Readable d (.float x)
  | string {d : Nat} (t : String) : Readable d (.string t)
  | array {d : Nat} {items : List Json} (h : ∀ v ∈ items, Readable d v) :
      Readable (d + 1) (.array items)
  | object {d : Nat} {ms : List (String × Json)} (sorted : Sorted ms)
      (h : ∀ m ∈ ms, Readable d m.2) : Readable (d + 1) (.object ms)

/-- A readable value is read back as itself. -/
theorem Readable.readsAs {d : Nat} {v : Json} (h : Readable d v) : ReadsAs d v v := by
  -- on the way a value can be read; in brackets the depth is one less
  induction h with
  | null =>
    intro rest ends
    rw [write]
    exact takes_value_of_scalar _ (by decide) ⟨_, rfl, rfl⟩
  | bool b =>
    intro rest ends
    cases b with
    | true =>
      rw [write]
      exact takes_value_of_scalar _ (by decide) ⟨_, rfl, rfl⟩
    | false =>
      rw [write]
      exact takes_value_of_scalar _ (by decide) ⟨_, rfl, rfl⟩
  | @integer d i low high =>
    intro rest ends
    rw [write]
    exact takes_value_of_number d (integer_start i) (takes_integer low high ends)
  | @float d x =>
    intro rest ends
    rw [write]
    exact takes_value_of_number d (float_start x) (takes_float x ends)
  | string t =>
    intro rest ends
    rw [write]
    exact takes_value_of_scalar _ (by decide) (takes_scalar_string t rest)
  | @array d items _ ih =>
    have same : ReadsAs (d + 1) (.array (items.map id)) (.array (items.map id)) :=
      readsAs_array ih
    rwa [List.map_id] at same
  | @object d ms sorted _ ih =>
    -- what is read back is gathered anew, which leaves sorted members as they are
    have read : ReadsAs (d + 1) (.object ms) (ofMembers ms) := readsAs_object ih
    rwa [ofMembers_sorted sorted] at read

/-- A text is read as a whole if its value leaves nothing. -/
theorem read?_of_takes {s : List Char} {v : Json} (h : Takes (readValue maxDepth) s v []) :
    read? s = some v := by
  obtain ⟨q, read, left⟩ := h
  have nothing : (skipSpace q.text).isEmpty = true := by
    rw [left]
    rfl
  simp only [read?, read, Option.bind_eq_bind, Option.bind_some, nothing, if_true]

theorem read?_of_readsAs {v w : Json} (h : ReadsAs maxDepth v w) : read? (write v) = some w := by
  have taken := h [] Text.halts_nil
  rw [List.append_nil] at taken
  exact read?_of_takes taken

/-! ## What is read is readable -/

/-- The reader can come to the value, on some text. -/
def Yields {α : Type} (piece : Reader α) (x : α) : Prop := ∃ s q, piece s = some (x, q)

section

variable {α : Type} {piece : Reader α} {close : Char} {s : List Char} {xs : List α} {x : α}
  {d : Nat} {v : Json}

theorem yields_afterSpace (h : Yields (afterSpace piece) x) : Yields piece x := by
  obtain ⟨s, q, read⟩ := h
  obtain ⟨⟨y, r⟩, piece, same⟩ := Option.map_eq_some_iff.mp read
  obtain rfl := (Prod.mk.inj same).1
  exact ⟨_, r, piece⟩

/-- The elements of a sequence come from the reader of its pieces. -/
theorem yields_of_sequence {q : Rest s} (h : readSequence piece close s = some (xs, q)) :
    ∀ x ∈ xs, Yields piece x := by
  -- along the sequence; of the ways in which it may break off none gives elements
  fun_induction readSequence piece close s generalizing xs with
  | case1 => exact nomatch h
  | case2 => exact nomatch h
  | case3 s x r read t token =>
    obtain rfl := (Prod.mk.inj (Option.some.inj h)).1
    intro y hy
    rw [List.mem_singleton.mp hy]
    exact ⟨s, r, read⟩
  | case4 s x r read t token _ ih =>
    obtain ⟨⟨ys, q'⟩, others, same⟩ := Option.map_eq_some_iff.mp h
    obtain rfl := (Prod.mk.inj same).1
    intro y hy
    rcases List.mem_cons.mp hy with rfl | hy
    · exact ⟨s, r, read⟩
    · exact ih others y hy
  | case5 => exact nomatch h

theorem yields_of_bracketed {q : Rest s} (h : readBracketed piece close s = some (xs, q)) :
    ∀ x ∈ xs, Yields piece x := by
  unfold readBracketed at h
  split at h
  · exact absurd h.symm (Option.some_ne_none _)
  · split at h
    · obtain rfl := (Prod.mk.inj (Option.some.inj h)).1
      exact fun x hx => absurd hx List.not_mem_nil
    · exact yields_of_sequence h

/-- The value of a member comes from the reader of values. -/
theorem yields_of_member {value : Reader Json} {m : String × Json}
    (h : Yields (readMember value) m) : Yields value m.2 := by
  obtain ⟨s, q, read⟩ := h
  simp only [readMember, Option.bind_eq_bind, Option.bind_eq_some_iff] at read
  obtain ⟨⟨key, r⟩, -, ⟨⟨⟩, t⟩, -, ⟨v, q'⟩, value, same⟩ := read
  obtain rfl := (Prod.mk.inj (Option.some.inj same)).1
  exact ⟨_, q', value⟩

/-! ### Scalars -/

theorem readable_ofInteger? {negative : Bool} {n : Nat} (h : ofInteger? negative n = some v) :
    Readable d v := by
  unfold ofInteger? at h
  extract_lets fits at h
  split at h
  · next fit =>
    obtain rfl := Option.some.inj h
    cases negative with
    | true =>
      have bound : n ≤ 0x8000000000000000 := of_decide_eq_true (Bool.and_eq_true_iff.mp fit).2
      exact .integer (by simp only [if_true]; omega) (by simp only [if_true]; omega)
    | false =>
      have bound : n ≤ 0xFFFFFFFFFFFFFFFF := of_decide_eq_true fit
      exact .integer (by simp only [Bool.false_eq_true, if_false]; omega)
        (by simp only [Bool.false_eq_true, if_false]; omega)
  · obtain ⟨x, -, rfl⟩ := Option.map_eq_some_iff.mp h
    exact .float x

theorem readable_ofNumeral? {n : Numeral} (h : ofNumeral? n = some v) : Readable d v := by
  obtain ⟨x, -, rfl⟩ := Option.map_eq_some_iff.mp h
  exact .float x

theorem readable_ofParts? {negative : Bool} {whole : List Char} {part : Option (List Char)}
    {power : Option Int} (h : ofParts? negative whole part power = some v) : Readable d v := by
  unfold ofParts? at h
  split at h
  · exact readable_ofInteger? h
  · exact readable_ofNumeral? h

theorem readable_unsigned {negative : Bool} (h : Yields (readUnsigned negative) v) :
    Readable d v := by
  obtain ⟨s, q, read⟩ := h
  simp only [readUnsigned, Option.bind_eq_bind, Option.bind_eq_some_iff] at read
  obtain ⟨⟨whole, r⟩, -, ⟨part, f⟩, -, ⟨power, e⟩, -, w, value, same⟩ := read
  obtain rfl := (Prod.mk.inj (Option.some.inj same)).1
  exact readable_ofParts? value

theorem readable_number (h : Yields readNumber v) : Readable d v := by
  obtain ⟨s, q, read⟩ := h
  unfold readNumber at read
  split at read
  · obtain ⟨⟨w, r⟩, unsigned, same⟩ := Option.map_eq_some_iff.mp read
    obtain rfl := (Prod.mk.inj same).1
    exact readable_unsigned ⟨_, r, unsigned⟩
  · exact readable_unsigned ⟨_, q, read⟩

theorem readable_scalar (h : Yields readScalar v) : Readable d v := by
  obtain ⟨s, q, read⟩ := h
  unfold readScalar at read
  split at read
  · obtain rfl := (Prod.mk.inj (Option.some.inj read)).1
    exact .null
  · obtain rfl := (Prod.mk.inj (Option.some.inj read)).1
    exact .bool true
  · obtain rfl := (Prod.mk.inj (Option.some.inj read)).1
    exact .bool false
  · obtain ⟨⟨t, r⟩, -, same⟩ := Option.map_eq_some_iff.mp read
    obtain rfl := (Prod.mk.inj same).1
    exact .string t
  · exact readable_number ⟨_, q, read⟩

/-! ### Values -/

/-- What is gathered has sorted keys, and its values are among those that were read. -/
theorem readable_ofMembers {ms : List (String × Json)} (h : ∀ m ∈ ms, Readable d m.2) :
    Readable (d + 1) (ofMembers ms) := by
  refine .object (sorted_gathered List.Pairwise.nil ms) ?_
  intro m hm
  rcases mem_gathered hm with hm | hm
  · exact nomatch hm
  · exact h m hm

theorem readable_value (h : Yields (readValue d) v) : Readable d v := by
  -- on the depth, which goes down where brackets are opened
  induction d generalizing v with
  | zero => exact readable_scalar (yields_afterSpace h)
  | succ d ih =>
    obtain ⟨s, q, read⟩ := yields_afterSpace h
    unfold readCompound at read
    split at read
    · obtain ⟨⟨vs, r⟩, bracketed, same⟩ := Option.map_eq_some_iff.mp read
      obtain rfl := (Prod.mk.inj same).1
      exact .array fun w hw => ih (yields_of_bracketed bracketed w hw)
    · obtain ⟨⟨ms, r⟩, bracketed, same⟩ := Option.map_eq_some_iff.mp read
      obtain rfl := (Prod.mk.inj same).1
      exact readable_ofMembers fun m hm =>
        ih (yields_of_member (yields_of_bracketed bracketed m hm))
    · exact readable_scalar ⟨_, q, read⟩

theorem readable_of_read? (h : read? s = some v) : Readable maxDepth v := by
  simp only [read?, Option.bind_eq_bind, Option.bind_eq_some_iff] at h
  obtain ⟨⟨w, r⟩, read, same⟩ := h
  split at same
  · obtain rfl := Option.some.inj same
    exact readable_value ⟨s, r, read⟩
  · exact nomatch same

end

/-- A value can be read from some text if and only if it can be read from its own. -/
theorem read?_write_iff {v : Json} : read? (write v) = some v ↔ Readable maxDepth v := by
  constructor
  · exact readable_of_read?
  · intro h
    exact read?_of_readsAs h.readsAs

/-- What may nest to some depth may nest deeper. -/
theorem Readable.mono {d e : Nat} {v : Json} (h : Readable d v) (deeper : d ≤ e) :
    Readable e v := by
  induction h generalizing e with
  | null => exact .null
  | bool b => exact .bool b
  | integer low high => exact .integer low high
  | float x => exact .float x
  | string t => exact .string t
  | @array d items _ ih =>
    obtain ⟨e, rfl⟩ := Nat.exists_eq_add_of_le' deeper
    exact .array fun v hv => ih v hv (Nat.le_add_left d e)
  | @object d ms sorted _ ih =>
    obtain ⟨e, rfl⟩ := Nat.exists_eq_add_of_le' deeper
    exact .object sorted fun m hm => ih m hm (Nat.le_add_left d e)

/-- Values that can be read have different texts, however deep they nest. -/
theorem Readable.eq_of_write_eq {d e : Nat} {v w : Json} (hv : Readable d v) (hw : Readable e w)
    (same : write v = write w) : v = w := by
  -- at a depth where both can be read, one text is read as both
  have first := (hv.mono (Nat.le_max_left d e)).readsAs [] Text.halts_nil
  have second := (hw.mono (Nat.le_max_right d e)).readsAs [] Text.halts_nil
  rw [same] at first
  obtain ⟨q, read, -⟩ := first
  obtain ⟨q', read', -⟩ := second
  exact (Prod.mk.inj (Option.some.inj (read.symm.trans read'))).1

/-- So do values that can be read from whole texts. -/
theorem eq_of_write_eq {v w : Json} (hv : Readable maxDepth v) (hw : Readable maxDepth w)
    (same : write v = write w) : v = w := hv.eq_of_write_eq hw same

end ODataGateway.Json
