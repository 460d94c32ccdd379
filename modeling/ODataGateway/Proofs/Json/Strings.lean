/-
# ODataGateway.Proofs.Json.Strings — quoted strings are read back.

A string is written character by character, and each character is read back from what is written
for it, be it the character itself, a short escape or an escape by number (`takes_char_escape`).
So the string is, whatever follows its closing quotation mark (`takes_string_quote`).
-/
import ODataGateway.Json.Basic
import ODataGateway.Proofs.Json.Taking

namespace ODataGateway.Json

section

variable {s r rest : List Char} {c : Char}

/-! ## Escapes by number -/

/-- The digit of a value is read as the value. -/
theorem hexValue?_hexDigit {n : Nat} (h : n < 16) : hexValue? (hexDigit n) = some n := by
  have all : ∀ n < 16, hexValue? (hexDigit n) = some n := by decide
  exact all n h

/-- Two digits after two noughts are read as a number below 256. -/
theorem takes_hex4 {n : Nat} (h : n < 256) (r : List Char) :
    Takes readHex4 ('0' :: '0' :: hexDigit (n / 16) :: hexDigit (n % 16) :: r) n r := by
  have nought : hexValue? '0' = some 0 := by decide
  have lower : hexValue? (hexDigit (n / 16)) = some (n / 16) := hexValue?_hexDigit (by omega)
  have low : hexValue? (hexDigit (n % 16)) = some (n % 16) := hexValue?_hexDigit (by omega)
  have whole : ((0 * 16 + 0) * 16 + n / 16) * 16 + n % 16 = n := by omega
  unfold Takes
  simp only [readHex4, nought, lower, low, Option.bind_eq_bind, Option.bind_some, whole]
  exact ⟨_, rfl, rfl⟩

/-- A number below 256 is no half of a surrogate pair. -/
theorem takes_codePoint {n : Nat} (small : n < 256) (h : Takes readHex4 s n r) :
    Takes readCodePoint s (Char.ofNat n) r := by
  obtain ⟨q, read, rfl⟩ := h
  have notHigh : ¬ (0xD800 ≤ n && n < 0xDC00) = true := by
    simp only [Bool.and_eq_true, decide_eq_true_eq]
    omega
  have notLow : ¬ (0xDC00 ≤ n && n < 0xE000) = true := by
    simp only [Bool.and_eq_true, decide_eq_true_eq]
    omega
  unfold Takes
  simp only [readCodePoint, read, Option.bind_eq_bind, Option.bind_some, if_neg notHigh,
    if_neg notLow]
  exact ⟨_, rfl, rfl⟩

/-! ## Characters -/

theorem takes_escape_u (h : Takes readCodePoint s c r) : Takes readEscape ('u' :: s) c r := by
  obtain ⟨q, read, rfl⟩ := h
  unfold Takes
  rw [readEscape, read]
  exact ⟨_, rfl, rfl⟩

theorem takes_char_backslash (h : Takes readEscape s c r) : Takes readChar ('\\' :: s) c r := by
  obtain ⟨q, read, rfl⟩ := h
  unfold Takes
  rw [readChar, read]
  exact ⟨_, rfl, rfl⟩

/-- A character that is not escaped stands for itself. -/
theorem takes_char_self (quote : c ≠ '"') (backslash : c ≠ '\\') (printing : ¬ c.toNat < 0x20)
    (r : List Char) : Takes readChar (c :: r) c r := by
  have read : readChar (c :: r) = some (c, .tail c r) := by
    rw [readChar, if_neg printing]
    · exact backslash
    · exact quote
  exact ⟨_, read, rfl⟩

/-- Every character is read back from what is written for it. -/
theorem takes_char_escape (c : Char) (rest : List Char) :
    Takes readChar (escapeChar c ++ rest) c rest := by
  unfold escapeChar
  split
  · exact ⟨_, rfl, rfl⟩
  · exact ⟨_, rfl, rfl⟩
  · exact ⟨_, rfl, rfl⟩
  · exact ⟨_, rfl, rfl⟩
  · exact ⟨_, rfl, rfl⟩
  · exact ⟨_, rfl, rfl⟩
  · exact ⟨_, rfl, rfl⟩
  · next quote backslash _ _ _ _ _ =>
    split
    · next control =>
      have number : Takes readCodePoint
          ('0' :: '0' :: hexDigit (c.toNat / 16) :: hexDigit (c.toNat % 16) :: rest) c rest := by
        have read := takes_codePoint (by omega) (takes_hex4 (n := c.toNat) (by omega) rest)
        rwa [Char.ofNat_toNat] at read
      exact takes_char_backslash (takes_escape_u number)
    · next printing => exact takes_char_self quote backslash printing rest

/-! ## Strings -/

theorem takes_chars_nil (rest : List Char) : Takes readChars ('"' :: rest) [] rest := by
  unfold Takes
  rw [readChars]
  exact ⟨_, rfl, rfl⟩

/-- A character is taken before the others; it is not the closing mark, since that is no
character. -/
theorem takes_chars_cons {cs : List Char} (hc : Takes readChar s c r)
    (hcs : Takes readChars r cs rest) : Takes readChars s (c :: cs) rest := by
  obtain ⟨q, read, rfl⟩ := hc
  obtain ⟨q', readRest, rfl⟩ := hcs
  unfold Takes
  rw [readChars.eq_def]
  split
  · exact absurd read.symm (Option.some_ne_none _)
  · simp only [read, readRest]
    exact ⟨_, rfl, rfl⟩

theorem takes_chars_escape (cs rest : List Char) :
    Takes readChars (cs.flatMap escapeChar ++ '"' :: rest) cs rest := by
  induction cs with
  | nil => exact takes_chars_nil rest
  | cons c cs ih =>
    rw [List.flatMap_cons, List.append_assoc]
    exact takes_chars_cons (takes_char_escape c _) ih

/-- A string is read back from its quoted form. -/
theorem takes_string_quote (t : String) (rest : List Char) :
    Takes readString (quote t ++ rest) t rest := by
  obtain ⟨q, read, left⟩ := takes_chars_escape t.toList rest
  have same : quote t ++ rest = '"' :: (t.toList.flatMap escapeChar ++ '"' :: rest) := by
    rw [quote, List.cons_append, List.cons_append, List.append_assoc]
    rfl
  rw [same]
  unfold Takes
  rw [readString, read]
  refine ⟨q.behind '"', ?_, left⟩
  show some (String.ofList t.toList, q.behind '"') = _
  rw [String.ofList_toList]

end

end ODataGateway.Json
