/-
# ODataGateway.Proofs.Text.Utf8 — the strict reading is the inverse of writing characters as bytes.

`Sequence` lists the well-formed sequences of one to four bytes with the code points that they
stand for.  They are what the reading finds at the front of some bytes (`leading_of_sequence`,
`sequence_of_leading`), and what the characters are written as (`utf8EncodeChar_of_sequence`,
`sequence_utf8EncodeChar`).
-/
import ODataGateway.Text.Bytes

namespace ODataGateway.Text

/-! ## Well-formed sequences -/

/-- The bytes are well formed and stand for the code point. -/
inductive Sequence : List UInt8 → Nat → Prop
  | one {a : UInt8} (ha : a.toNat < 0x80) : Sequence [a] a.toNat
  | two {a b : UInt8} (ha : 0xC2 ≤ a.toNat ∧ a.toNat < 0xE0) (hb : maySecond a b = true) :
      Sequence [a, b] (a.toNat % 32 * 64 + sixBits b)
  | three {a b c : UInt8} (ha : 0xE0 ≤ a.toNat ∧ a.toNat < 0xF0) (hb : maySecond a b = true)
      (hc : isContinuation c = true) :
      Sequence [a, b, c] ((a.toNat % 16 * 64 + sixBits b) * 64 + sixBits c)
  | four {a b c d : UInt8} (ha : 0xF0 ≤ a.toNat ∧ a.toNat < 0xF5) (hb : maySecond a b = true)
      (hc : isContinuation c = true) (hd : isContinuation d = true) :
      Sequence [a, b, c, d] (((a.toNat % 8 * 64 + sixBits b) * 64 + sixBits c) * 64 + sixBits d)

/-! ## Bytes after the first -/

theorem isContinuation_iff {b : UInt8} :
    isContinuation b = true ↔ 0x80 ≤ b.toNat ∧ b.toNat < 0xC0 := by
  simp [isContinuation, UInt8.le_iff_toNat_le, UInt8.lt_iff_toNat_lt]

/-- A second byte continues a character, and after four of the first bytes less will do. -/
theorem maySecond_iff {a b : UInt8} :
    maySecond a b = true ↔ (0x80 ≤ b.toNat ∧ b.toNat < 0xC0) ∧
      (a.toNat = 0xE0 → 0xA0 ≤ b.toNat) ∧ (a.toNat = 0xED → b.toNat < 0xA0) ∧
      (a.toNat = 0xF0 → 0x90 ≤ b.toNat) ∧ (a.toNat = 0xF4 → b.toNat < 0x90) := by
  simp only [maySecond, secondRange, ← UInt8.toNat_inj, Bool.and_eq_true, decide_eq_true_eq,
    UInt8.le_iff_toNat_le, UInt8.reduceToNat]
  (repeat' split) <;> simp <;> omega

/-- The low six bits of a byte that continues a character are all that it says. -/
theorem sixBits_add {b : UInt8} (h : 0x80 ≤ b.toNat ∧ b.toNat < 0xC0) :
    sixBits b + 0x80 = b.toNat ∧ sixBits b < 64 := by
  unfold sixBits
  omega

/-! ## Code points -/

/-- The code point of a well-formed sequence is that of a character. -/
theorem isValidChar_of_sequence {s : List UInt8} {v : Nat} (h : Sequence s v) : v.isValidChar := by
  unfold Nat.isValidChar
  cases h with
  | one ha => omega
  | @two a b ha hb =>
    obtain ⟨hb, -⟩ := maySecond_iff.mp hb
    have := sixBits_add hb
    omega
  | @three a b c ha hb hc =>
    obtain ⟨hb, -, surrogate, -⟩ := maySecond_iff.mp hb
    have := sixBits_add hb
    have := sixBits_add (isContinuation_iff.mp hc)
    omega
  | @four a b c d ha hb hc hd =>
    obtain ⟨hb, -, -, overlong, beyond⟩ := maySecond_iff.mp hb
    have := sixBits_add hb
    have := sixBits_add (isContinuation_iff.mp hc)
    have := sixBits_add (isContinuation_iff.mp hd)
    omega

theorem toNat_charOf {v : Nat} (valid : v.isValidChar) : (charOf v).val.toNat = v := by
  rw [charOf, Char.ofNat, dif_pos valid]
  rfl

/-! ## Writing -/

/-- The character of a well-formed sequence is written as this sequence. -/
theorem utf8EncodeChar_of_sequence {s : List UInt8} {v : Nat} (h : Sequence s v) :
    String.utf8EncodeChar (charOf v) = s := by
  have hv : (charOf v).val.toNat = v := toNat_charOf (isValidChar_of_sequence h)
  simp only [String.utf8EncodeChar, hv]
  cases h with
  | one ha =>
    rw [if_pos (by omega), UInt8.ofNat_toNat]
  | @two a b ha hb =>
    obtain ⟨hb, -⟩ := maySecond_iff.mp hb
    have := sixBits_add hb
    rw [if_neg (by omega), if_pos (by omega)]
    simp only [List.cons.injEq, ← UInt8.toNat_inj, UInt8.toNat_ofNat', and_true]
    omega
  | @three a b c ha hb hc =>
    obtain ⟨hb, overlong, -⟩ := maySecond_iff.mp hb
    have := sixBits_add hb
    have := sixBits_add (isContinuation_iff.mp hc)
    rw [if_neg (by omega), if_neg (by omega), if_pos (by omega)]
    simp only [List.cons.injEq, ← UInt8.toNat_inj, UInt8.toNat_ofNat', and_true]
    omega
  | @four a b c d ha hb hc hd =>
    obtain ⟨hb, -, -, overlong, -⟩ := maySecond_iff.mp hb
    have := sixBits_add hb
    have := sixBits_add (isContinuation_iff.mp hc)
    have := sixBits_add (isContinuation_iff.mp hd)
    rw [if_neg (by omega), if_neg (by omega), if_neg (by omega)]
    simp only [List.cons.injEq, ← UInt8.toNat_inj, UInt8.toNat_ofNat', and_true]
    omega

/-- Every character has a well-formed sequence. -/
theorem exists_sequence {v : Nat} (valid : v.isValidChar) : ∃ s, Sequence s v := by
  have byte : ∀ n < 0x100, ∃ a : UInt8, a.toNat = n := fun n h =>
    ⟨UInt8.ofNat n, UInt8.toNat_ofNat_of_lt' h⟩
  unfold Nat.isValidChar at valid
  by_cases h₁ : v < 0x80
  · obtain ⟨a, rfl⟩ := byte v (by omega)
    exact ⟨_, .one h₁⟩
  -- the low bits go into the last byte, however many bytes there are before it
  obtain ⟨z, hz⟩ := byte (v % 64 + 0x80) (by omega)
  have lastContinues : isContinuation z = true := isContinuation_iff.mpr (by omega)
  by_cases h₂ : v < 0x800
  · obtain ⟨a, ha⟩ := byte (v / 64 + 0xC0) (by omega)
    have h : Sequence [a, z] _ := .two (by omega) (maySecond_iff.mpr (by omega))
    have hv : a.toNat % 32 * 64 + sixBits z = v := by unfold sixBits; omega
    exact ⟨_, hv ▸ h⟩
  obtain ⟨y, hy⟩ := byte (v / 64 % 64 + 0x80) (by omega)
  by_cases h₃ : v < 0x10000
  · obtain ⟨a, ha⟩ := byte (v / 4096 + 0xE0) (by omega)
    have h : Sequence [a, y, z] _ :=
      .three (by omega) (maySecond_iff.mpr (by omega)) lastContinues
    have hv : (a.toNat % 16 * 64 + sixBits y) * 64 + sixBits z = v := by unfold sixBits; omega
    exact ⟨_, hv ▸ h⟩
  obtain ⟨x, hx⟩ := byte (v / 4096 % 64 + 0x80) (by omega)
  obtain ⟨a, ha⟩ := byte (v / 262144 + 0xF0) (by omega)
  have h : Sequence [a, x, y, z] _ :=
    .four (by omega) (maySecond_iff.mpr (by omega)) (isContinuation_iff.mpr (by omega))
      lastContinues
  have hv : ((a.toNat % 8 * 64 + sixBits x) * 64 + sixBits y) * 64 + sixBits z = v := by
    unfold sixBits
    omega
  exact ⟨_, hv ▸ h⟩

/-! ## Reading -/

/-- What the reading finds at the front is the character of a well-formed sequence. -/
theorem leading_of_sequence {a : UInt8} {tail : List UInt8} {v : Nat} (h : Sequence (a :: tail) v)
    (rest : List UInt8) : leading a (tail ++ rest) = .char (charOf v) (tail.length + 1) := by
  simp only [leading, UInt8.lt_iff_toNat_lt, UInt8.le_iff_toNat_le, UInt8.reduceToNat,
    Bool.and_eq_true, decide_eq_true_eq]
  cases h with
  | one ha => rw [if_pos (by omega)]; rfl
  | two ha hb =>
    rw [if_neg (by omega), if_pos (by omega)]
    simp [hb]
  | three ha hb hc =>
    rw [if_neg (by omega), if_neg (by omega), if_pos (by omega)]
    simp [hb, hc]
  | four ha hb hc hd =>
    rw [if_neg (by omega), if_neg (by omega), if_neg (by omega), if_pos (by omega)]
    simp [hb, hc, hd]

/-- A character is found at the front only of a well-formed sequence. -/
theorem sequence_of_leading {a : UInt8} {rest : List UInt8} {x : Char} {n : Nat}
    (h : leading a rest = .char x n) :
    ∃ tail rest' v, rest = tail ++ rest' ∧ n = tail.length + 1 ∧ Sequence (a :: tail) v ∧
      x = charOf v := by
  simp only [leading, UInt8.lt_iff_toNat_lt, UInt8.le_iff_toNat_le, UInt8.reduceToNat,
    Bool.and_eq_true, Bool.not_eq_true', decide_eq_true_eq] at h
  split at h
  · next ha =>
    obtain ⟨rfl, rfl⟩ := Leading.char.inj h
    exact ⟨[], rest, _, rfl, rfl, .one ha, rfl⟩
  split at h
  · next ha =>
    split at h
    · next b rest' =>
      split at h
      · next hb =>
        obtain ⟨rfl, rfl⟩ := Leading.char.inj h
        exact ⟨[b], rest', _, rfl, rfl, .two ha hb, rfl⟩
      · exact nomatch h
    · exact nomatch h
  split at h
  · next ha =>
    split at h
    · next b c rest' =>
      split at h
      · exact nomatch h
      split at h
      · exact nomatch h
      · next hb hc =>
        rw [Bool.not_eq_false] at hb hc
        obtain ⟨rfl, rfl⟩ := Leading.char.inj h
        exact ⟨[b, c], rest', _, rfl, rfl, .three ha hb hc, rfl⟩
    · exact nomatch h
    · exact nomatch h
  split at h
  · next ha =>
    split at h
    · next b c d rest' =>
      split at h
      · exact nomatch h
      split at h
      · exact nomatch h
      split at h
      · exact nomatch h
      · next hb hc hd =>
        rw [Bool.not_eq_false] at hb hc hd
        obtain ⟨rfl, rfl⟩ := Leading.char.inj h
        exact ⟨[b, c, d], rest', _, rfl, rfl, .four ha hb hc hd, rfl⟩
    · exact nomatch h
    · exact nomatch h
    · exact nomatch h
  · exact nomatch h

/-! ## Texts -/

/-- The sequence of a character, as the character is written. -/
theorem sequence_utf8EncodeChar (c : Char) : Sequence (String.utf8EncodeChar c) c.toNat := by
  obtain ⟨s, h⟩ := exists_sequence c.valid
  have hc : charOf c.toNat = c := Char.ofNat_toNat c
  have hs : String.utf8EncodeChar c = s := by
    rw [← hc]
    exact utf8EncodeChar_of_sequence h
  exact hs ▸ h

theorem decode?_of_sequence {s rest : List UInt8} {v : Nat} (h : Sequence s v) :
    decode? (s ++ rest) = (decode? rest).map (charOf v :: ·) := by
  cases hs : s with
  | nil => rw [hs] at h; exact nomatch h
  | cons a tail =>
    rw [hs] at h
    rw [List.cons_append, decode?, leading_of_sequence h]
    simp

/-- Characters that were written are read again. -/
theorem decode?_flatMap (cs : List Char) :
    decode? (cs.flatMap String.utf8EncodeChar) = some cs := by
  induction cs with
  | nil => rw [List.flatMap_nil, decode?]
  | cons c cs ih =>
    rw [List.flatMap_cons, decode?_of_sequence (sequence_utf8EncodeChar c), ih]
    show some (Char.ofNat c.toNat :: cs) = _
    rw [Char.ofNat_toNat]

/-- Nothing is read but what would be written. -/
theorem flatMap_of_decode? {bs : List UInt8} {cs : List Char} (h : decode? bs = some cs) :
    cs.flatMap String.utf8EncodeChar = bs := by
  -- along the reading: a character and what comes after it, or nothing at all
  fun_induction decode? bs generalizing cs with
  | case1 =>
    obtain rfl := Option.some.inj h
    rfl
  | case2 a rest c n found ih =>
    obtain ⟨tail, rest', v, rfl, rfl, sequence, rfl⟩ := sequence_of_leading found
    rw [Nat.add_sub_cancel, List.drop_left] at h ih
    obtain ⟨cs', hcs', rfl⟩ := Option.map_eq_some_iff.mp h
    rw [List.flatMap_cons, utf8EncodeChar_of_sequence sequence, ih hcs']
    rfl
  | case3 => exact nomatch h

/-- Bytes are read as characters exactly when they are how the characters are written. -/
theorem decode?_eq_some_iff {bs : List UInt8} {cs : List Char} :
    decode? bs = some cs ↔ bs = cs.flatMap String.utf8EncodeChar := by
  constructor
  · intro h
    exact (flatMap_of_decode? h).symm
  · rintro rfl
    exact decode?_flatMap cs

/-- Neither a longer form of a character nor half of a pair is anything that was written. -/
example : decode? [0xC0, 0x80] = none ∧ decode? [0xED, 0xA0, 0x80] = none := by decide +kernel

/-- No two strings are written alike. -/
theorem utf8_inj {s t : String} : utf8 s = utf8 t ↔ s = t := by
  constructor
  · intro h
    have hs := decode?_flatMap s.toList
    rw [← utf8, h, utf8, decode?_flatMap] at hs
    exact (String.toList_inj.mp (Option.some.inj hs)).symm
  · rintro rfl
    rfl

end ODataGateway.Text
