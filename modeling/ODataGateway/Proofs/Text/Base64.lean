/-
# ODataGateway.Proofs.Text.Base64 — reading base64 text is the inverse of writing it.

The digits and the values below sixty-four stand for each other.  So do groups of four digits and
of three bytes, and by induction over the groups a text is read as some bytes exactly when it is
how those bytes are written (`decode?_eq_some_iff`).
-/
import ODataGateway.Text.Bytes
import ODataGateway.Text.Basic

namespace ODataGateway.Text.Base64

/-! ## Digits -/

/-- The digits of all values, one by one. -/
theorem value?_digit {n : Nat} (h : n < 64) : value? (digit n) = some n := by
  have all : ∀ n < 64, value? (digit n) = some n := by decide +kernel
  exact all n h

/-- A digit is that of its value. -/
theorem value?_eq_some_iff {c : Char} {n : Nat} : value? c = some n ↔ n < 64 ∧ digit n = c := by
  constructor
  · intro h
    obtain ⟨hn, hc, -⟩ := List.findIdx?_eq_some_iff_getElem.mp h
    refine ⟨hn, ?_⟩
    rw [digit, List.getD_eq_getElem?_getD, List.getElem?_eq_getElem hn]
    exact beq_iff_eq.mp hc
  · rintro ⟨hn, rfl⟩
    exact value?_digit hn

/-- No digit is the padding. -/
theorem digit_ne_padding {n : Nat} (h : n < 64) : digit n ≠ '=' := by
  have all : ∀ n < 64, digit n ≠ '=' := by decide +kernel
  exact all n h

/-- No digit is a blank. -/
theorem isBlank_digit {n : Nat} (h : n < 64) : isBlank (digit n) = false := by
  have all : ∀ n < 64, isBlank (digit n) = false := by decide +kernel
  exact all n h

/-! ## Bytes -/

theorem ofNat_eq {a : UInt8} {n : Nat} (h : n = a.toNat) : UInt8.ofNat n = a := by
  rw [h, UInt8.ofNat_toNat]

/-! ## Groups

What a group of two, three or four digits is read as, and how the bytes of such a group are
written.  The bits that a group with padding leaves over must be zero. -/

section

variable {x y z w : Nat} {t : List Char} {bs : List UInt8}

theorem decode?_two (hx : x < 64) (hy : y < 64) (left : y % 16 = 0) :
    decode? [digit x, digit y, '=', '='] = some [UInt8.ofNat (x * 4 + y / 16)] := by
  rw [decode?, value?_digit hx, value?_digit hy]
  simp only [bind, Option.bind_some, left, if_true]

theorem decode?_three (hx : x < 64) (hy : y < 64) (hz : z < 64) (left : z % 4 = 0) :
    decode? [digit x, digit y, digit z, '='] =
      some [UInt8.ofNat (x * 4 + y / 16), UInt8.ofNat (y % 16 * 16 + z / 4)] := by
  rw [decode?, value?_digit hx, value?_digit hy, value?_digit hz]
  · simp only [bind, Option.bind_some, left, if_true]
  · exact digit_ne_padding hz

theorem decode?_four (hx : x < 64) (hy : y < 64) (hz : z < 64) (hw : w < 64)
    (ht : decode? t = some bs) :
    decode? (digit x :: digit y :: digit z :: digit w :: t) =
      some (UInt8.ofNat (x * 4 + y / 16) :: UInt8.ofNat (y % 16 * 16 + z / 4) ::
        UInt8.ofNat (z % 4 * 64 + w) :: bs) := by
  have unpadded : digit w ≠ '=' := digit_ne_padding hw
  rw [decode?, value?_digit hx, value?_digit hy, value?_digit hz, value?_digit hw, ht]
  · rfl
  · exact fun _ padded _ => unpadded padded
  · exact fun padded _ => unpadded padded

theorem encode_two (hx : x < 64) (hy : y < 64) (left : y % 16 = 0) :
    encode [UInt8.ofNat (x * 4 + y / 16)] = [digit x, digit y, '=', '='] := by
  rw [encode, UInt8.toNat_ofNat_of_lt' (show x * 4 + y / 16 < 256 by omega)]
  have hx' : (x * 4 + y / 16) / 4 = x := by omega
  have hy' : (x * 4 + y / 16) % 4 * 16 = y := by omega
  rw [hx', hy']

theorem encode_three (hx : x < 64) (hy : y < 64) (hz : z < 64) (left : z % 4 = 0) :
    encode [UInt8.ofNat (x * 4 + y / 16), UInt8.ofNat (y % 16 * 16 + z / 4)] =
      [digit x, digit y, digit z, '='] := by
  rw [encode, UInt8.toNat_ofNat_of_lt' (show x * 4 + y / 16 < 256 by omega),
    UInt8.toNat_ofNat_of_lt' (show y % 16 * 16 + z / 4 < 256 by omega)]
  have hx' : (x * 4 + y / 16) / 4 = x := by omega
  have hy' : (x * 4 + y / 16) % 4 * 16 + (y % 16 * 16 + z / 4) / 16 = y := by omega
  have hz' : (y % 16 * 16 + z / 4) % 16 * 4 = z := by omega
  rw [hx', hy', hz']

theorem encode_four (hx : x < 64) (hy : y < 64) (hz : z < 64) (hw : w < 64) :
    encode (UInt8.ofNat (x * 4 + y / 16) :: UInt8.ofNat (y % 16 * 16 + z / 4) ::
        UInt8.ofNat (z % 4 * 64 + w) :: bs) =
      digit x :: digit y :: digit z :: digit w :: encode bs := by
  rw [encode, UInt8.toNat_ofNat_of_lt' (show x * 4 + y / 16 < 256 by omega),
    UInt8.toNat_ofNat_of_lt' (show y % 16 * 16 + z / 4 < 256 by omega),
    UInt8.toNat_ofNat_of_lt' (show z % 4 * 64 + w < 256 by omega)]
  have hx' : (x * 4 + y / 16) / 4 = x := by omega
  have hy' : (x * 4 + y / 16) % 4 * 16 + (y % 16 * 16 + z / 4) / 16 = y := by omega
  have hz' : (y % 16 * 16 + z / 4) % 16 * 4 + (z % 4 * 64 + w) / 64 = z := by omega
  have hw' : (z % 4 * 64 + w) % 64 = w := by omega
  rw [hx', hy', hz', hw']

end

/-! ## Texts -/

/-- What was written is read again. -/
theorem decode?_encode (bs : List UInt8) : decode? (encode bs) = some bs := by
  fun_induction encode bs with
  | case1 => rfl
  | case2 a =>
    have ha : a.toNat < 256 := a.toNat_lt
    rw [decode?_two (by omega) (by omega) (by omega), ofNat_eq (a := a) (by omega)]
  | case3 a b =>
    have ha : a.toNat < 256 := a.toNat_lt
    have hb : b.toNat < 256 := b.toNat_lt
    rw [decode?_three (by omega) (by omega) (by omega) (by omega), ofNat_eq (a := a) (by omega),
      ofNat_eq (a := b) (by omega)]
  | case4 a b c rest ih =>
    have ha : a.toNat < 256 := a.toNat_lt
    have hb : b.toNat < 256 := b.toNat_lt
    have hc : c.toNat < 256 := c.toNat_lt
    rw [decode?_four (by omega) (by omega) (by omega) (by omega) ih, ofNat_eq (a := a) (by omega),
      ofNat_eq (a := b) (by omega), ofNat_eq (a := c) (by omega)]

/-- Nothing is read but what would be written. -/
theorem encode_of_decode? {t : List Char} {bs : List UInt8} (h : decode? t = some bs) :
    encode bs = t := by
  fun_induction decode? t generalizing bs with
  | case1 =>
    obtain rfl := Option.some.inj h
    rfl
  | case2 a b =>
    simp only [bind, Option.bind_eq_some_iff, Option.ite_none_right_eq_some,
      value?_eq_some_iff] at h
    obtain ⟨x, ⟨hx, rfl⟩, y, ⟨hy, rfl⟩, left, hbs⟩ := h
    rw [← Option.some.inj hbs, encode_two hx hy left]
  | case3 a b c =>
    simp only [bind, Option.bind_eq_some_iff, Option.ite_none_right_eq_some,
      value?_eq_some_iff] at h
    obtain ⟨x, ⟨hx, rfl⟩, y, ⟨hy, rfl⟩, z, ⟨hz, rfl⟩, left, hbs⟩ := h
    rw [← Option.some.inj hbs, encode_three hx hy hz left]
  | case4 a b c d rest _ _ ih =>
    simp only [bind, Option.bind_eq_some_iff, value?_eq_some_iff] at h
    obtain ⟨x, ⟨hx, rfl⟩, y, ⟨hy, rfl⟩, z, ⟨hz, rfl⟩, w, ⟨hw, rfl⟩, bytes, hrest, hbs⟩ := h
    rw [← Option.some.inj hbs, encode_four hx hy hz hw, ih hrest]
  | case5 => exact nomatch h

/-- A text is read as bytes exactly when it is how those bytes are written. -/
theorem decode?_eq_some_iff {t : List Char} {bs : List UInt8} :
    decode? t = some bs ↔ t = encode bs := by
  constructor
  · intro h
    exact (encode_of_decode? h).symm
  · rintro rfl
    exact decode?_encode bs

/-- Bits left over, and padding that is missing. -/
example : decode? "dR==".toList = none ∧ decode? "dQ=".toList = none := by decide +kernel

/-- Something is written for every byte. -/
theorem encode_ne_nil {bs : List UInt8} (h : bs ≠ []) : encode bs ≠ [] := by
  intro empty
  have read : decode? [] = some bs := decode?_eq_some_iff.mpr empty.symm
  exact h (Option.some.inj read).symm

/-- There is no blank in what is written. -/
theorem isBlank_of_mem_encode {bs : List UInt8} : ∀ c ∈ encode bs, isBlank c = false := by
  have padding : isBlank '=' = false := by decide
  fun_induction encode bs with
  | case1 => exact nofun
  | case2 a =>
    have ha : a.toNat < 256 := a.toNat_lt
    simp only [List.forall_mem_cons, padding, true_and]
    exact ⟨isBlank_digit (by omega), isBlank_digit (by omega), nofun⟩
  | case3 a b =>
    have ha : a.toNat < 256 := a.toNat_lt
    have hb : b.toNat < 256 := b.toNat_lt
    simp only [List.forall_mem_cons, padding, true_and]
    exact ⟨isBlank_digit (by omega), isBlank_digit (by omega), isBlank_digit (by omega), nofun⟩
  | case4 a b c rest ih =>
    have ha : a.toNat < 256 := a.toNat_lt
    have hb : b.toNat < 256 := b.toNat_lt
    have hc : c.toNat < 256 := c.toNat_lt
    simp only [List.forall_mem_cons]
    exact ⟨isBlank_digit (by omega), isBlank_digit (by omega), isBlank_digit (by omega),
      isBlank_digit (by omega), ih⟩

end ODataGateway.Text.Base64
