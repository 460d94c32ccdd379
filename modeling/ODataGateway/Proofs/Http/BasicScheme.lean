/-
# ODataGateway.Proofs.Http.BasicScheme — which header values carry which credentials.

The guarded comparison of bytes is equality (`Text.sameBytes_iff`), and what `ofBasic?` takes out
of a header value is what was put into it (`ofBasic?_eq_some_iff`).  So a header value passes for
the expected credentials when it is theirs, up to the case of the scheme and blanks, and no value
passes for a user name with a colon.
-/
import Mathlib.Data.Nat.Bitwise
import ODataGateway.Http.Credentials
import ODataGateway.Proofs.Text.Base64
import ODataGateway.Proofs.Text.Runs
import ODataGateway.Proofs.Text.Utf8

namespace ODataGateway

/-! ## Comparing bytes -/

namespace Text

/-- Nothing is gathered only where there was no difference to start with and none in any pair. -/
theorem gathered_eq_zero_iff {ps : List (UInt8 × UInt8)} {start : Nat} :
    ps.foldl (fun gathered p => gathered ||| (p.1 ^^^ p.2).toNat) start = 0 ↔
      start = 0 ∧ ∀ p ∈ ps, p.1 = p.2 := by
  induction ps generalizing start with
  | nil => simp
  | cons p ps ih =>
    have same : (p.1 ^^^ p.2).toNat = 0 ↔ p.1 = p.2 := by
      rw [← UInt8.xor_eq_zero_iff, ← UInt8.toNat_inj]
      rfl
    rw [List.foldl_cons, ih, Nat.or_eq_zero_iff, same, List.forall_mem_cons, and_assoc]

/-- Sequences of one length are the same when all their pairs are. -/
theorem pairUp_same_iff {as bs : List UInt8} (length : as.length = bs.length) :
    (∀ p ∈ pairUp as bs, p.1 = p.2) ↔ as = bs := by
  fun_induction pairUp as bs with
  | case1 => simp
  | case2 a as => exact absurd length (Nat.succ_ne_zero _)
  | case3 b bs => exact absurd length.symm (Nat.succ_ne_zero _)
  | case4 a as b bs ih =>
    rw [List.forall_mem_cons, ih (Nat.succ.inj length), List.cons.injEq]

theorem sameBytes_iff {as bs : List UInt8} : sameBytes as bs = true ↔ as = bs := by
  rw [sameBytes, beq_iff_eq, gathered_eq_zero_iff, Nat.xor_eq_zero_iff]
  constructor
  · rintro ⟨length, pairs⟩
    exact (pairUp_same_iff length).mp pairs
  · rintro rfl
    exact ⟨rfl, (pairUp_same_iff rfl).mpr rfl⟩

end Text

namespace Credentials

theorem matchesExpected_iff {a e : Credentials} : a.matchesExpected e = true ↔ a = e := by
  obtain ⟨username, password⟩ := a
  obtain ⟨username', password'⟩ := e
  simp only [matchesExpected, Bool.and_eq_true, Text.sameBytes_iff, Text.utf8_inj,
    Credentials.mk.injEq]

/-! ## Header values -/

/-- The word of the scheme has no space in it. -/
theorem space_notMem_scheme {scheme : List Char}
    (h : scheme.map Char.toLower = ['b', 'a', 's', 'i', 'c']) : ' ' ∉ scheme := by
  intro space
  have lower : ' ' ∈ scheme.map Char.toLower := List.mem_map.mpr ⟨' ', space, rfl⟩
  rw [h] at lower
  exact absurd lower (by decide)

/-- The steps of reading a header value. -/
theorem ofBasic?_eq_some_iff_steps {value : String} {a : Credentials} :
    ofBasic? value = some a ↔ ∃ scheme token bytes decoded username password,
      Text.splitOnce ' ' (Text.trim value.toList) = some (scheme, token) ∧
      scheme.map Char.toLower = ['b', 'a', 's', 'i', 'c'] ∧
      Text.Base64.decode? (Text.trim token) = some bytes ∧ Text.decode? bytes = some decoded ∧
      Text.splitOnce ':' decoded = some (username, password) ∧
      a = ⟨String.ofList username, String.ofList password⟩ := by
  -- a chain of optional results has one when each of its links does
  show ((Text.splitOnce ' ' (Text.trim value.toList)).bind fun halves =>
    (if halves.1.map Char.toLower = ['b', 'a', 's', 'i', 'c'] then some () else none).bind fun _ =>
      (Text.Base64.decode? (Text.trim halves.2)).bind fun bytes => (Text.decode? bytes).bind
        fun decoded => (Text.splitOnce ':' decoded).bind fun names =>
          some ⟨String.ofList names.1, String.ofList names.2⟩) = some a ↔ _
  simp only [Option.bind_eq_some_iff, Option.ite_none_right_eq_some, Prod.exists, exists_const,
    exists_and_left, and_true, Option.some.injEq, eq_comm (a := a)]

/-- The credentials in a header value are those that it was made of. -/
theorem ofBasic?_eq_some_iff {value : String} {a : Credentials} :
    ofBasic? value = some a ↔ ':' ∉ a.username.toList ∧ ∃ scheme token,
      Text.trim value.toList = scheme ++ ' ' :: token ∧
      scheme.map Char.toLower = ['b', 'a', 's', 'i', 'c'] ∧
      Text.trim token = Text.Base64.encode (Text.utf8 (a.username ++ ":" ++ a.password)) := by
  rw [ofBasic?_eq_some_iff_steps]
  constructor
  · rintro ⟨scheme, token, bytes, decoded, username, password, cut, word, hbytes, hdecoded, halves,
      rfl⟩
    obtain ⟨hvalue, -⟩ := Text.splitOnce_eq_some_iff.mp cut
    obtain ⟨rfl, noColon⟩ := Text.splitOnce_eq_some_iff.mp halves
    have htoken := Text.Base64.decode?_eq_some_iff.mp hbytes
    have hbytes := Text.decode?_eq_some_iff.mp hdecoded
    refine ⟨by simpa using noColon, scheme, token, hvalue, word, ?_⟩
    rw [htoken, hbytes, Text.utf8]
    simp
  · rintro ⟨noColon, scheme, token, hvalue, word, htoken⟩
    refine ⟨scheme, token, _, _, a.username.toList, a.password.toList,
      Text.splitOnce_eq_some_iff.mpr ⟨hvalue, space_notMem_scheme word⟩, word,
      Text.Base64.decode?_eq_some_iff.mpr htoken, Text.decode?_flatMap _,
      Text.splitOnce_eq_some_iff.mpr ⟨by simp, noColon⟩, ?_⟩
    rw [String.ofList_toList, String.ofList_toList]

example : ofBasic? " bAsIc  dTpwOnE= " = some ⟨"u", "p:q"⟩ := by decide +kernel

/-! ## The header value of credentials -/

/-- Base64 text does not end with a blank. -/
theorem halts_reverse_encode (bs : List UInt8) :
    Text.Halts Text.isBlank (Text.Base64.encode bs).reverse := by
  apply Text.halts_of_forall
  intro c hc
  exact Text.Base64.isBlank_of_mem_encode c (List.mem_reverse.mp hc)

theorem trim_encode (bs : List UInt8) :
    Text.trim (Text.Base64.encode bs) = Text.Base64.encode bs := by
  apply Text.trim_eq_self
  · exact Text.halts_of_forall Text.Base64.isBlank_of_mem_encode
  · exact halts_reverse_encode bs

theorem toList_toBasic (e : Credentials) :
    e.toBasic.toList = "Basic".toList ++ ' ' ::
      Text.Base64.encode (Text.utf8 (e.username ++ ":" ++ e.password)) := by
  simp [toBasic]

/-- There is a colon to be written at least. -/
theorem utf8_joined_ne_nil (e : Credentials) :
    Text.utf8 (e.username ++ ":" ++ e.password) ≠ [] := by
  have colon : Text.utf8 ":" ≠ [] := by decide
  rw [Text.utf8_append, Text.utf8_append]
  simp [colon]

/-- A header value that is made of credentials has no blanks at its ends. -/
theorem trim_toBasic (e : Credentials) : Text.trim e.toBasic.toList = e.toBasic.toList := by
  apply Text.trim_eq_self
  · rw [toList_toBasic]
    exact Text.halts_cons_iff.mpr (by decide)
  · have written : (Text.Base64.encode
        (Text.utf8 (e.username ++ ":" ++ e.password))).reverse ≠ [] := by
      rw [ne_eq, List.reverse_eq_nil_iff]
      exact Text.Base64.encode_ne_nil e.utf8_joined_ne_nil
    rw [toList_toBasic, List.reverse_append, List.reverse_cons, List.append_assoc,
      Text.halts_append_iff written]
    exact halts_reverse_encode _

/-- The credentials that a header value was made of are read from it, unless the user name has a
colon. -/
theorem ofBasic?_toBasic {e : Credentials} (noColon : ':' ∉ e.username.toList) :
    ofBasic? e.toBasic = some e := by
  refine ofBasic?_eq_some_iff.mpr ⟨noColon, "Basic".toList, _, ?_, by decide, trim_encode _⟩
  rw [trim_toBasic, toList_toBasic]

/-- Which header values pass for the expected credentials.  The user name has no colon, and the
value, apart from blanks at its ends, is the word of the scheme in any case, a space, and, apart
from blanks, the base64 text of name, colon and password.  The value made of credentials gives them
back, and for a user name with a colon no value passes. -/
theorem ofBasic?_exact (value : String) (e : Credentials) :
    ((∃ a, ofBasic? value = some a ∧ a.matchesExpected e = true) ↔
      ':' ∉ e.username.toList ∧ ∃ scheme token,
        Text.trim value.toList = scheme ++ ' ' :: token ∧
        scheme.map Char.toLower = ['b', 'a', 's', 'i', 'c'] ∧
        Text.trim token = Text.Base64.encode (Text.utf8 (e.username ++ ":" ++ e.password))) ∧
    (':' ∉ e.username.toList → ofBasic? e.toBasic = some e) ∧
    (':' ∈ e.username.toList →
      ∀ a, ofBasic? value = some a → a.matchesExpected e = false) := by
  have passes : (∃ a, ofBasic? value = some a ∧ a.matchesExpected e = true) ↔
      ofBasic? value = some e := by
    simp only [matchesExpected_iff, exists_eq_right]
  refine ⟨?_, ofBasic?_toBasic, ?_⟩
  · rw [passes, ofBasic?_eq_some_iff]
  · intro colon a read
    rw [Bool.eq_false_iff]
    intro same
    have hvalue := passes.mp ⟨a, read, same⟩
    exact (ofBasic?_eq_some_iff.mp hvalue).1 colon

/-- The word of the scheme in capitals, blanks, and a password with a colon. -/
theorem ofBasic?_padded :
    ∃ a, ofBasic? " BASIC \tdTpwOnE= " = some a ∧ a.matchesExpected ⟨"u", "p:q"⟩ = true := by
  refine (ofBasic?_exact " BASIC \tdTpwOnE= " ⟨"u", "p:q"⟩).1.mpr ⟨by decide, ?_⟩
  exact ⟨"BASIC".toList, "\tdTpwOnE=".toList, by decide +kernel, by decide, by decide +kernel⟩

end Credentials

end ODataGateway
