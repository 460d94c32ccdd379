/-
# ODataGateway.Proofs.Text.Runs — longest runs of characters of a class, and trimming.

A text that is a run of a class followed by something that does not go on with the class can be
cut in this way only (`run_unique`), and `takeWhile` and `dropWhile` find the cut.

A text that neither starts nor ends with a blank is its own trim (`trim_eq_self`), and blanks put
around a text never reach its trim (`trim_pad`).  So every reader that starts by trimming may be
studied on texts without blanks at the ends.  Nothing but blanks is taken away
(`exists_pad_trim`).
-/
import Mathlib.Data.List.TakeWhile
import ODataGateway.Text.Basic

namespace ODataGateway.Text

/-! ## Runs -/

/-- The text does not go on with a character of the class: it has ended, or another one is next. -/
def Halts (ofClass : Char → Bool) (s : List Char) : Prop := ∀ c ∈ s.head?, ofClass c = false

section

variable {ofClass : Char → Bool} {run rest run' rest' : List Char}

theorem halts_nil : Halts ofClass [] := fun _ h => nomatch h

theorem halts_cons_iff {c : Char} {s : List Char} : Halts ofClass (c :: s) ↔ ofClass c = false := by
  simp [Halts]

/-- A text without characters of the class does not go on with it. -/
theorem halts_of_forall {s : List Char} (h : ∀ c ∈ s, ofClass c = false) : Halts ofClass s :=
  fun c hc => h c (List.mem_of_mem_head? hc)

/-- Whether a text goes on with the class is seen at its front. -/
theorem halts_append_iff {s t : List Char} (nonempty : s ≠ []) :
    Halts ofClass (s ++ t) ↔ Halts ofClass s := by
  cases s with
  | nil => exact absurd rfl nonempty
  | cons c s => rw [List.cons_append, halts_cons_iff, halts_cons_iff]

/-- A run goes no further than the class does. -/
theorem halts_dropWhile (s : List Char) : Halts ofClass (s.dropWhile ofClass) := by
  intro c hc
  have h := List.head?_dropWhile_not ofClass s
  rw [Option.mem_def.mp hc] at h
  simpa using h

theorem dropWhile_of_halts (h : Halts ofClass rest) : rest.dropWhile ofClass = rest := by
  cases rest with
  | nil => rfl
  | cons c s =>
    have hc : ofClass c = false := halts_cons_iff.mp h
    exact List.dropWhile_cons_of_neg (by simp [hc])

theorem takeWhile_of_halts (h : Halts ofClass rest) : rest.takeWhile ofClass = [] := by
  cases rest with
  | nil => rfl
  | cons c s =>
    have hc : ofClass c = false := halts_cons_iff.mp h
    exact List.takeWhile_cons_of_neg (by simp [hc])

theorem takeWhile_run (hrun : ∀ c ∈ run, ofClass c = true) (hrest : Halts ofClass rest) :
    (run ++ rest).takeWhile ofClass = run := by
  rw [List.takeWhile_append_of_pos hrun, takeWhile_of_halts hrest, List.append_nil]

theorem dropWhile_run (hrun : ∀ c ∈ run, ofClass c = true) (hrest : Halts ofClass rest) :
    (run ++ rest).dropWhile ofClass = rest := by
  rw [List.dropWhile_append_of_pos hrun, dropWhile_of_halts hrest]

/-- There is one way to cut a longest run off a text. -/
theorem run_unique (same : run ++ rest = run' ++ rest') (hrun : ∀ c ∈ run, ofClass c = true)
    (hrest : Halts ofClass rest) (hrun' : ∀ c ∈ run', ofClass c = true)
    (hrest' : Halts ofClass rest') : run = run' ∧ rest = rest' := by
  constructor
  · rw [← takeWhile_run hrun hrest, same, takeWhile_run hrun' hrest']
  · rw [← dropWhile_run hrun hrest, same, dropWhile_run hrun' hrest']

end

/-! ## Trimming the front -/

/-- Blanks before a text do not change its trimmed front. -/
theorem trimFront_append_blanks {a : List Char} (ha : ∀ c ∈ a, isBlank c = true) (s : List Char) :
    trimFront (a ++ s) = trimFront s :=
  List.dropWhile_append_of_pos ha

/-! ## Trimming the back -/

theorem trimBack_append_blanks {b : List Char} (hb : ∀ c ∈ b, isBlank c = true) (s : List Char) :
    trimBack (s ++ b) = trimBack s := by
  have hr : ∀ c ∈ b.reverse, isBlank c = true := fun c hc => hb c (List.mem_reverse.mp hc)
  rw [trimBack, List.reverse_append, trimFront_append_blanks hr, trimBack]

theorem trimBack_eq_self {s : List Char} (h : Halts isBlank s.reverse) : trimBack s = s := by
  rw [trimBack, trimFront, dropWhile_of_halts h, List.reverse_reverse]

/-! ## Trimming both ends -/

/-- A text without blanks at its ends is trimmed already. -/
theorem trim_eq_self {s : List Char} (front : Halts isBlank s) (back : Halts isBlank s.reverse) :
    trim s = s := by
  rw [trim, trimFront, dropWhile_of_halts front, trimBack_eq_self back]

/-- Blanks around a text are taken away, whatever the text. -/
theorem trim_pad {a b : List Char} (ha : ∀ c ∈ a, isBlank c = true)
    (hb : ∀ c ∈ b, isBlank c = true) (s : List Char) : trim (a ++ s ++ b) = trim s := by
  rw [List.append_assoc, trim, trimFront_append_blanks ha, trim]
  by_cases hs : ∀ c ∈ s, isBlank c = true
  · -- nothing but blanks: both sides are empty
    rw [trimFront_append_blanks hs, trimFront_eq_nil_iff.mpr hb, trimFront_eq_nil_iff.mpr hs]
  · have keep : trimFront (s ++ b) = trimFront s ++ b := by
      have hne : ¬ (trimFront s).isEmpty := by
        rw [List.isEmpty_iff, trimFront_eq_nil_iff]
        exact hs
      rw [trimFront] at hne ⊢
      rw [List.dropWhile_append, if_neg hne]
      rfl
    rw [keep, trimBack_append_blanks hb]

/-! ## What is left -/

/-- No blank stands at the front of a trimmed text. -/
theorem halts_trim (s : List Char) : Halts isBlank (trim s) := by
  -- taking blanks off the end leaves a beginning of the text
  have start : trim s <+: trimFront s := by
    rw [← List.reverse_suffix, trim, trimBack, List.reverse_reverse]
    exact trimFront_suffix (trimFront s).reverse
  obtain ⟨b, hb⟩ := start
  cases ht : trim s with
  | nil => exact halts_nil
  | cons c t =>
    have front : Halts isBlank (trimFront s) := halts_dropWhile s
    rw [← hb, ht, List.cons_append, halts_cons_iff] at front
    exact halts_cons_iff.mpr front

/-- A text is its trimmed text with blanks around it. -/
theorem exists_pad_trim (s : List Char) :
    ∃ a b, s = a ++ trim s ++ b ∧ (∀ c ∈ a, isBlank c = true) ∧ ∀ c ∈ b, isBlank c = true := by
  refine ⟨s.takeWhile isBlank, ((trimFront s).reverse.takeWhile isBlank).reverse, ?_,
    fun _ => List.mem_takeWhile_imp, ?_⟩
  · have back : trim s ++ ((trimFront s).reverse.takeWhile isBlank).reverse = trimFront s := by
      rw [trim, trimBack, trimFront, ← List.reverse_append, List.takeWhile_append_dropWhile,
        List.reverse_reverse]
    rw [List.append_assoc, back, trimFront, List.takeWhile_append_dropWhile]
  · intro c hc
    exact List.mem_takeWhile_imp (List.mem_reverse.mp hc)

/-- Nothing is left of blanks, and of nothing else. -/
theorem trim_eq_nil_iff {s : List Char} : trim s = [] ↔ ∀ c ∈ s, isBlank c = true := by
  constructor
  · intro empty
    obtain ⟨a, b, padded, ha, hb⟩ := exists_pad_trim s
    rw [empty, List.append_nil] at padded
    rw [padded]
    exact List.forall_mem_append.mpr ⟨ha, hb⟩
  · intro blanks
    rw [trim, trimFront_eq_nil_iff.mpr blanks]
    rfl

/-- Blank texts are those of which trimming leaves nothing. -/
theorem allBlank_iff {s : String} : allBlank s = true ↔ trim s.toList = [] :=
  List.all_eq_true.trans trim_eq_nil_iff.symm

end ODataGateway.Text
