/-
# ODataGateway.Text.Basic — blanks, pieces, and tables of code points.

Query options, header values and settings all use the one notion of a blank defined here: the
characters with the Unicode property White_Space.  It is wider than `Char.isWhitespace`, which
knows ASCII only.  Zero-width and byte-order marks are not blank.

Tables of code points are written as rows of hexadecimal numbers.  A row holds entries with a space
between them, and an entry numbers with commas between them.  A table of ranges has the first and
the last code point in each entry, or one that is both.
-/
namespace ODataGateway.Text

/-! ## Blanks -/

/-- The ranges of code points with the property White_Space, both ends included. -/
def blankRanges : List (Nat × Nat) :=
  [(0x09, 0x0D), (0x20, 0x20), (0x85, 0x85), (0xA0, 0xA0), (0x1680, 0x1680), (0x2000, 0x200A),
   (0x2028, 0x2029), (0x202F, 0x202F), (0x205F, 0x205F), (0x3000, 0x3000)]

/-- A blank is a character with the property White_Space. -/
def isBlank (c : Char) : Bool :=
  blankRanges.any fun r => r.1 ≤ c.toNat && c.toNat ≤ r.2

/-! ## Trimming -/

/-- The text without the blanks at its front. -/
def trimFront (s : List Char) : List Char := s.dropWhile isBlank

/-- The text without the blanks at its end. -/
def trimBack (s : List Char) : List Char := (trimFront s.reverse).reverse

/-- The text without the blanks at either end. -/
def trim (s : List Char) : List Char := trimBack (trimFront s)

/-- Trimming on whole strings. -/
def trimmed (s : String) : String := String.ofList (trim s.toList)

/-- A text is blank when it holds nothing but blanks; the empty text is. -/
def allBlank (s : String) : Bool := s.toList.all isBlank

/-- Nothing is left of a text of blanks. -/
theorem trimFront_eq_nil_iff {s : List Char} : trimFront s = [] ↔ ∀ c ∈ s, isBlank c = true := by
  induction s with
  | nil => simp [trimFront]
  | cons c r ih =>
    rw [trimFront] at ih ⊢
    by_cases hc : isBlank c = true
    · rw [List.dropWhile_cons_of_pos hc, ih, List.forall_mem_cons, and_iff_right hc]
    · rw [List.dropWhile_cons_of_neg hc, List.forall_mem_cons]
      exact iff_of_false (List.cons_ne_nil c r) fun h => hc h.1

/-- Only blanks are taken off the front. -/
theorem trimFront_suffix (s : List Char) : trimFront s <:+ s :=
  List.dropWhile_suffix isBlank

/-! ## Pieces -/

/-- What stands before and after the first separator, if there is one. -/
def splitOnce {α : Type} [DecidableEq α] (separator : α) : List α → Option (List α × List α)
  | [] => none
  | c :: rest =>
    if c = separator then some ([], rest)
    else (splitOnce separator rest).map fun (before, after) => (c :: before, after)

/-- The pieces between separators; a sequence without one is a single piece. -/
def pieces {α : Type} [DecidableEq α] (separator : α) : List α → List (List α)
  | [] => [[]]
  | c :: rest =>
    if c = separator then [] :: pieces separator rest
    else
      match pieces separator rest with
      | [] => [[c]]
      | piece :: more => (c :: piece) :: more

/-- A cut at the first separator: nothing is lost, and the part before it holds none. -/
theorem splitOnce_eq_some_iff {α : Type} [DecidableEq α] {x : α} {s before after : List α} :
    splitOnce x s = some (before, after) ↔ s = before ++ x :: after ∧ x ∉ before := by
  induction s generalizing before with
  | nil => simp [splitOnce]
  | cons c rest ih =>
    by_cases h : c = x
    · subst h
      cases before with
      | nil => simp [splitOnce, eq_comm]
      | cons d before =>
        simp only [splitOnce, if_true, Option.some.injEq, Prod.mk.injEq, List.nil_eq, reduceCtorEq,
          false_and, List.cons_append, List.cons.injEq, List.mem_cons, not_or, false_iff]
        rintro ⟨⟨same, _⟩, differs, _⟩
        exact differs same
    · cases before with
      | nil => simp [splitOnce, h]
      | cons d before =>
        simp only [splitOnce, h, if_false, Option.map_eq_some_iff, Prod.exists, Prod.mk.injEq,
          List.cons.injEq, List.cons_append, List.mem_cons, not_or]
        constructor
        · rintro ⟨b, a, hs, ⟨rfl, rfl⟩, rfl⟩
          obtain ⟨rfl, fresh⟩ := ih.mp hs
          exact ⟨⟨rfl, rfl⟩, Ne.symm h, fresh⟩
        · rintro ⟨⟨rfl, rest_eq⟩, _, fresh⟩
          exact ⟨before, after, ih.mpr ⟨rest_eq, fresh⟩, ⟨rfl, rfl⟩, rfl⟩

/-! ## Tables -/

namespace Table

/-- The value of a hexadecimal digit in capitals. -/
def digitValue (c : Char) : Nat :=
  if c.isDigit then c.toNat - '0'.toNat else c.toNat - 'A'.toNat + 10

/-- The number that hexadecimal digits spell. -/
def number (ds : List Char) : Nat := ds.foldl (fun value c => 16 * value + digitValue c) 0

/-- The entries of all rows. -/
def entries (rows : List String) : List (List Nat) :=
  rows.flatMap fun row => (pieces ' ' row.toList).map fun entry => (pieces ',' entry).map number

end Table

/-- Ranges of code points, both ends included. -/
structure Ranges where
  bounds : List (Nat × Nat)

namespace Ranges

/-- The ranges in the rows of a table. -/
def ofRows (rows : List String) : Ranges where
  bounds := (Table.entries rows).filterMap fun
    | [a] => some (a, a)
    | [a, b] => some (a, b)
    | _ => none

/-- Whether a code point lies in one of the ranges. -/
def contains (r : Ranges) (n : Nat) : Bool := r.bounds.any fun b => b.1 ≤ n && n ≤ b.2

end Ranges

end ODataGateway.Text
