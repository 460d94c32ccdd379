/-
# ODataGateway.Proofs.Query.Ties — the cells that tie are those that nothing tells apart.

There are four ways in which two cells tie (`Cell.Ties`).  In rows made of items, where a raw cell
holds no text and its value can be told from how it is written, cells that tie are the same but for
the sign of a zero, and so they are served alike and meet the same filters.  They are also just the
cells of one kind that have the same text (`Cell.tie_iff_same_text`).
-/
import ODataGateway.Proofs.Query.ZeroSign

namespace ODataGateway

namespace Cell

/-! ## Cells of rows -/

/-- The cell stands in the row of some item.  Items are the values that texts can give, however deep
they nest. -/
def Arises (c : Cell) : Prop :=
  ∃ (schema : Schema) (item : Json) (d : Nat) (name : String),
    Json.Readable d item ∧ (Row.ofJson schema item).lookup name = some c

/-- A raw cell of a row holds a value that can be read and is no text. -/
theorem Arises.raw {v : Json} (h : (Cell.raw v).Arises) :
    (∃ d, Json.Readable d v) ∧ ∀ s, v ≠ .string s := by
  obtain ⟨schema, item, d, name, readable, found⟩ := h
  obtain ⟨p, -, -, made⟩ := Row.makes_of_lookup found
  have kept : item.get? name = some v := made.fits.raw_kept v rfl
  exact ⟨⟨d, Row.readable_get? (readable.mono (Nat.le_succ d)) kept⟩, made.noText⟩

/-! ## Ties -/

/-- The ways in which cells tie. -/
inductive Ties : Cell → Cell → Prop
  | null : Ties .null .null
  | number {x y : Binary64} (same : x.rank = y.rank) : Ties (.number x) (.number y)
  | text (s : String) : Ties (.text s) (.text s)
  | raw {v w : Json} (same : v.text = w.text) : Ties (.raw v) (.raw w)

theorem Ties.kindRank_eq {a b : Cell} (h : a.Ties b) : a.kindRank = b.kindRank := by
  cases h <;> rfl

theorem compareValues_eq_iff {a b : Cell} (ha : a ≠ .null) (hb : b ≠ .null) :
    compareValues a b = .eq ↔ a.Ties b := by
  by_cases kinds : a.kindRank = b.kindRank
  · cases a with
    | null => exact absurd rfl ha
    | number x =>
      cases b with
      | number y =>
        show compare x.rank y.rank = .eq ↔ _
        rw [Int.compare_eq_eq]
        exact ⟨.number, fun h => by cases h; assumption⟩
      | _ => cases kinds
    | text s =>
      cases b with
      | text t =>
        show compare s t = .eq ↔ _
        rw [Std.compare_eq_iff_eq]
        exact ⟨fun same => same ▸ .text s, fun h => by cases h; rfl⟩
      | _ => cases kinds
    | raw v =>
      cases b with
      | raw w =>
        show compare v.text w.text = .eq ↔ _
        rw [Std.compare_eq_iff_eq]
        exact ⟨.raw, fun h => by cases h; assumption⟩
      | _ => cases kinds
  · rw [compareValues_of_kindRank_ne kinds, Nat.compare_eq_eq]
    exact iff_of_false kinds fun h => kinds h.kindRank_eq

/-- The four ways are all, in both directions. -/
theorem compareIn_eq_iff {d : Direction} {a b : Cell} : compareIn d a b = .eq ↔ a.Ties b := by
  by_cases ha : a = .null
  · subst ha
    by_cases hb : b = .null
    · subst hb
      exact iff_of_true rfl .null
    · rw [compareIn_null_left hb]
      refine iff_of_false (by decide) fun h => hb ?_
      cases h
      rfl
  · by_cases hb : b = .null
    · subst hb
      rw [compareIn_null_right ha]
      refine iff_of_false (by decide) fun h => ha ?_
      cases h
      rfl
    · rw [compareIn_of_ne_null ha hb, Direction.apply_eq_eq_iff, compareValues_eq_iff ha hb]

variable {a b : Cell}

/-- In rows, cells that tie differ in the sign of a zero at most. -/
theorem Ties.upToZero (h : a.Ties b) (ha : a.Arises) (hb : b.Arises) : a.UpToZero b := by
  cases h with
  | null => exact .same _
  | number same => exact .of_rank_eq same
  | text s => exact .same _
  | raw same =>
    obtain ⟨⟨d, readable⟩, -⟩ := ha.raw
    obtain ⟨⟨e, readable'⟩, -⟩ := hb.raw
    rw [readable.eq_of_write_eq readable' (String.ofList_injective same)]
    exact .same _

/-! ## Texts -/

/-- The cells are of one kind, and not null. -/
inductive SameKind : Cell → Cell → Prop
  | number (x y : Binary64) : SameKind (.number x) (.number y)
  | text (s t : String) : SameKind (.text s) (.text t)
  | raw (v w : Json) : SameKind (.raw v) (.raw w)

/-- Cells of one kind that have the same text tie. -/
theorem ties_of_text (h : a.SameKind b) (ha : a.Arises) (hb : b.Arises)
    (same : a.text? = b.text?) : a.Ties b := by
  have shown : a.display = b.display := by
    cases h <;> exact Option.some.inj same
  cases h with
  | number x y => exact .number (Binary64.text_eq_iff.mp (String.ofList_injective shown))
  | text s t =>
    obtain rfl : s = t := shown
    exact .text s
  | raw v w =>
    rw [display_raw ha.raw.2, display_raw hb.raw.2] at shown
    exact .raw shown

theorem Ties.null_or_sameKind (h : a.Ties b) : (a = .null ∧ b = .null) ∨ a.SameKind b := by
  cases h with
  | null => exact Or.inl ⟨rfl, rfl⟩
  | number _ => exact Or.inr (.number ..)
  | text s => exact Or.inr (.text ..)
  | raw _ => exact Or.inr (.raw ..)

/-- The cells that tie are exactly those that nothing tells apart.  Two cells of rows tie, in either
direction, just if both are null or they are of one kind and have the same text.  Cells that tie are
written the same way in an answer, and whatever a filter asks of the property, it accepts both of
two rows that have them there, or neither. -/
theorem tie_iff_same_text (ha : a.Arises) (hb : b.Arises) (d : Direction) :
    (compareIn d a b = .eq ↔
      (a = .null ∧ b = .null) ∨ a.SameKind b ∧ a.text? = b.text?) ∧
    (compareIn d a b = .eq →
      Json.write a.toJson = Json.write b.toJson ∧
      ∀ (f : Filter) (r s : Row), r.cell f.property = a → s.cell f.property = b →
        f.accepts r = f.accepts s) := by
  rw [compareIn_eq_iff]
  refine ⟨⟨?_, ?_⟩, ?_⟩
  · intro tie
    exact tie.null_or_sameKind.imp_right fun kind => ⟨kind, (tie.upToZero ha hb).text?_eq⟩
  · rintro (⟨rfl, rfl⟩ | ⟨kind, same⟩)
    · exact .null
    · exact ties_of_text kind ha hb same
  · intro tie
    have equal := tie.upToZero ha hb
    refine ⟨by rw [equal.toJson_eq], ?_⟩
    rintro f r s rfl rfl
    exact equal.meets_eq f.operand

/-- Two zeros that an item has as texts, with a minus and with an exponent. -/
theorem tie_iff_same_text_zeros :
    compareIn .descending (number (.ofText "-0.0")) (number (.ofText " 0e9 ")) = .eq ∧
      Json.write (number (.ofText "-0.0")).toJson =
        Json.write (number (.ofText " 0e9 ")).toJson := by
  have arises : ∀ s : String, s.isEmpty = false → (number (.ofText s)).Arises := by
    intro s filled
    refine ⟨⟨"Sale", "Sales", "price", [⟨"price", .double, true⟩], by decide⟩,
      .object [("price", .string s)], 1, "price", ?_, ?_⟩
    · refine .object (List.pairwise_singleton _ _) fun m hm => ?_
      rw [List.mem_singleton.mp hm]
      exact .string s
    · show some (if s.isEmpty then null else number (.ofText s)) = _
      rw [filled]
      rfl
  obtain ⟨ties, alike⟩ :=
    tie_iff_same_text (arises "-0.0" (by decide)) (arises " 0e9 " (by decide)) .descending
  have tie : compareIn .descending (number (.ofText "-0.0")) (number (.ofText " 0e9 ")) = .eq :=
    ties.mpr (Or.inr ⟨.number _ _, by decide +kernel⟩)
  exact ⟨tie, (alike tie).1⟩

end Cell

end ODataGateway
