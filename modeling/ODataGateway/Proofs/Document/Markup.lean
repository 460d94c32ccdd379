/-
# ODataGateway.Proofs.Document.Markup — the tags of a marked-up text.

A text is read one character at a time.  What stands in quotes is a value and is passed over up to
the closing quote, whatever it holds, so text that looks like a tag is none inside a value.  A text
that ends outside of its tags can be put in front of another one, and the tags of the whole are
those of the two: a document that is written line by line is read line by line.
-/
import Mathlib.Data.List.Forall2

namespace ODataGateway.Markup

/-! ## The reader -/

/-- A tag with its attributes.  The name of an ending tag begins with a slash. -/
structure Tag where
  name : String
  attributes : List (String × String) := []
deriving DecidableEq, Repr

/-- The value of an attribute of a tag. -/
def Tag.value? (tag : Tag) (name : String) : Option String := tag.attributes.lookup name

/-- Where the reader stands. -/
inductive Place where
  /-- Outside of all tags. -/
  | content
  /-- In the name of a tag. -/
  | name (text : List Char)
  /-- Behind the name of a tag, with what it has of the next attribute's name. -/
  | inside (tag : Tag) (word : List Char)
  /-- In the value of an attribute. -/
  | value (tag : Tag) (word text : List Char)
deriving DecidableEq

/-- The reader: the tags that it has passed, and where it stands. -/
structure Reader where
  passed : List Tag
  place : Place
deriving DecidableEq

namespace Reader

/-- A reader that has read nothing. -/
def start : Reader := ⟨[], .content⟩

/-- Reads one character. -/
def step (r : Reader) (c : Char) : Reader :=
  match r.place with
  | .content => { r with place := if c = '<' then .name [] else .content }
  | .name text =>
    let tag : Tag := ⟨String.ofList text, []⟩
    if c = '>' then ⟨r.passed ++ [tag], .content⟩
    else { r with place := if c = ' ' then .inside tag [] else .name (text ++ [c]) }
  | .inside tag word =>
    if c = '>' then ⟨r.passed ++ [tag], .content⟩
    else if c = '"' then { r with place := .value tag word [] }
    else if c = ' ' then { r with place := .inside tag [] }
    else { r with place := .inside tag (if c = '=' then word else word ++ [c]) }
  | .value tag word text =>
    if c = '"' then
      let read : String × String := (String.ofList word, String.ofList text)
      { r with place := .inside { tag with attributes := tag.attributes ++ [read] } [] }
    else { r with place := .value tag word (text ++ [c]) }

/-- Reads a text. -/
def run (r : Reader) (text : String) : Reader := text.toList.foldl step r

/-- The reader with tags passed before all that it has passed. -/
def behind (earlier : List Tag) (r : Reader) : Reader := { r with passed := earlier ++ r.passed }

end Reader

/-- The tags of a text in their order. -/
def tags (text : String) : List Tag := (Reader.start.run text).passed

/-- A line with a single tag, which ends in it. -/
def Spells (line : String) (tag : Tag) : Prop :=
  Reader.start.run line = ⟨[tag], .content⟩

instance (line : String) (tag : Tag) : Decidable (Spells line tag) :=
  inferInstanceAs (Decidable (Reader.start.run line = ⟨[tag], .content⟩))

/-! ## Reading on -/

namespace Reader

theorem run_append (r : Reader) (a b : String) : r.run (a ++ b) = (r.run a).run b := by
  simp [run]

/-- What was passed before has no part in the reading. -/
theorem step_behind (earlier : List Tag) (r : Reader) (c : Char) :
    (r.behind earlier).step c = (r.step c).behind earlier := by
  obtain ⟨passed, place⟩ := r
  cases place with
  | content => rfl
  | name text =>
    simp only [step, behind]
    split <;> simp
  | inside tag word =>
    simp only [step, behind]
    split
    · simp
    · split
      · rfl
      · split <;> rfl
  | value tag word text =>
    simp only [step, behind]
    split <;> rfl

theorem run_behind (earlier : List Tag) (r : Reader) (text : String) :
    (r.behind earlier).run text = (r.run text).behind earlier := by
  show text.toList.foldl step (r.behind earlier) = (text.toList.foldl step r).behind earlier
  induction text.toList generalizing r with
  | nil => rfl
  | cons c rest ih =>
    rw [List.foldl_cons, List.foldl_cons, step_behind]
    exact ih (r.step c)

/-- Between two quotes nothing is looked at. -/
theorem foldl_value {passed : List Tag} {tag : Tag} {word text v : List Char} (clean : '"' ∉ v) :
    v.foldl step ⟨passed, .value tag word text⟩ = ⟨passed, .value tag word (text ++ v)⟩ := by
  induction v generalizing text with
  | nil => simp
  | cons c rest ih =>
    obtain ⟨other, clean⟩ := not_or.mp (mt List.mem_cons.mpr clean)
    have stays : step ⟨passed, .value tag word text⟩ c =
        ⟨passed, .value tag word (text ++ [c])⟩ := by
      simp only [step]
      rw [if_neg (Ne.symm other)]
    rw [List.foldl_cons, stays, ih clean, List.append_assoc, List.singleton_append]

/-- A value without quotes, put between a text that opens the quotes and one that closes them, is
read as it is. -/
theorem run_value {r : Reader} {opening v closing : String} {passed : List Tag} {tag : Tag}
    {word rest : List Char} (opens : r.run opening = ⟨passed, .value tag word []⟩)
    (clean : '"' ∉ v.toList) (closes : closing.toList = '"' :: rest) :
    r.run (opening ++ v ++ closing) = rest.foldl step
      ⟨passed, .inside ⟨tag.name, tag.attributes ++ [(String.ofList word, v)]⟩ []⟩ := by
  rw [run_append, run_append, opens]
  have read : run ⟨passed, .value tag word []⟩ v = ⟨passed, .value tag word v.toList⟩ :=
    foldl_value clean
  rw [read]
  show closing.toList.foldl step _ = _
  rw [closes, List.foldl_cons]
  simp [step]

end Reader

/-! ## Texts that are put together -/

/-- A text that ends outside of its tags leaves nothing of itself behind but them. -/
theorem Reader.run_content {a : String} {ts : List Tag}
    (ends : Reader.start.run a = ⟨ts, .content⟩) (b : String) :
    Reader.start.run (a ++ b) = (Reader.start.run b).behind ts := by
  have stands : Reader.start.run a = Reader.start.behind ts := by
    rw [ends]
    simp [Reader.behind, Reader.start]
  rw [Reader.run_append, stands, Reader.run_behind]

theorem Reader.run_lines {lines : List String} {ts : List Tag}
    (spells : List.Forall₂ Spells lines ts) :
    Reader.start.run ("\n".intercalate lines) = ⟨ts, .content⟩ := by
  induction spells with
  | nil => rfl
  | @cons line tag rest more first others ih =>
    cases others with
    | nil => rwa [String.intercalate_singleton]
    | cons _ _ =>
      have ended : Reader.start.run (line ++ "\n") = ⟨[tag], .content⟩ := by
        rw [Reader.run_content first]
        rfl
      rw [String.intercalate_cons_cons, Reader.run_content ended, ih]
      rfl

/-- A text of lines with one tag each has the tags of its lines. -/
theorem tags_lines {lines : List String} {ts : List Tag}
    (spells : List.Forall₂ Spells lines ts) : tags ("\n".intercalate lines) = ts := by
  show (Reader.start.run _).passed = ts
  rw [Reader.run_lines spells]

end ODataGateway.Markup
