/-
# ODataGateway.Proofs.Document.Described — the metadata document says what the schema says.

Names go into the document as they are, so they may look like markup, but they stand in quotes: as
long as no name holds a quote itself, the tags of the document are those of an outline with the
names of the schema in it, and the schema can be read off them.
-/
import ODataGateway.Document
import ODataGateway.Row
import ODataGateway.Proofs.Document.Markup

namespace ODataGateway

open Markup

/-- A schema whose names hold no quote. -/
structure Schema.Unquoted (s : Schema) : Prop where
  entityType : '"' ∉ s.entityType.toList
  entitySet : '"' ∉ s.entitySet.toList
  key : '"' ∉ s.key.toList
  names : ∀ name ∈ s.names, '"' ∉ name.toList

namespace Metadata

/-! ## Reading a document -/

/-- The property that a tag declares. -/
def property? (tag : Tag) : Option Property := do
  let name ← tag.value? "Name"
  let type ← PropertyType.all.find? fun t => tag.value? "Type" == some t.edmName
  let nullable ← [true, false].find? fun b => tag.value? "Nullable" == some (flag b)
  some ⟨name, type, nullable⟩

/-- The tags of a document that declare its properties. -/
def propertyTags (document : String) : List Tag :=
  (tags document).filter (·.name == "Property")

/-- The name given in the first tag of a kind. -/
def named? (document kind : String) : Option String := do
  let tag ← (tags document).find? (·.name == kind)
  tag.value? "Name"

/-- Reads a document as the schema that it describes. -/
def read? (document : String) : Option Schema := do
  let entityType ← named? document "EntityType"
  let entitySet ← named? document "EntitySet"
  let key ← named? document "PropertyRef"
  let properties ← (propertyTags document).mapM property?
  if distinct : (properties.map Property.name).Nodup then
    some ⟨entityType, entitySet, key, properties, distinct⟩
  else none

/-! ## The tags of a rendered document -/

/-- The tag of a property. -/
def propertyTag (p : Property) : Tag :=
  ⟨"Property", [("Name", p.name), ("Type", p.type.edmName), ("Nullable", flag p.nullable)]⟩

/-- The tags before those of the properties. -/
def openingTags (s : Schema) : List Tag :=
  [⟨"?xml", [("version", "1.0"), ("encoding", "utf-8")]⟩,
   ⟨"edmx:Edmx", [("Version", "4.0"), ("xmlns:edmx", outlineVocabulary)]⟩,
   ⟨"edmx:DataServices", []⟩,
   ⟨"Schema", [("Namespace", schemaNamespace), ("xmlns", schemaVocabulary)]⟩,
   ⟨"EntityType", [("Name", s.entityType)]⟩,
   ⟨"Key", []⟩,
   ⟨"PropertyRef", [("Name", s.key)]⟩,
   ⟨"/Key", []⟩]

/-- The tags after those of the properties. -/
def closingTags (s : Schema) : List Tag :=
  [⟨"/EntityType", []⟩,
   ⟨"EntityContainer", [("Name", "Container")]⟩,
   ⟨"EntitySet",
     [("Name", s.entitySet), ("EntityType", schemaNamespace ++ "." ++ s.entityType)]⟩,
   ⟨"/EntityContainer", []⟩,
   ⟨"/Schema", []⟩,
   ⟨"/edmx:DataServices", []⟩,
   ⟨"/edmx:Edmx", []⟩]

/-- The line of a property is read as its tag. -/
theorem spells_propertyLine {p : Property} (clean : '"' ∉ p.name.toList) :
    Spells (propertyLine p) (propertyTag p) := by
  obtain ⟨name, type, nullable⟩ := p
  show Reader.start.run ("        <Property Name=\"" ++ name ++ "\" Type=\"" ++ type.edmName ++
    "\" Nullable=\"" ++ flag nullable ++ "\"/>") = _
  have opens : Reader.start.run "        <Property Name=\"" =
      ⟨[], .value ⟨"Property", []⟩ "Name".toList []⟩ := rfl
  rw [Reader.run_append, Reader.run_append, Reader.run_append, Reader.run_append,
    Reader.run_value opens clean rfl]
  -- What is left of the line is one of six texts.
  cases type <;> cases nullable <;> rfl

theorem spells_entityType {name : String} (clean : '"' ∉ name.toList) :
    Spells s!"      <EntityType Name=\"{name}\">" ⟨"EntityType", [("Name", name)]⟩ := by
  show Reader.start.run ("      <EntityType Name=\"" ++ name ++ "\">") = _
  have opens : Reader.start.run "      <EntityType Name=\"" =
      ⟨[], .value ⟨"EntityType", []⟩ "Name".toList []⟩ := rfl
  rw [Reader.run_value opens clean rfl]
  rfl

theorem spells_key {name : String} (clean : '"' ∉ name.toList) :
    Spells s!"          <PropertyRef Name=\"{name}\"/>" ⟨"PropertyRef", [("Name", name)]⟩ := by
  show Reader.start.run ("          <PropertyRef Name=\"" ++ name ++ "\"/>") = _
  have opens : Reader.start.run "          <PropertyRef Name=\"" =
      ⟨[], .value ⟨"PropertyRef", []⟩ "Name".toList []⟩ := rfl
  rw [Reader.run_value opens clean rfl]
  rfl

theorem spells_entitySet {set type : String} (cleanSet : '"' ∉ set.toList)
    (cleanType : '"' ∉ type.toList) :
    Spells s!"        <EntitySet Name=\"{set}\" EntityType=\"{schemaNamespace}.{type}\"/>"
      ⟨"EntitySet", [("Name", set), ("EntityType", schemaNamespace ++ ("." ++ type))]⟩ := by
  show Reader.start.run ("        <EntitySet Name=\"" ++ set ++ "\" EntityType=\"" ++
    schemaNamespace ++ "." ++ type ++ "\"/>") = _
  have opens : Reader.start.run "        <EntitySet Name=\"" =
      ⟨[], .value ⟨"EntitySet", []⟩ "Name".toList []⟩ := rfl
  have named : Reader.start.run ("        <EntitySet Name=\"" ++ set ++ "\" EntityType=\"") =
      ⟨[], .value ⟨"EntitySet", [("Name", set)]⟩ "EntityType".toList []⟩ := by
    rw [Reader.run_value opens cleanSet rfl]
    rfl
  have clean : '"' ∉ (schemaNamespace ++ ("." ++ type)).toList := by
    rw [String.toList_append, String.toList_append, List.mem_append, List.mem_append]
    exact not_or.mpr ⟨by decide, not_or.mpr ⟨by decide, cleanType⟩⟩
  -- The value is put together from three texts; the rest of the line stands around it.
  rw [@String.append_assoc _ "." type, @String.append_assoc _ schemaNamespace,
    Reader.run_value named clean rfl]
  rfl

theorem spells_opening {s : Schema} (plain : s.Unquoted) :
    List.Forall₂ Spells (openingLines s) (openingTags s) := by
  have typed := spells_entityType plain.entityType
  have keyed := spells_key plain.key
  refine .cons ?_ (.cons ?_ (.cons ?_ (.cons ?_ (.cons typed (.cons ?_ (.cons keyed
    (.cons ?_ .nil)))))))
  -- The other lines are the same in every document.
  all_goals decide +kernel

theorem spells_closing {s : Schema} (plain : s.Unquoted) :
    List.Forall₂ Spells (closingLines s) (closingTags s) := by
  have set := spells_entitySet plain.entitySet plain.entityType
  refine .cons ?_ (.cons ?_ (.cons set (.cons ?_ (.cons ?_ (.cons ?_ (.cons ?_ .nil))))))
  all_goals decide +kernel

theorem spells_properties {ps : List Property}
    (clean : ∀ name ∈ ps.map Property.name, '"' ∉ name.toList) :
    List.Forall₂ Spells (ps.map propertyLine) (ps.map propertyTag) := by
  induction ps with
  | nil => exact .nil
  | cons p rest ih =>
    have others : ∀ name ∈ rest.map Property.name, '"' ∉ name.toList :=
      fun name mem => clean name (List.mem_cons_of_mem _ mem)
    exact .cons (spells_propertyLine (clean p.name List.mem_cons_self)) (ih others)

/-- A document has the tags of its outline and one for each property, in their order. -/
theorem tags_render {s : Schema} (plain : s.Unquoted) :
    tags (render s) = openingTags s ++ s.properties.map propertyTag ++ closingTags s :=
  tags_lines (List.rel_append (List.rel_append (spells_opening plain)
    (spells_properties plain.names)) (spells_closing plain))

/-! ## Reading the schema back -/

theorem propertyTags_render {s : Schema} (plain : s.Unquoted) :
    propertyTags (render s) = s.properties.map propertyTag := by
  have all : (s.properties.map propertyTag).filter (·.name == "Property") =
      s.properties.map propertyTag := by
    rw [List.filter_eq_self]
    intro tag mem
    obtain ⟨p, _, rfl⟩ := List.mem_map.mp mem
    rfl
  rw [propertyTags, tags_render plain, List.filter_append, List.filter_append, all]
  show [] ++ s.properties.map propertyTag ++ [] = _
  simp

theorem named_entityType {s : Schema} (plain : s.Unquoted) :
    named? (render s) "EntityType" = some s.entityType := by
  rw [named?, tags_render plain]
  rfl

theorem named_key {s : Schema} (plain : s.Unquoted) :
    named? (render s) "PropertyRef" = some s.key := by
  rw [named?, tags_render plain]
  rfl

theorem named_entitySet {s : Schema} (plain : s.Unquoted) :
    named? (render s) "EntitySet" = some s.entitySet := by
  have before : (openingTags s ++ s.properties.map propertyTag).find? (·.name == "EntitySet") =
      none := by
    rw [List.find?_append, List.find?_map]
    have none_opening : (openingTags s).find? (·.name == "EntitySet") = none := rfl
    rw [none_opening]
    simp [propertyTag, Function.comp_def]
  rw [named?, tags_render plain, List.find?_append, before]
  rfl

theorem property_propertyTag (p : Property) : property? (propertyTag p) = some p := by
  obtain ⟨name, type, nullable⟩ := p
  cases type <;> cases nullable <;> rfl

theorem mapM_property (ps : List Property) :
    (ps.map propertyTag).mapM property? = some ps := by
  induction ps with
  | nil => rfl
  | cons p rest ih => simp [property_propertyTag, ih]

/-- The document of a schema is read as that schema. -/
theorem read_render {s : Schema} (plain : s.Unquoted) : read? (render s) = some s := by
  rw [read?, named_entityType plain, named_entitySet plain, named_key plain,
    propertyTags_render plain, mapM_property]
  simp [s.distinct]

/-- Documents of different schemas differ. -/
theorem eq_of_render_eq {s t : Schema} (hs : s.Unquoted) (ht : t.Unquoted)
    (same : render s = render t) : s = t := by
  have read : some s = some t := by rw [← read_render hs, same, read_render ht]
  exact Option.some.inj read

/-- The properties of a document stand in the order of the cells of every row. -/
theorem names_propertyTags {s : Schema} (plain : s.Unquoted) (item : Json) :
    (propertyTags (render s)).map (·.value? "Name") =
      (Row.ofJson s item).map fun c => some c.1 := by
  rw [propertyTags_render plain, List.map_map, Row.ofJson, List.map_map]
  rfl

/-- The metadata document describes its schema: the schema is read off it, so that no other schema
has the same document, and it declares the names of every row's cells in the row's order. -/
theorem render_described {s : Schema} (plain : s.Unquoted) :
    read? (render s) = some s ∧
    (∀ t : Schema, t.Unquoted → t ≠ s → render t ≠ render s) ∧
    (propertyTags (render s)).length = s.properties.length ∧
    ∀ item : Json, (propertyTags (render s)).map (·.value? "Name") =
      (Row.ofJson s item).map fun c => some c.1 := by
  refine ⟨read_render plain, ?_, ?_, names_propertyTags plain⟩
  · intro t plainOther other same
    exact other (eq_of_render_eq plainOther plain same)
  · rw [propertyTags_render plain, List.length_map]

/-- A schema with names that look like markup. -/
def lookalike : Schema where
  entityType := "Type>\n<Property Name='x'/>"
  entitySet := ""
  key := "<Key> </Key>"
  properties := [⟨"/>\n        <Property Name=", .int32, false⟩, ⟨"a b", .string, true⟩]

theorem lookalike_unquoted : lookalike.Unquoted where
  entityType := by decide
  entitySet := by decide
  key := by decide
  names := by decide

/-- The schema of lookalikes is read back, and only two properties are found in its document. -/
theorem render_described_lookalike :
    lookalike.Unquoted ∧ read? (render lookalike) = some lookalike ∧
    (propertyTags (render lookalike)).length = 2 :=
  have described := render_described lookalike_unquoted
  ⟨lookalike_unquoted, described.1, described.2.2.1⟩

end Metadata
end ODataGateway
