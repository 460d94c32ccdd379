/-
# ODataGateway.Document — the documents that answers are made of.

The JSON documents start with a context that points into the metadata document, as seen from the
service root.  Their members stand in a fixed order, which is not that of their names.

The metadata document of a schema is XML of a fixed outline with one line for each property.  Names
are written as they are, without escaping.
-/
import ODataGateway.Plan
import ODataGateway.Schema

namespace ODataGateway

/-! ## JSON documents -/

/-- The document of an entity set: context, rows, and the count where there is one. -/
def Answer.toJson (a : Answer) (serviceRoot entitySet : String) : Json :=
  .object <|
    [("@odata.context", .string (serviceRoot ++ "$metadata#" ++ entitySet)),
     ("value", .array (a.rows.map Row.toJson))] ++
    (a.count.map fun n => ("@odata.count", Json.integer n)).toList

/-- The entry of an entity set in the service document; its address is its name. -/
def Json.entitySetEntry (name : String) : Json :=
  .object [("name", .string name), ("kind", .string "EntitySet"), ("url", .string name)]

/-- The service document: context and the entity sets. -/
def Json.serviceDocument (serviceRoot : String) (entitySets : List String) : Json :=
  .object
    [("@odata.context", .string (serviceRoot ++ "$metadata")),
     ("value", .array (entitySets.map Json.entitySetEntry))]

end ODataGateway

namespace ODataGateway.Metadata

/-! ## The metadata document -/

/-- The vocabulary of the document's outline. -/
def outlineVocabulary : String := "http://docs.oasis-open.org/odata/ns/edmx"

/-- The vocabulary of the schema inside it. -/
def schemaVocabulary : String := "http://docs.oasis-open.org/odata/ns/edm"

/-- The namespace that the entity type is declared in. -/
def schemaNamespace : String := "TransactionsService"

/-- The word of a truth value in an attribute. -/
def flag (b : Bool) : String := if b then "true" else "false"

/-- The line of a property. -/
def propertyLine (p : Property) : String :=
  s!"        <Property Name=\"{p.name}\" Type=\"{p.type.edmName}\" Nullable=\"{flag p.nullable}\"/>"

/-- The lines before those of the properties. -/
def openingLines (s : Schema) : List String :=
  ["<?xml version=\"1.0\" encoding=\"utf-8\"?>",
   s!"<edmx:Edmx Version=\"4.0\" xmlns:edmx=\"{outlineVocabulary}\">",
   "  <edmx:DataServices>",
   s!"    <Schema Namespace=\"{schemaNamespace}\" xmlns=\"{schemaVocabulary}\">",
   s!"      <EntityType Name=\"{s.entityType}\">",
   "        <Key>",
   s!"          <PropertyRef Name=\"{s.key}\"/>",
   "        </Key>"]

/-- The lines after those of the properties. -/
def closingLines (s : Schema) : List String :=
  ["      </EntityType>",
   "      <EntityContainer Name=\"Container\">",
   s!"        <EntitySet Name=\"{s.entitySet}\" EntityType=\"{schemaNamespace}.{s.entityType}\"/>",
   "      </EntityContainer>",
   "    </Schema>",
   "  </edmx:DataServices>",
   "</edmx:Edmx>"]

/-- The document of a schema; its last line is not ended. -/
def render (s : Schema) : String :=
  "\n".intercalate (openingLines s ++ s.properties.map propertyLine ++ closingLines s)

end ODataGateway.Metadata
