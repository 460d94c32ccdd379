/-
# ODataGateway.Schema — the declared shape of an entity set.

A schema lists its properties in the order of declaration; that order is the order of the cells of
every row and of the properties in the metadata document.  No two properties share a name, which is
part of the type: declaring a name again keeps its first place and takes the later type.
-/
import ODataGateway.Json.Basic

namespace ODataGateway

/-! ## Properties -/

/-- The primitive types that a property can have. -/
inductive PropertyType where
  | int32
  | double
  | string
deriving DecidableEq, Repr

namespace PropertyType

/-- All primitive types. -/
def all : List PropertyType := [int32, double, string]

/-- The bare name of a type. -/
def name : PropertyType → String
  | int32 => "Int32"
  | double => "Double"
  | string => "String"

/-- The name of a type in metadata documents. -/
def edmName (t : PropertyType) : String := "Edm." ++ t.name

/-- The types whose cells hold numbers. -/
def isNumeric : PropertyType → Bool
  | int32 | double => true
  | string => false

/-- The type with a bare name. -/
def ofName (name : String) : Except Json.Mismatch PropertyType :=
  match all.find? (·.name == name) with
  | some t => .ok t
  | none => .error (.name name (all.map PropertyType.name))

/-- A type is found under its own name. -/
theorem ofName_name (t : PropertyType) : ofName t.name = .ok t := by
  cases t <;> simp [ofName, all, name]

end PropertyType

/-- A property of an entity type. -/
structure Property where
  name : String
  type : PropertyType
  nullable : Bool
deriving DecidableEq, Repr

/-! ## Schemas -/

/-- The shape of the entities of one set. -/
structure Schema where
  entityType : String
  entitySet : String
  /-- The name of the key property. -/
  key : String
  properties : List Property
  distinct : (properties.map Property.name).Nodup := by decide

namespace Schema

/-- The names of the properties in order of declaration. -/
def names (s : Schema) : List String := s.properties.map Property.name

/-- The property with a name. -/
def property? (s : Schema) (name : String) : Option Property :=
  s.properties.find? (·.name == name)

/-- Adds a property, or gives the property of that name its type and nullability. -/
def declare (p : Property) : List Property → List Property
  | [] => [p]
  | q :: rest => if q.name = p.name then p :: rest else q :: declare p rest

/-- A declaration adds its name at the end, or leaves the names as they are. -/
theorem names_declare (p : Property) (ps : List Property) :
    (declare p ps).map Property.name =
      if p.name ∈ ps.map Property.name then ps.map Property.name
      else ps.map Property.name ++ [p.name] := by
  induction ps with
  | nil => simp [declare]
  | cons q rest ih =>
    by_cases h : q.name = p.name
    · simp [declare, h]
    · simp only [declare, h, if_false, List.map_cons, ih, List.mem_cons, Ne.symm h, false_or]
      split <;> simp

theorem nodup_declare {p : Property} {ps : List Property}
    (h : (ps.map Property.name).Nodup) : ((declare p ps).map Property.name).Nodup := by
  rw [names_declare]
  split
  · exact h
  · rename_i fresh
    refine List.nodup_append.mpr ⟨h, by simp, fun a ha b hb => ?_⟩
    intro same
    exact fresh (List.mem_singleton.mp hb ▸ same ▸ ha)

/-- Declares properties one after the other. -/
def declareAll (ps : List Property) : { qs : List Property // (qs.map Property.name).Nodup } :=
  ps.foldl (fun qs p => ⟨declare p qs.1, nodup_declare qs.2⟩) ⟨[], by simp⟩

/-- The schema of a list of declarations. -/
def ofDeclarations (entityType entitySet key : String) (ps : List Property) : Schema where
  entityType := entityType
  entitySet := entitySet
  key := key
  properties := (declareAll ps).1
  distinct := (declareAll ps).2

/-- The set of transactions that the service exposes. -/
def transactions : Schema where
  entityType := "Transaction"
  entitySet := "Transactions"
  key := "id"
  properties :=
    [⟨"id", .int32, false⟩, ⟨"outlet", .string, true⟩, ⟨"date", .string, true⟩,
     ⟨"day", .string, true⟩, ⟨"guest_count", .int32, true⟩, ⟨"category", .string, true⟩,
     ⟨"quantity", .double, true⟩, ⟨"cost_price", .double, true⟩, ⟨"selling_price", .double, true⟩,
     ⟨"total_sales", .double, true⟩, ⟨"total_cost_price", .double, true⟩, ⟨"profit", .double, true⟩]

end Schema

end ODataGateway
