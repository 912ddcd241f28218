import Recase.Proofs.Dump.Concatenation
import Recase.Proofs.Json.Decoding
import Recase.Report

namespace Recase

/-!
# The JSON of a schema is read back

A schema is written as an object with a member for each table.  Nothing is
lost by this, although a table's name is only a key there and the positions of
the names are not written at all: the names are distinct, so the tables can be
inserted again one after another, and this gives every name its position.

Names, columns and constraints are raw text from a dump.  That they do not
disturb the JSON around them is a fact about all values and is settled where
values are decoded, so here only the values matter and not their texts.
-/

/-! ## Tables and schemas from values -/

def Json.text? : Json -> Option String
  | .string text => some text
  | _ => none

/-- The texts of an array of strings. -/
def Json.texts? : Json -> Option (Array String)
  | .array items => (items.mapM Json.text?).map List.toArray
  | _ => none

/-- The table of a name that a value describes.  Without a schema in the value
the table has none. -/
def Table.ofJson? (name : String) : Json -> Option Table
  | .object members => do
      let schema ← (members.lookup "schema").mapM Json.text?
      let columns ← (members.lookup "columns").bind Json.texts?
      let constraints ← (members.lookup "constraints").bind Json.texts?
      let indices ← (members.lookup "indices").bind Json.texts?
      return { name, schema, columns, constraints, indices }
  | _ => none

def Schema.ofJson? : Json -> Option Schema
  | .object members =>
      (members.mapM fun member => Table.ofJson? member.1 member.2).map Schema.ofList
  | _ => none

def Schema.ofText? (text : String) : Option Schema :=
  (Json.decode text).toOption.bind Schema.ofJson?

/-! ## Reading inverts writing -/

/-- What is read from each of the written elements is read from all of them. -/
theorem mapM_map_eq_some {α β : Type} {write : α -> β} {read : β -> Option α}
    (inverts : forall element, read (write element) = some element) (elements : List α) :
    (elements.map write).mapM read = some elements := by
  have each : read ∘ write = fun element => pure (id element) := funext inverts
  rw [List.mapM_map, each, List.mapM_pure, List.map_id]
  rfl

theorem Json.texts?_strings (texts : Array String) :
    Json.texts? (Json.strings texts.toList) = some texts := by
  have read : forall text, Json.text? (.string text) = some text := fun _ => rfl
  rw [Json.strings, Json.texts?, mapM_map_eq_some read]
  rfl

theorem Table.ofJson?_toJson (table : Table) :
    Table.ofJson? table.name table.toJson = some table := by
  cases table with
  | mk name schema columns constraints indices =>
      cases schema <;>
        simp [toJson, ofJson?, List.lookup_cons, Json.texts?_strings, Json.text?]

namespace Schema

/-- Inserting the tables of a schema again gives the schema. -/
theorem Consistent.ofList_toList {schema : Schema} (consistent : Consistent schema) :
    ofList schema.toList = schema := by
  apply (consistent_foldl consistent_empty _).ext consistent
  rw [← ofList, toList_ofList, latest_eq_self consistent.nodup_names]

/-- A consistent schema is known from its JSON. -/
theorem Consistent.ofJson?_toJson {schema : Schema} (consistent : Consistent schema) :
    ofJson? schema.toJson = some schema := by
  rw [toJson, ofJson?, mapM_map_eq_some Table.ofJson?_toJson, Option.map_some,
    consistent.ofList_toList]

/-- A consistent schema is known from the text of its JSON in either layout. -/
theorem Consistent.ofText?_render {schema : Schema} (consistent : Consistent schema)
    (layout : Json.Layout) : ofText? (schema.toJson.render layout) = some schema := by
  rw [ofText?, Json.decode_render]
  exact consistent.ofJson?_toJson

end Schema

/-! ## The JSON of a dump -/

/-- The members that tell what a table is: its schema, if it has one, and its
columns, constraints and indices. -/
def Table.members (table : Table) : List (String × Json) :=
  (table.schema.toList.map fun schema => ("schema", .string schema)) ++
    [("columns", .strings table.columns.toList),
     ("constraints", .strings table.constraints.toList),
     ("indices", .strings table.indices.toList)]

theorem Table.toJson_eq_object (table : Table) : table.toJson = .object table.members := by
  rw [toJson, members]
  cases table.schema <;> rfl

/-- The members that tell what a schema is: one for each table, under its name
and in its order. -/
def Schema.members (schema : Schema) : List (String × Json) :=
  schema.toList.map fun table => (table.name, .object table.members)

theorem Schema.toJson_eq_object (schema : Schema) : schema.toJson = .object schema.members := by
  rw [toJson, members]
  simp only [Table.toJson_eq_object]

/-- The keys of the members are the names of the tables. -/
theorem Schema.keys_members (schema : Schema) :
    schema.members.map Prod.fst = schema.names := by
  rw [members, names, List.map_map]
  rfl

/-- A text is JSON, it decodes to the members of a schema under distinct keys,
and the schema is recovered from it. -/
structure Schema.ToldBy (schema : Schema) (text : String) : Prop where
  valid : Json.Laid (.object schema.members) text.toList
  decoded : Json.decode text = .ok (.object schema.members)
  keys : schema.members.map Prod.fst = schema.names
  distinct : (schema.members.map Prod.fst).Nodup
  recovered : Schema.ofText? text = some schema

/-- The JSON of a consistent schema tells the schema, in either layout. -/
theorem Schema.Consistent.toldBy_render {schema : Schema} (consistent : Consistent schema)
    (layout : Json.Layout) : schema.ToldBy (schema.toJson.render layout) where
  valid := by
    rw [← schema.toJson_eq_object]
    exact Json.laid_render layout schema.toJson
  decoded := by
    rw [← schema.toJson_eq_object]
    exact Json.decode_render layout schema.toJson
  keys := schema.keys_members
  distinct := by
    rw [schema.keys_members]
    exact consistent.nodup_names
  recovered := consistent.ofText?_render layout

/-- Two texts have the same value exactly when they tell the same schema. -/
theorem Schema.ToldBy.decode_eq_iff {first second : Schema} {text otherText : String}
    (one : first.ToldBy text) (other : second.ToldBy otherText) :
    Json.decode text = Json.decode otherText ↔ first = second := by
  constructor
  · intro same
    have recovered := one.recovered
    rw [ofText?, same, ← ofText?, other.recovered] at recovered
    exact (Option.some.inj recovered).symm
  · intro same
    rw [one.decoded, other.decoded, same]

/-- The compact and the pretty JSON of a dump's tables tell the same schema
without loss.  Two dumps have the same JSON exactly when they declare the same
schema, whether texts of one layout are compared or the values of texts in any
two layouts. -/
theorem Dump.json_of_analyze_lossless (dump : String) :
    (forall layout, (analyze dump).ToldBy ((analyze dump).toJson.render layout)) ∧
      forall other,
        (forall layout,
          (analyze dump).toJson.render layout = (analyze other).toJson.render layout ↔
            analyze dump = analyze other) ∧
        (forall first second,
          Json.decode ((analyze dump).toJson.render first) =
              Json.decode ((analyze other).toJson.render second) ↔
            analyze dump = analyze other) := by
  have told := (consistent_analyze dump).toldBy_render
  refine ⟨told, fun other => ?_⟩
  have otherTold := (consistent_analyze other).toldBy_render
  have sameValue := fun first second => (told first).decode_eq_iff (otherTold second)
  refine ⟨fun layout => ?_, sameValue⟩
  constructor
  · intro same
    apply (sameValue layout layout).mp
    rw [same]
  · intro same
    rw [same]

end Recase
