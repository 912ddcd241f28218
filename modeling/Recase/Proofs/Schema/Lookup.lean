import Recase.Proofs.Schema.Merging

namespace Recase
namespace Schema

/-!
# Tables found by their names

A table is found by looking up the position of its name and then what stands
there.  In a consistent schema this never leads past the last table, and it
finds the table of the name whenever there is one.  Together with what is
known of the list of the tables this settles every question to a schema that
is built by insertion: the answer is that for the last table that was inserted
under the name.
-/

variable {schema : Schema}

/-! ## Positions in a consistent schema -/

/-- A position that is kept for a name is that of a table, and the table
carries the name. -/
theorem Consistent.position?_eq_some_iff (consistent : Consistent schema) {name : String}
    {position : Nat} :
    schema.position? name = some position ↔
      Exists fun inside : position < schema.tables.size =>
        schema.tables[position].name = name := by
  rw [consistent name position, Option.map_eq_some_iff]
  constructor
  · rintro ⟨table, stands, named⟩
    rcases Array.getElem?_eq_some_iff.mp stands with ⟨inside, same⟩
    exact ⟨inside, same ▸ named⟩
  · rintro ⟨inside, named⟩
    exact ⟨schema.tables[position], Array.getElem?_eq_getElem inside, named⟩

/-- What is found under a name is the table at its position. -/
theorem Consistent.get?_of_position? (consistent : Consistent schema) {name : String}
    {position : Nat} (known : schema.position? name = some position) :
    Exists fun inside : position < schema.tables.size =>
      schema.get? name = some schema.tables[position] := by
  rcases consistent.position?_eq_some_iff.mp known with ⟨inside, _⟩
  refine ⟨inside, ?_⟩
  simp only [get?, known, Array.getElem?_eq_getElem inside]

/-- A table that replaces another one is put at a position that there is. -/
theorem Consistent.insert_of_position? (consistent : Consistent schema) {table : Table}
    {position : Nat} (known : schema.position? table.name = some position) :
    Exists fun inside : position < schema.tables.size =>
      schema.insert table = { schema with tables := schema.tables.set position table inside } := by
  rcases consistent.position?_eq_some_iff.mp known with ⟨inside, _⟩
  refine ⟨inside, ?_⟩
  rw [insert_of_known known, Array.setIfInBounds, dif_pos inside]

/-- The table of a name is found if there is one, and nothing else is. -/
theorem Consistent.get?_eq_some_iff (consistent : Consistent schema) {name : String}
    {table : Table} :
    schema.get? name = some table ↔ table ∈ schema.toList ∧ table.name = name := by
  constructor
  · intro found
    cases known : schema.position? name with
    | none =>
        simp only [get?, known] at found
        cases found
    | some position =>
        rcases consistent.position?_eq_some_iff.mp known with ⟨inside, named⟩
        simp only [get?, known, Array.getElem?_eq_getElem inside, Option.some.injEq] at found
        rw [← found]
        exact ⟨Array.mem_toList_iff.mpr (Array.getElem_mem inside), named⟩
  · rintro ⟨member, named⟩
    rcases List.getElem?_of_mem member with ⟨position, stands⟩
    rw [toList, Array.getElem?_toList] at stands
    have known : schema.position? name = some position := by
      rw [consistent, stands, Option.map_some, named]
    simp only [get?, known, stands]

theorem contains_eq_isSome_position? (schema : Schema) (name : String) :
    schema.contains name = (schema.position? name).isSome := by
  exact (Std.ExtHashMap.isSome_getElem?_eq_contains ..).symm

theorem Consistent.contains_eq (consistent : Consistent schema) (name : String) :
    schema.contains name = (schema.get? name).isSome := by
  rw [contains_eq_isSome_position?]
  cases known : schema.position? name with
  | none =>
      simp only [get?, known]
      rfl
  | some position =>
      rcases consistent.get?_of_position? known with ⟨_, found⟩
      rw [found]
      rfl

/-! ## The last table of a name -/

theorem mem_latest_iff {tables : List Table} {table : Table} :
    table ∈ latest tables ↔ lastNamed tables table.name = some table := by
  rw [latest, List.mem_filterMap]
  constructor
  · rintro ⟨name, _, found⟩
    rw [name_of_lastNamed found]
    exact found
  · intro found
    have carried : table.name ∈ tables.map Table.name :=
      List.mem_map_of_mem (mem_of_lastNamed found)
    exact ⟨table.name, mem_distinctNames.mpr carried, found⟩

theorem consistent_ofList (tables : List Table) : (ofList tables).Consistent :=
  consistent_foldl consistent_empty tables

/-- In a schema that is built by insertion the last table of a name is found
under it. -/
theorem get?_ofList (tables : List Table) (name : String) :
    (ofList tables).get? name = lastNamed tables name := by
  apply Option.ext
  intro table
  rw [(consistent_ofList tables).get?_eq_some_iff, toList_ofList, mem_latest_iff]
  constructor
  · rintro ⟨found, rfl⟩
    exact found
  · intro found
    have named := name_of_lastNamed found
    exact ⟨named ▸ found, named⟩

/-! ## Schemas built by insertion -/

/-- What a schema has to answer when the given tables have been inserted one
after another. -/
structure Records (inserted : List Table) (schema : Schema) : Prop where
  /-- A name has a position exactly if it is that of a table with the name. -/
  positions : forall name position, schema.position? name = some position ↔
    Exists fun inside : position < schema.tables.size => schema.tables[position].name = name
  /-- The position of a name is looked at to find its table. -/
  found : forall name position, schema.position? name = some position ->
    Exists fun inside : position < schema.tables.size =>
      schema.get? name = some schema.tables[position]
  /-- The position of a name is where the next table of the name is put. -/
  replaced : forall table position, schema.position? table.name = some position ->
    Exists fun inside : position < schema.tables.size =>
      schema.insert table = { schema with tables := schema.tables.set position table inside }
  distinct : schema.names.Nodup
  /-- The last table that was inserted under a name is found. -/
  last : forall name table, schema.get? name = some table ↔
    Exists fun before => Exists fun after =>
      inserted = before ++ table :: after ∧ table.name = name ∧
        forall other, other ∈ after -> other.name ≠ name
  /-- Nothing is found under a name if nothing was inserted under it. -/
  absent : forall name, schema.get? name = none ↔
    forall table, table ∈ inserted -> table.name ≠ name
  contained : forall name, schema.contains name = (schema.get? name).isSome
  names : schema.names = (inserted.map Table.name).eraseDups

/-- A schema that is built by insertion answers for the inserted tables, and
two of them are the same exactly if their tables are. -/
theorem records_ofList (inserted : List Table) :
    Records inserted (ofList inserted) ∧
      forall others, ofList inserted = ofList others ↔
        (ofList inserted).toList = (ofList others).toList := by
  have consistent := consistent_ofList inserted
  constructor
  · exact
      { positions := fun name position => consistent.position?_eq_some_iff
        found := fun name position => consistent.get?_of_position?
        replaced := fun table position => consistent.insert_of_position?
        distinct := consistent.nodup_names
        last := fun name table => by rw [get?_ofList, lastNamed_eq_some_iff]
        absent := fun name => by
          rw [get?_ofList, lastNamed, List.findRev?_eq_find?_reverse, List.find?_eq_none]
          simp only [List.mem_reverse, beq_iff_eq, ne_eq]
        contained := consistent.contains_eq
        names := by
          rw [names, toList_ofList]
          exact names_latest inserted }
  · intro others
    constructor
    · exact congrArg toList
    · exact consistent.ext (consistent_ofList others)

end Schema
end Recase
