import Recase.Schema

namespace Recase
namespace Schema

/-!
# The tables of a schema as a list

The positions of the names are there for speed.  What a schema means is the
list of its tables, and the two halves agree in every schema that is built by
insertion: a name has a position exactly when the table there carries the
name.  Under this agreement an insertion acts on the list alone, and nothing
about the positions has to be known any more.
-/

/-- A name has a position exactly when the table at the position carries the
name. -/
def Consistent (schema : Schema) : Prop :=
  forall (name : String) (position : Nat),
    schema.position? name = some position ↔
      (schema.tables[position]?).map (fun table => table.name) = some name

/-- Put a table in the place of the one that has its name, or at the end. -/
def place (table : Table) : List Table -> List Table
  | [] => [table]
  | head :: tail => if head.name = table.name then table :: tail else head :: place table tail

/-- If no table carries the name, a table is placed at the end. -/
theorem place_of_fresh (table : Table) (tables : List Table)
    (fresh : forall other, other ∈ tables -> other.name ≠ table.name) :
    place table tables = tables ++ [table] := by
  induction tables with
  | nil => rfl
  | cons head tail ih =>
    rw [place, if_neg (fresh head (List.mem_cons_self ..)),
      ih (fun other member => fresh other (List.mem_cons_of_mem _ member)), List.cons_append]

/-- If the first table with the name is at a position, a table is placed
there. -/
theorem place_eq_set (table : Table) (tables : List Table) (position : Nat)
    (found : (tables[position]?).map (fun other => other.name) = some table.name)
    (first : forall earlier, earlier < position ->
      (tables[earlier]?).map (fun other => other.name) ≠ some table.name) :
    place table tables = tables.set position table := by
  induction tables generalizing position with
  | nil => simp at found
  | cons head tail ih =>
    cases position with
    | zero =>
      have same : head.name = table.name := by simpa using found
      rw [place, if_pos same, List.set_cons_zero]
    | succ position =>
      have differs : head.name ≠ table.name := by
        have none := first 0 (Nat.zero_lt_succ _)
        simpa using none
      rw [place, if_neg differs, List.set_cons_succ]
      congr 1
      apply ih position
      · simpa using found
      · intro earlier before
        have none := first (earlier + 1) (Nat.succ_lt_succ before)
        simpa using none

theorem consistent_empty : Consistent empty := by
  intro name position
  simp [empty, position?]

/-- In a consistent schema the positions of two tables of one name are the
same. -/
theorem Consistent.position_unique {schema : Schema} (consistent : Consistent schema)
    {name : String} {first second : Nat}
    (atFirst : (schema.tables[first]?).map (fun table => table.name) = some name)
    (atSecond : (schema.tables[second]?).map (fun table => table.name) = some name) :
    first = second := by
  have one := (consistent name first).mpr atFirst
  have two := (consistent name second).mpr atSecond
  exact Option.some.inj (one.symm.trans two)

/-- A table that is pushed gets the position behind the last one. -/
theorem position?_push (schema : Schema) (table : Table) (name : String) :
    (schema.push table).position? name =
      if table.name = name then some schema.tables.size else schema.position? name := by
  unfold push position?
  rw [Std.ExtHashMap.getElem?_insert]
  simp only [beq_iff_eq]

/-- A table without a position is pushed. -/
theorem insert_of_fresh {schema : Schema} {table : Table}
    (fresh : schema.position? table.name = none) : schema.insert table = schema.push table := by
  simp only [insert, fresh]

/-- A table whose name has a position is put there. -/
theorem insert_of_known {schema : Schema} {table : Table} {position : Nat}
    (known : schema.position? table.name = some position) :
    schema.insert table =
      { schema with tables := schema.tables.setIfInBounds position table } := by
  simp only [insert, known]

/-- Insertion keeps the two halves of a schema in agreement. -/
theorem Consistent.insert {schema : Schema} (consistent : Consistent schema) (table : Table) :
    Consistent (schema.insert table) := by
  intro name position
  cases known : schema.position? table.name with
  | none =>
    rw [insert_of_fresh known]
    have absent : forall spot : Nat,
        (schema.tables[spot]?).map (fun other => other.name) ≠ some table.name := by
      intro spot present
      rw [(consistent table.name spot).mpr present] at known
      cases known
    by_cases same : table.name = name
    · subst same
      rw [position?_push, if_pos rfl, Option.some.injEq, push, Array.getElem?_push]
      constructor
      · intro last
        simp [last]
      · intro named
        by_cases last : position = schema.tables.size
        · exact last.symm
        · rw [if_neg last] at named
          exact absurd named (absent position)
    · rw [position?_push, if_neg same, consistent name position, push, Array.getElem?_push]
      by_cases last : position = schema.tables.size
      · simp [last, same]
      · rw [if_neg last]
  | some found =>
    rw [insert_of_known known]
    have named := (consistent table.name found).mp known
    change schema.position? name = some position ↔ _
    rw [consistent name position]
    have bound : found < schema.tables.size := by
      by_cases inside : found < schema.tables.size
      · exact inside
      · simp [Array.getElem?_eq_none (Nat.le_of_not_lt inside)] at named
    by_cases here : found = position
    · subst here
      rw [Array.getElem?_setIfInBounds_self_of_lt bound, named]
      simp
    · rw [Array.getElem?_setIfInBounds_ne here]

/-- Insertion acts on the list of the tables. -/
theorem toList_insert {schema : Schema} (consistent : Consistent schema) (table : Table) :
    (schema.insert table).toList = place table schema.toList := by
  cases known : schema.position? table.name with
  | none =>
    rw [insert_of_fresh known, toList, push, Array.toList_push, toList]
    symm
    apply place_of_fresh
    intro other member same
    obtain ⟨position, stands⟩ := List.getElem?_of_mem member
    have present : schema.position? table.name = some position := by
      rw [consistent, ← Array.getElem?_toList, stands, Option.map_some, same]
    rw [present] at known
    cases known
  | some position =>
    rw [insert_of_known known, toList, Array.toList_setIfInBounds, toList]
    have named := (consistent table.name position).mp known
    symm
    apply place_eq_set
    · rw [Array.getElem?_toList]
      exact named
    · intro earlier before again
      rw [Array.getElem?_toList] at again
      exact absurd (consistent.position_unique again named) (Nat.ne_of_lt before)

/-- Every schema that is built by insertion is consistent. -/
theorem consistent_foldl {schema : Schema} (consistent : Consistent schema)
    (tables : List Table) : Consistent (tables.foldl insert schema) := by
  induction tables generalizing schema with
  | nil => exact consistent
  | cons head tail ih => exact ih (consistent.insert head)

/-- Inserting tables one after another places them one after another. -/
theorem toList_foldl {schema : Schema} (consistent : Consistent schema) (tables : List Table) :
    (tables.foldl insert schema).toList =
      tables.foldl (fun placed table => place table placed) schema.toList := by
  induction tables generalizing schema with
  | nil => rfl
  | cons head tail ih =>
    rw [List.foldl_cons, List.foldl_cons, ih (consistent.insert head),
      toList_insert consistent]

end Schema
end Recase
