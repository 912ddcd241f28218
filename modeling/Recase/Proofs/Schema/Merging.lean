import Recase.Proofs.Schema.Latest

namespace Recase
namespace Schema

/-!
# Inserting the tables of one schema into another

Tables can be collected in a schema of their own before they are inserted
where they belong.  This gives the same schema as inserting them directly:
what is lost on the way are tables that a later table of the same name would
have replaced, and no position changes, since a name keeps the place of its
first appearance.

A consistent schema is known when its tables are.  The positions of the names
can then be left out of every comparison.
-/

/-- Consistent schemas with the same tables are the same. -/
theorem Consistent.ext {first second : Schema} (one : Consistent first)
    (other : Consistent second) (same : first.toList = second.toList) : first = second := by
  have tables : first.tables = second.tables := Array.toList_inj.mp same
  have positions : first.positions = second.positions := by
    apply Std.ExtHashMap.ext_getElem?
    intro name
    apply Option.ext
    intro position
    have here := one name position
    rw [tables, ← other name position] at here
    exact here
  cases first
  cases second
  rw [mk.injEq]
  exact ⟨tables, positions⟩

/-- No two tables of a consistent schema have the same name. -/
theorem Consistent.nodup_names {schema : Schema} (consistent : Consistent schema) :
    (schema.toList.map Table.name).Nodup := by
  rw [List.nodup_iff_getElem?_ne_getElem?]
  intro first second before bound same
  rw [List.getElem?_map, List.getElem?_map, toList, Array.getElem?_toList,
    Array.getElem?_toList] at same
  rw [List.length_map, toList, Array.length_toList] at bound
  have atSecond : (schema.tables[second]?).map Table.name = some schema.tables[second].name := by
    rw [Array.getElem?_eq_getElem bound, Option.map_some]
  exact Nat.ne_of_lt before (consistent.position_unique (same.trans atSecond) atSecond)

/-! ## Placing in two orders -/

theorem mem_names_place {table : Table} {tables : List Table} {name : String}
    (known : name ∈ tables.map Table.name) : name ∈ (place table tables).map Table.name := by
  induction tables with
  | nil => cases known
  | cons head tail inductionHypothesis =>
      rw [place]
      split
      · rename_i same
        rw [List.map_cons, List.mem_cons, same] at known
        rw [List.map_cons, List.mem_cons]
        exact known
      · rw [List.map_cons, List.mem_cons] at known ⊢
        exact known.imp_right inductionHypothesis

/-- Of two tables with one name the second takes the place of the first. -/
theorem place_place_of_same {first second : Table} (same : first.name = second.name)
    (tables : List Table) : place second (place first tables) = place second tables := by
  induction tables with
  | nil => exact if_pos same
  | cons head tail inductionHypothesis =>
      rw [place]
      split
      · rename_i here
        rw [place, if_pos same, place, if_pos (here.trans same)]
      · rename_i other
        rw [same] at other
        rw [place, if_neg other, inductionHypothesis, place, if_neg other]

/-- A table whose name is known may be placed before another one or behind
it. -/
theorem place_place_of_known {first second : Table} (apart : first.name ≠ second.name)
    {tables : List Table} (known : second.name ∈ tables.map Table.name) :
    place second (place first tables) = place first (place second tables) := by
  induction tables with
  | nil => cases known
  | cons head tail inductionHypothesis =>
      by_cases atFirst : head.name = first.name
      · have notSecond : head.name ≠ second.name := fun same => apart (atFirst.symm.trans same)
        rw [place, if_pos atFirst, place, if_neg apart, place, if_neg notSecond, place,
          if_pos atFirst]
      · by_cases atSecond : head.name = second.name
        · rw [place, if_neg atFirst, place, if_pos atSecond, place, if_pos atSecond, place,
            if_neg (Ne.symm apart)]
        · have later : second.name ∈ tail.map Table.name := by
            rw [List.map_cons, List.mem_cons] at known
            exact known.resolve_left (Ne.symm atSecond)
          rw [place, if_neg atFirst, place, if_neg atSecond, inductionHypothesis later, place,
            if_neg atSecond, place, if_neg atFirst]

/-- A known table may be placed before tables of other names or behind
them. -/
theorem foldl_place_of_known {table : Table} {others placed : List Table}
    (apart : table.name ∉ others.map Table.name) (known : table.name ∈ placed.map Table.name) :
    others.foldl (fun placed other => place other placed) (place table placed) =
      place table (others.foldl (fun placed other => place other placed) placed) := by
  induction others generalizing placed with
  | nil => rfl
  | cons head tail inductionHypothesis =>
      rw [List.map_cons, List.mem_cons, not_or] at apart
      rw [List.foldl_cons, List.foldl_cons,
        ← place_place_of_known (Ne.symm apart.1) known,
        inductionHypothesis apart.2 (mem_names_place known)]

theorem mem_names_place_self (table : Table) (tables : List Table) :
    table.name ∈ (place table tables).map Table.name := by
  induction tables with
  | nil => exact List.mem_cons_self
  | cons head tail inductionHypothesis =>
      rw [place]
      split
      · exact List.mem_cons_self
      · exact List.mem_cons_of_mem _ inductionHypothesis

/-- A table that is added to a collection is placed last when the collection
is.  In the collection it may have taken the place of another table, which
then is not placed at all. -/
theorem foldl_place_place (table : Table) {collected : List Table}
    (distinct : (collected.map Table.name).Nodup) (placed : List Table) :
    (place table collected).foldl (fun placed other => place other placed) placed =
      place table (collected.foldl (fun placed other => place other placed) placed) := by
  induction collected generalizing placed with
  | nil => rfl
  | cons head tail inductionHypothesis =>
      have parts := List.nodup_cons.mp distinct
      rw [place]
      split
      · rename_i same
        have apart : table.name ∉ tail.map Table.name := by
          rw [← same]
          exact parts.1
        have known : table.name ∈ (place head placed).map Table.name := by
          rw [← same]
          exact mem_names_place_self head placed
        rw [List.foldl_cons, List.foldl_cons, ← foldl_place_of_known apart known,
          place_place_of_same same]
      · rw [List.foldl_cons, List.foldl_cons, inductionHypothesis parts.2]

/-- Collecting tables before they are placed makes no difference. -/
theorem foldl_place_latest (tables placed : List Table) :
    (latest tables).foldl (fun placed other => place other placed) placed =
      tables.foldl (fun placed other => place other placed) placed := by
  induction tables using List.reverseRecOn with
  | nil => rfl
  | append_singleton tables table inductionHypothesis =>
      have distinct : ((latest tables).map Table.name).Nodup := by
        rw [names_latest]
        exact nodup_distinctNames tables
      rw [← place_latest, foldl_place_place table distinct, inductionHypothesis,
        List.foldl_append, List.foldl_cons, List.foldl_nil]

/-- Inserting the tables of a schema that was built from a list is inserting
those of the list. -/
theorem foldl_insert_ofList {schema : Schema} (consistent : Consistent schema)
    (tables : List Table) :
    (ofList tables).toList.foldl insert schema = tables.foldl insert schema := by
  apply (consistent_foldl consistent _).ext (consistent_foldl consistent _)
  rw [toList_foldl consistent, toList_foldl consistent, toList_ofList, foldl_place_latest]

end Schema
end Recase
