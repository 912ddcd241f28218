import Mathlib.Data.List.Induction
import Mathlib.Data.List.Nodup
import Recase.Schema.Lemmas

namespace Recase
namespace Schema

/-!
# The last table of every name

Which tables remain when a list of them is inserted one after another can be
said without the insertion.  There is one table for every name in the list,
the names come in the order of their first appearance, and each of them has
the last table that carries it.
-/

def distinctNames (tables : List Table) : List String :=
  (tables.map Table.name).eraseDups

def lastNamed (tables : List Table) (name : String) : Option Table :=
  tables.findRev? fun table => table.name == name

/-- One table for every name: the names in the order of their first
appearance, each with the last table that carries it. -/
def latest (tables : List Table) : List Table :=
  (distinctNames tables).filterMap (lastNamed tables)

/-! ## The distinct names -/

theorem mem_distinctNames {tables : List Table} {name : String} :
    name ∈ distinctNames tables ↔ name ∈ tables.map Table.name :=
  List.mem_eraseDups

/-- A name is added at the end, unless it is among the names already. -/
theorem distinctNames_concat (tables : List Table) (table : Table) :
    distinctNames (tables ++ [table]) =
      if table.name ∈ tables.map Table.name then distinctNames tables
      else distinctNames tables ++ [table.name] := by
  rw [distinctNames, List.map_append, List.eraseDups_append, List.map_singleton,
    List.cons_removeAll, List.nil_removeAll, List.contains_eq_mem]
  by_cases known : table.name ∈ tables.map Table.name
  · rw [if_pos known, decide_eq_true known]
    exact List.append_nil _
  · rw [if_neg known, decide_eq_false known]
    rfl

theorem nodup_distinctNames (tables : List Table) : (distinctNames tables).Nodup := by
  induction tables using List.reverseRecOn with
  | nil => exact List.nodup_nil
  | append_singleton tables table inductionHypothesis =>
      rw [distinctNames_concat]
      by_cases known : table.name ∈ tables.map Table.name
      · rw [if_pos known]
        exact inductionHypothesis
      · rw [if_neg known]
        apply List.Nodup.append inductionHypothesis (List.nodup_singleton table.name)
        intro name before here
        rw [List.mem_singleton.mp here] at before
        exact known (mem_distinctNames.mp before)

/-! ## The last table of a name -/

/-- The table that is added last is found under its own name, and hides no
table of another name. -/
theorem lastNamed_concat (tables : List Table) (table : Table) (name : String) :
    lastNamed (tables ++ [table]) name =
      if table.name = name then some table else lastNamed tables name := by
  rw [lastNamed, lastNamed, List.findRev?_eq_find?_reverse, List.findRev?_eq_find?_reverse,
    List.reverse_append, List.reverse_singleton, List.singleton_append, List.find?_cons]
  by_cases same : table.name = name
  · rw [if_pos same, beq_iff_eq.mpr same]
  · rw [if_neg same, beq_eq_false_iff_ne.mpr same]

/-- Looked for from the end, an item is followed by items that are not accepted. -/
theorem findRev?_eq_some_iff_append {Item : Type} {accepts : Item -> Bool} {items : List Item}
    {item : Item} :
    items.findRev? accepts = some item ↔
      accepts item = true ∧ Exists fun before => Exists fun after =>
        items = before ++ item :: after ∧ forall later, later ∈ after -> accepts later = false := by
  rw [List.findRev?_eq_find?_reverse, List.find?_eq_some_iff_append]
  simp only [Bool.not_eq_true']
  constructor
  · rintro ⟨accepted, after, before, split, others⟩
    refine ⟨accepted, before.reverse, after.reverse, ?_, ?_⟩
    · rw [← List.reverse_reverse items, split, List.reverse_append, List.reverse_cons,
        List.append_assoc, List.singleton_append]
    · intro later member
      exact others later (List.mem_reverse.mp member)
  · rintro ⟨accepted, before, after, split, others⟩
    refine ⟨accepted, after.reverse, before.reverse, ?_, ?_⟩
    · rw [split, List.reverse_append, List.reverse_cons, List.append_assoc, List.singleton_append]
    · intro later member
      exact others later (List.mem_reverse.mp member)

/-- The last table of a name is followed by tables of other names only. -/
theorem lastNamed_eq_some_iff {tables : List Table} {name : String} {table : Table} :
    lastNamed tables name = some table ↔
      Exists fun before => Exists fun after =>
        tables = before ++ table :: after ∧ table.name = name ∧
          forall other, other ∈ after -> other.name ≠ name := by
  rw [lastNamed, findRev?_eq_some_iff_append]
  simp only [beq_iff_eq, beq_eq_false_iff_ne]
  constructor
  · rintro ⟨named, before, after, split, others⟩
    exact ⟨before, after, split, named, others⟩
  · rintro ⟨before, after, split, named, others⟩
    exact ⟨named, before, after, split, others⟩

theorem name_of_lastNamed {tables : List Table} {name : String} {table : Table}
    (found : lastNamed tables name = some table) : table.name = name := by
  rw [lastNamed, List.findRev?_eq_find?_reverse] at found
  have carries := List.find?_some found
  exact beq_iff_eq.mp carries

theorem mem_of_lastNamed {tables : List Table} {name : String} {table : Table}
    (found : lastNamed tables name = some table) : table ∈ tables := by
  rw [lastNamed, List.findRev?_eq_find?_reverse] at found
  exact List.mem_reverse.mp (List.mem_of_find?_eq_some found)

theorem lastNamed_of_mem {tables : List Table} {name : String}
    (member : name ∈ tables.map Table.name) :
    Exists fun table => lastNamed tables name = some table := by
  rw [lastNamed, List.findRev?_eq_find?_reverse]
  apply Option.isSome_iff_exists.mp
  rw [List.find?_isSome]
  rcases List.mem_map.mp member with ⟨table, listed, named⟩
  exact ⟨table, List.mem_reverse.mpr listed, beq_iff_eq.mpr named⟩

/-- Looking up names gives one table for each, as long as all of them are
carried by some table. -/
private theorem names_filterMap_lastNamed (tables : List Table) (names : List String)
    (carried : forall name, name ∈ names -> name ∈ tables.map Table.name) :
    (names.filterMap (lastNamed tables)).map Table.name = names := by
  induction names with
  | nil => rfl
  | cons name names inductionHypothesis =>
      rcases lastNamed_of_mem (carried name List.mem_cons_self) with ⟨table, found⟩
      rw [List.filterMap_cons_some found, List.map_cons, name_of_lastNamed found,
        inductionHypothesis fun other member => carried other (List.mem_cons_of_mem _ member)]

theorem names_latest (tables : List Table) :
    (latest tables).map Table.name = distinctNames tables :=
  names_filterMap_lastNamed tables _ fun _ member => mem_distinctNames.mp member

theorem mem_of_mem_latest {tables : List Table} {table : Table}
    (member : table ∈ latest tables) : table ∈ tables := by
  rcases List.mem_filterMap.mp member with ⟨name, _, found⟩
  exact mem_of_lastNamed found

/-! ## Insertion keeps the last table of every name -/

/-- If the names of tables are distinct, a table takes the place of the one
that has its name and of no other. -/
theorem place_of_known (table : Table) (tables : List Table)
    (distinct : (tables.map Table.name).Nodup) (known : table.name ∈ tables.map Table.name) :
    place table tables =
      tables.map fun other => if other.name = table.name then table else other := by
  induction tables with
  | nil => cases known
  | cons head tail inductionHypothesis =>
      have parts := List.nodup_cons.mp distinct
      rw [place, List.map_cons]
      by_cases same : head.name = table.name
      · have untouched : forall other, other ∈ tail ->
            (if other.name = table.name then table else other) = other := by
          intro other member
          apply if_neg
          intro again
          exact parts.1 (List.mem_map.mpr ⟨other, member, again.trans same.symm⟩)
        rw [if_pos same, if_pos same, List.map_congr_left untouched, List.map_id']
      · rw [if_neg same, if_neg same]
        congr 1
        apply inductionHypothesis parts.2
        rcases List.mem_cons.mp known with here | later
        · exact absurd here.symm same
        · exact later

/-- Placing one more table changes the list as one more table in the row
does. -/
theorem place_latest (tables : List Table) (table : Table) :
    place table (latest tables) = latest (tables ++ [table]) := by
  have lookup := lastNamed_concat tables table
  by_cases known : table.name ∈ tables.map Table.name
  · have distinct : ((latest tables).map Table.name).Nodup := by
      rw [names_latest]
      exact nodup_distinctNames tables
    have present : table.name ∈ (latest tables).map Table.name := by
      rw [names_latest]
      exact mem_distinctNames.mpr known
    rw [place_of_known table _ distinct present, latest, latest, distinctNames_concat,
      if_pos known, List.map_filterMap]
    apply List.filterMap_congr
    intro name member
    rcases lastNamed_of_mem (mem_distinctNames.mp member) with ⟨other, found⟩
    rw [lookup, found, Option.map_some, name_of_lastNamed found]
    by_cases same : table.name = name
    · rw [if_pos same, if_pos same.symm]
    · rw [if_neg same, if_neg (Ne.symm same)]
  · have fresh : forall other, other ∈ latest tables -> other.name ≠ table.name := by
      intro other member same
      exact known (List.mem_map.mpr ⟨other, mem_of_mem_latest member, same⟩)
    have kept : forall name, name ∈ distinctNames tables ->
        lastNamed (tables ++ [table]) name = lastNamed tables name := by
      intro name member
      rw [lookup]
      apply if_neg
      intro same
      exact known (same ▸ mem_distinctNames.mp member)
    have added : lastNamed (tables ++ [table]) table.name = some table := by
      rw [lookup, if_pos rfl]
    rw [place_of_fresh table _ fresh, latest, latest, distinctNames_concat, if_neg known,
      List.filterMap_append, List.filterMap_congr kept, List.filterMap_cons_some added,
      List.filterMap_nil]

/-- If no name comes twice, all tables remain. -/
theorem latest_eq_self {tables : List Table} (distinct : (tables.map Table.name).Nodup) :
    latest tables = tables := by
  induction tables using List.reverseRecOn with
  | nil => rfl
  | append_singleton tables table inductionHypothesis =>
      rw [List.map_append, List.map_singleton, List.nodup_append] at distinct
      rcases distinct with ⟨earlier, _, apart⟩
      have fresh : forall other, other ∈ tables -> other.name ≠ table.name := by
        intro other member
        exact apart other.name (List.mem_map_of_mem member) table.name List.mem_cons_self
      rw [← place_latest, inductionHypothesis earlier, place_of_fresh table tables fresh]

/-- Placing tables one after another leaves the last one of every name. -/
theorem foldl_place_eq_latest (tables : List Table) :
    tables.foldl (fun placed table => place table placed) [] = latest tables := by
  induction tables using List.reverseRecOn with
  | nil => rfl
  | append_singleton tables table inductionHypothesis =>
      rw [List.foldl_append, inductionHypothesis, List.foldl_cons, List.foldl_nil, place_latest]

/-- The tables of a schema that is built from a list. -/
theorem toList_ofList (tables : List Table) : (ofList tables).toList = latest tables := by
  rw [ofList, toList_foldl consistent_empty]
  exact foldl_place_eq_latest tables

theorem nodup_names_ofList (tables : List Table) :
    ((ofList tables).toList.map Table.name).Nodup := by
  rw [toList_ofList, names_latest]
  exact nodup_distinctNames tables

end Schema
end Recase
