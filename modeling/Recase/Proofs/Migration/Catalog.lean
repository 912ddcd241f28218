import Mathlib.Data.Finmap
import Recase.Proofs.Script.Statements

namespace Recase

/-!
# Catalogs

A catalog says which tables a database has and which columns they have.  A
statement changes it, provided that it can be carried out at all: a rename
needs what it renames, and the new name must not be taken.  A drop is written
so that it does nothing when the table is missing.

A catalog is compared with the list of tables that it is made of.  The lemmas
below say what a statement does to the entry of one table in such a list while
the others stay where they are.
-/

/-- Where a table is found in a database. -/
structure Place where
  schema : String
  table : String
  deriving DecidableEq

/-- The tables of a database with their columns. -/
abbrev Catalog := Finmap fun _ : Place => List String

namespace Catalog

/-! ## Carrying out statements -/

/-- Whether a statement finds what it renames, and finds the new name free. -/
def Admits (catalog : Catalog) : Statement -> Prop
  | .dropTable _ _ => True
  | .renameTable rename =>
      ⟨rename.schema, rename.source⟩ ∈ catalog ∧ ⟨rename.schema, rename.target⟩ ∉ catalog
  | .renameColumn rename =>
      Exists fun columns : List String =>
        catalog.lookup ⟨rename.schema, rename.table⟩ = some columns ∧
          rename.source ∈ columns ∧ rename.target ∉ columns

/-- Carry out a statement.  There is no result if it is not admitted. -/
def run? (catalog : Catalog) : Statement -> Option Catalog
  | .dropTable schema table => some (catalog.erase ⟨schema, table⟩)
  | .renameTable rename =>
      match catalog.lookup ⟨rename.schema, rename.source⟩ with
      | none => none
      | some columns =>
          if ⟨rename.schema, rename.target⟩ ∈ catalog then none
          else
            some ((catalog.erase ⟨rename.schema, rename.source⟩).insert
              ⟨rename.schema, rename.target⟩ columns)
  | .renameColumn rename =>
      match catalog.lookup ⟨rename.schema, rename.table⟩ with
      | none => none
      | some columns =>
          if rename.source ∈ columns ∧ rename.target ∉ columns then
            some (catalog.insert ⟨rename.schema, rename.table⟩
              (columns.map fun column => if column = rename.source then rename.target else column))
          else none

def runAll? (catalog : Catalog) (statements : List Statement) : Option Catalog :=
  statements.foldlM run? catalog

theorem runAll?_nil (catalog : Catalog) : catalog.runAll? [] = some catalog :=
  rfl

theorem runAll?_singleton (catalog : Catalog) (statement : Statement) :
    catalog.runAll? [statement] = catalog.run? statement := by
  rw [runAll?, List.foldlM_cons]
  exact bind_pure _

theorem runAll?_append (catalog : Catalog) (first second : List Statement) :
    catalog.runAll? (first ++ second) =
      (catalog.runAll? first).bind fun reached => reached.runAll? second :=
  List.foldlM_append

theorem admits_of_run? {catalog next : Catalog} {statement : Statement}
    (run : catalog.run? statement = some next) : catalog.Admits statement := by
  cases statement with
  | dropTable schema table => trivial
  | renameTable rename =>
      rw [run?] at run
      cases found : catalog.lookup ⟨rename.schema, rename.source⟩ with
      | none =>
          rw [found] at run
          cases run
      | some columns =>
          rw [found] at run
          by_cases taken : (⟨rename.schema, rename.target⟩ : Place) ∈ catalog
          · simp only [if_pos taken] at run
            cases run
          · exact ⟨Finmap.mem_of_lookup_eq_some found, taken⟩
  | renameColumn rename =>
      rw [run?] at run
      cases found : catalog.lookup ⟨rename.schema, rename.table⟩ with
      | none =>
          rw [found] at run
          cases run
      | some columns =>
          rw [found] at run
          by_cases possible : rename.source ∈ columns ∧ rename.target ∉ columns
          · exact ⟨columns, found, possible⟩
          · simp only [if_neg possible] at run
            cases run

/-- If a list of statements is carried out, each of them is admitted by what
the earlier ones leave. -/
theorem admits_of_runAll? {catalog final : Catalog} {before after : List Statement}
    {statement : Statement}
    (run : catalog.runAll? (before ++ statement :: after) = some final) :
    Exists fun reached => catalog.runAll? before = some reached ∧ reached.Admits statement := by
  rw [runAll?_append] at run
  rcases Option.bind_eq_some_iff.mp run with ⟨reached, early, late⟩
  rw [← List.singleton_append, runAll?_append, runAll?_singleton] at late
  rcases Option.bind_eq_some_iff.mp late with ⟨next, step, _⟩
  exact ⟨reached, early, admits_of_run? step⟩

/-- Go through a list of items with some statements for each.  If the
statements of an item lead from the state before it to the state after it,
all of them together lead from the first state to the last. -/
theorem runAll?_flatMap {Item : Type} (items : List Item)
    (state : List Item -> List Item -> Catalog) (work : Item -> List Statement)
    (step : forall done item todo, items = done ++ item :: todo ->
      (state done (item :: todo)).runAll? (work item) = some (state (done ++ [item]) todo)) :
    (state [] items).runAll? (items.flatMap work) = some (state items []) := by
  have progress : forall done todo, items = done ++ todo ->
      (state done todo).runAll? (todo.flatMap work) = some (state items []) := by
    intro done todo
    induction todo generalizing done with
    | nil =>
        intro split
        rw [split, List.append_nil]
        rfl
    | cons item todo inductionHypothesis =>
        intro split
        rw [List.flatMap_cons, runAll?_append, step done item todo split, Option.bind_some]
        apply inductionHypothesis
        rw [split, List.append_assoc, List.singleton_append]
  exact progress [] items rfl

/-! ## Catalogs that are given by their entries -/

/-- The catalog with the listed tables.  The places are meant to be
different. -/
def ofEntries : List (Place × List String) -> Catalog
  | [] => ∅
  | entry :: others => (ofEntries others).insert entry.1 entry.2

theorem lookup_ofEntries_cons (entry : Place × List String) (others : List (Place × List String))
    (place : Place) :
    (ofEntries (entry :: others)).lookup place =
      if entry.1 = place then some entry.2 else (ofEntries others).lookup place := by
  rw [ofEntries]
  by_cases same : entry.1 = place
  · rw [if_pos same, ← same]
    exact Finmap.lookup_insert _
  · rw [if_neg same]
    exact Finmap.lookup_insert_of_ne _ (Ne.symm same)

theorem mem_ofEntries {entries : List (Place × List String)} {place : Place} :
    place ∈ ofEntries entries ↔ place ∈ entries.map Prod.fst := by
  induction entries with
  | nil =>
      rw [List.map_nil]
      exact iff_of_false Finmap.notMem_empty List.not_mem_nil
  | cons entry others inductionHypothesis =>
      rw [ofEntries, Finmap.mem_insert, inductionHypothesis, List.map_cons, List.mem_cons]

/-- Entries at other places do not matter when a place is looked up. -/
theorem lookup_ofEntries_append {early : List (Place × List String)} {place : Place}
    (elsewhere : place ∉ early.map Prod.fst) (late : List (Place × List String)) :
    (ofEntries (early ++ late)).lookup place = (ofEntries late).lookup place := by
  induction early with
  | nil => rfl
  | cons entry early inductionHypothesis =>
      have differs := List.ne_of_not_mem_cons elsewhere
      rw [List.cons_append, lookup_ofEntries_cons, if_neg (Ne.symm differs),
        inductionHypothesis (List.not_mem_of_not_mem_cons elsewhere)]

theorem lookup_ofEntries_middle {early : List (Place × List String)} {place : Place}
    (elsewhere : place ∉ early.map Prod.fst) (columns : List String)
    (late : List (Place × List String)) :
    (ofEntries (early ++ (place, columns) :: late)).lookup place = some columns := by
  rw [lookup_ofEntries_append elsewhere, lookup_ofEntries_cons, if_pos rfl]

/-- What stands in one place between the others does not matter when another
place is looked up. -/
theorem lookup_ofEntries_ne {first second : Place × List String} {place : Place}
    (early late : List (Place × List String)) (differs : first.1 ≠ place)
    (alsoDiffers : second.1 ≠ place) :
    (ofEntries (early ++ first :: late)).lookup place =
      (ofEntries (early ++ second :: late)).lookup place := by
  induction early with
  | nil =>
      rw [List.nil_append, List.nil_append, lookup_ofEntries_cons, lookup_ofEntries_cons,
        if_neg differs, if_neg alsoDiffers]
  | cons entry early inductionHypothesis =>
      rw [List.cons_append, List.cons_append, lookup_ofEntries_cons, lookup_ofEntries_cons,
        inductionHypothesis]

/-- A catalog whose places are different has exactly the listed tables. -/
theorem lookup_ofEntries_eq_some_iff {entries : List (Place × List String)}
    (distinct : (entries.map Prod.fst).Nodup) {place : Place} {columns : List String} :
    (ofEntries entries).lookup place = some columns ↔ (place, columns) ∈ entries := by
  constructor
  · intro found
    induction entries with
    | nil => cases found
    | cons entry others inductionHypothesis =>
        rw [lookup_ofEntries_cons] at found
        by_cases same : entry.1 = place
        · rw [if_pos same] at found
          have equal : entry = (place, columns) := Prod.ext same (Option.some.inj found)
          exact List.mem_cons.mpr (Or.inl equal.symm)
        · rw [if_neg same] at found
          exact List.mem_cons_of_mem _
            (inductionHypothesis (List.nodup_cons.mp distinct).2 found)
  · intro member
    rcases List.append_of_mem member with ⟨early, late, split⟩
    rw [split, List.map_append, List.map_cons, List.nodup_middle] at distinct
    rw [split]
    apply lookup_ofEntries_middle
    intro before
    exact (List.nodup_cons.mp distinct).1 (List.mem_append_left _ before)

/-! ## What a statement does to the entries -/

theorem erase_ofEntries (entries : List (Place × List String)) (place : Place) :
    (ofEntries entries).erase place = ofEntries (entries.filter fun entry => entry.1 ≠ place) := by
  induction entries with
  | nil =>
      apply Finmap.ext_lookup
      intro other
      by_cases same : other = place
      · rw [same, Finmap.lookup_erase]
        rfl
      · exact Finmap.lookup_erase_ne same
  | cons entry others inductionHypothesis =>
      by_cases here : entry.1 = place
      · rw [List.filter_cons, if_neg (by simp [here]), ← inductionHypothesis]
        apply Finmap.ext_lookup
        intro other
        by_cases same : other = place
        · rw [same, Finmap.lookup_erase, Finmap.lookup_erase]
        · rw [Finmap.lookup_erase_ne same, Finmap.lookup_erase_ne same, lookup_ofEntries_cons,
            here, if_neg (Ne.symm same)]
      · rw [List.filter_cons, if_pos (by simp [here])]
        apply Finmap.ext_lookup
        intro other
        rw [lookup_ofEntries_cons, ← inductionHypothesis]
        by_cases same : other = place
        · rw [same, Finmap.lookup_erase, Finmap.lookup_erase, if_neg here]
        · rw [Finmap.lookup_erase_ne same, Finmap.lookup_erase_ne same, lookup_ofEntries_cons]

/-- A drop takes the entry of the table away, if there is one. -/
theorem run?_dropTable (entries : List (Place × List String)) (schema table : String) :
    (ofEntries entries).run? (.dropTable schema table) =
      some (ofEntries (entries.filter fun entry => entry.1 ≠ ⟨schema, table⟩)) :=
  congrArg some (erase_ofEntries entries _)

/-- A table whose place is its own moves to a place that is free. -/
theorem run?_renameTable {early late : List (Place × List String)} (columns : List String)
    {rename : TableRename}
    (alone : (⟨rename.schema, rename.source⟩ : Place) ∉ (early ++ late).map Prod.fst)
    (free : (⟨rename.schema, rename.target⟩ : Place) ∉ (early ++ late).map Prod.fst)
    (differs : rename.source ≠ rename.target) :
    (ofEntries (early ++ (⟨rename.schema, rename.source⟩, columns) :: late)).run?
        (.renameTable rename) =
      some (ofEntries (early ++ (⟨rename.schema, rename.target⟩, columns) :: late)) := by
  rw [List.map_append] at alone free
  have aloneEarly := fun member => alone (List.mem_append_left _ member)
  have aloneLate := fun member => alone (List.mem_append_right _ member)
  have freeEarly := fun member => free (List.mem_append_left _ member)
  have placesDiffer : (⟨rename.schema, rename.source⟩ : Place) ≠ ⟨rename.schema, rename.target⟩ :=
    fun equal => differs (congrArg Place.table equal)
  have untaken : (⟨rename.schema, rename.target⟩ : Place) ∉
      ofEntries (early ++ (⟨rename.schema, rename.source⟩, columns) :: late) := by
    intro member
    rw [mem_ofEntries, List.map_append, List.map_cons] at member
    rcases List.mem_append.mp member with before | behind
    · exact freeEarly before
    · rcases List.mem_cons.mp behind with equal | after
      · exact placesDiffer equal.symm
      · exact free (List.mem_append_right _ after)
  simp only [run?, lookup_ofEntries_middle aloneEarly, if_neg untaken, Option.some.injEq]
  apply Finmap.ext_lookup
  intro place
  by_cases atTarget : place = ⟨rename.schema, rename.target⟩
  · rw [atTarget, Finmap.lookup_insert, lookup_ofEntries_middle freeEarly]
  · rw [Finmap.lookup_insert_of_ne _ atTarget]
    by_cases atSource : place = ⟨rename.schema, rename.source⟩
    · rw [atSource, Finmap.lookup_erase, lookup_ofEntries_append aloneEarly,
        lookup_ofEntries_cons, if_neg (Ne.symm placesDiffer)]
      symm
      apply Finmap.lookup_eq_none.mpr
      rw [mem_ofEntries]
      exact aloneLate
    · rw [Finmap.lookup_erase_ne atSource]
      exact lookup_ofEntries_ne early late (Ne.symm atSource) (Ne.symm atTarget)

/-- A column whose name is its own gets a name that is free. -/
theorem run?_renameColumn {early : List (Place × List String)} {rename : ColumnRename}
    (first : (⟨rename.schema, rename.table⟩ : Place) ∉ early.map Prod.fst)
    (late : List (Place × List String)) {before after : List String}
    (alone : rename.source ∉ before ++ after) (free : rename.target ∉ before ++ after)
    (differs : rename.source ≠ rename.target) :
    (ofEntries (early ++
        (⟨rename.schema, rename.table⟩, before ++ rename.source :: after) :: late)).run?
        (.renameColumn rename) =
      some (ofEntries (early ++
        (⟨rename.schema, rename.table⟩, before ++ rename.target :: after) :: late)) := by
  have present : rename.source ∈ before ++ rename.source :: after :=
    List.mem_append_right _ List.mem_cons_self
  have untaken : rename.target ∉ before ++ rename.source :: after := by
    intro member
    rcases List.mem_append.mp member with left | right
    · exact free (List.mem_append_left _ left)
    · rcases List.mem_cons.mp right with equal | behind
      · exact differs equal.symm
      · exact free (List.mem_append_right _ behind)
  have untouched : forall columns : List String, rename.source ∉ columns ->
      (columns.map fun column => if column = rename.source then rename.target else column) =
        columns := by
    intro columns absent
    calc
      (columns.map fun column => if column = rename.source then rename.target else column) =
          columns.map fun column => column := by
        apply List.map_congr_left
        intro column member
        apply if_neg
        intro equal
        exact absent (equal ▸ member)
      _ = columns := List.map_id' columns
  have replaced : ((before ++ rename.source :: after).map fun column =>
      if column = rename.source then rename.target else column) =
        before ++ rename.target :: after := by
    rw [List.map_append, List.map_cons, if_pos rfl,
      untouched before fun member => alone (List.mem_append_left _ member),
      untouched after fun member => alone (List.mem_append_right _ member)]
  simp only [run?, lookup_ofEntries_middle first, if_pos (And.intro present untaken), replaced,
    Option.some.injEq]
  apply Finmap.ext_lookup
  intro place
  by_cases here : place = ⟨rename.schema, rename.table⟩
  · rw [here, Finmap.lookup_insert, lookup_ofEntries_middle first]
  · rw [Finmap.lookup_insert_of_ne _ here]
    exact lookup_ofEntries_ne early late (Ne.symm here) (Ne.symm here)

end Catalog
end Recase
