import Mathlib.Data.List.DropRight
import Recase.Proofs.Cli.Steps
import Recase.Proofs.Dump.Names
import Recase.Proofs.Schema.RoundTrip
import Recase.Proofs.Script.Reading
import Recase.Proofs.Text.Utf8

namespace Recase

/-!
# The listing of the tables

The tables of a schema are listed at the screen, sorted by name.  A reader of
the printed text finds below the heading one line for each table, and reads a
name and a number of columns from it.  A name may itself look like the end of a
line, so a line is read from its end.

No two tables of a dump have the same name.  This makes the order of the lines
strict, and it makes the listing depend on the names and the numbers alone: a
dump that declares the tables in another order is listed in the same way.
-/

def Table.entry (table : Table) : String × Nat :=
  (table.name, table.columns.size)

/-- The names and the numbers of columns of the tables of a schema, in the order
of the schema. -/
def Schema.entries (schema : Schema) : List (String × Nat) :=
  schema.toList.map Table.entry

namespace Listing

/-! ## Reading a line -/

/-- The line that says a name and a number of columns. -/
def line (entry : String × Nat) : String :=
  "  - " ++ entry.1 ++ " (" ++ toString entry.2 ++ " columns)"

/-- Read the name of a table and the number of its columns from a line. -/
def entry? (text : List Char) : Option (String × Nat) := do
  let marked <- Script.behind? "  - " text
  let counted <- marked.dropSuffix? " columns)".toList
  let digits := counted.rtakeWhile Char.isDigit
  let name <- (counted.rdropWhile Char.isDigit).dropSuffix? " (".toList
  if digits = [] then none
  else some (String.ofList name, Nat.ofDigitChars 10 digits 0)

theorem dropSuffix?_append (chars words : List Char) :
    (chars ++ words).dropSuffix? words = some chars :=
  List.dropSuffix?_eq_some_iff.mpr ⟨words, rfl, beq_self_eq_true words⟩

/-- The digits of a number are found behind the bracket. -/
theorem rtakeWhile_append_digits {digits : List Char}
    (all : forall char, char ∈ digits -> char.isDigit = true) (name : List Char) :
    (name ++ " (".toList ++ digits).rtakeWhile Char.isDigit = digits := by
  have reversed : forall char, char ∈ digits.reverse -> char.isDigit = true := by
    intro char member
    exact all char (List.mem_reverse.mp member)
  have stopped : (name ++ " (".toList).reverse.takeWhile Char.isDigit = [] := by
    rw [List.reverse_append]
    rfl
  rw [List.rtakeWhile, List.reverse_append, List.takeWhile_append_of_pos reversed, stopped,
    List.append_nil, List.reverse_reverse]

/-- A line is read as what it says, whatever the name is. -/
theorem entry?_line (entry : String × Nat) : entry? (line entry).toList = some entry := by
  let digits := Nat.toDigits 10 entry.2
  let counted := entry.1.toList ++ " (".toList ++ digits
  have chars : (line entry).toList = "  - ".toList ++ (counted ++ " columns)".toList) := by
    simp only [line, String.toList_append, Nat.toString_eq_repr, Nat.toList_repr,
      List.append_assoc, counted, digits]
  have taken : counted.rtakeWhile Char.isDigit = digits :=
    rtakeWhile_append_digits (fun _ => Json.isDigit_of_mem_toDigits) _
  have left : counted.rdropWhile Char.isDigit = entry.1.toList ++ " (".toList := by
    have whole : counted.rdropWhile Char.isDigit ++ counted.rtakeWhile Char.isDigit = counted :=
      List.rdropWhile_append_rtakeWhile
    rw [taken] at whole
    exact List.append_cancel_right whole
  rw [chars, entry?, Script.behind?_append, Option.bind_eq_bind, Option.bind_some,
    dropSuffix?_append, Option.bind_some]
  simp only [taken, left, dropSuffix?_append, Option.bind_some, digits, Nat.toDigits_ne_nil,
    if_false, Nat.ofDigitChars_ten_toDigits, String.ofList_toList]

theorem line_injective : Function.Injective line := by
  intro first second same
  have read := entry?_line first
  rw [same, entry?_line] at read
  exact (Option.some.inj read).symm

theorem oneLine_line {entry : String × Nat} (one : OneLine entry.1) : OneLine (line entry) := by
  have mark : OneLine "  - " := oneLine_ofList (by decide)
  have bracket : OneLine " (" := oneLine_ofList (by decide)
  have word : OneLine " columns)" := oneLine_ofList (by decide)
  exact (((mark.append one).append bracket).append (oneLine_toString _)).append word

/-! ## The order of the tables -/

theorem sorted_perm (schema : Schema) : schema.sorted.Perm schema.toList :=
  List.mergeSort_perm _ _

theorem pairwise_name_le_sorted (schema : Schema) :
    schema.sorted.Pairwise fun earlier later => earlier.name <= later.name := by
  let below (left right : Table) : Bool := decide (left.name <= right.name)
  have transitive (first second third : Table) (here : below first second = true)
      (there : below second third = true) : below first third = true :=
    decide_eq_true (le_trans (of_decide_eq_true here) (of_decide_eq_true there))
  have total (left right : Table) : (below left right || below right left) = true := by
    rw [Bool.or_eq_true, decide_eq_true_eq, decide_eq_true_eq]
    exact le_total left.name right.name
  exact (List.pairwise_mergeSort transitive total schema.toList).imp of_decide_eq_true

def sortedEntries (schema : Schema) : List (String × Nat) :=
  schema.sorted.map Table.entry

theorem sortedEntries_perm (schema : Schema) : (sortedEntries schema).Perm schema.entries :=
  (sorted_perm schema).map Table.entry

/-- Tables with different names are in the strict order of their names. -/
theorem pairwise_name_lt_sortedEntries {schema : Schema}
    (distinct : (schema.toList.map Table.name).Nodup) :
    (sortedEntries schema).Pairwise fun earlier later => earlier.1 < later.1 := by
  have differing : (schema.sorted.map Table.name).Nodup :=
    ((sorted_perm schema).map Table.name).nodup_iff.mpr distinct
  refine List.pairwise_map.mpr ?_
  exact (pairwise_name_le_sorted schema).imp₂
    (fun _ _ below differs => lt_of_le_of_ne below differs) (List.pairwise_map.mp differing)

theorem listing_eq (schema : Schema) :
    schema.listing =
      ("Found " ++ toString schema.size ++ " tables:") :: (sortedEntries schema).map line := by
  rw [sortedEntries, List.map_map]
  rfl

/-! ## The listing of a dump -/

/-- What is printed line by line is cut into these lines again. -/
theorem pieces_told {lines : List String} (one : forall line, line ∈ lines -> OneLine line) :
    Text.pieces '\n' (String.join (lines.map (· ++ "\n"))).toList =
      lines.map String.toList ++ [[]] := by
  induction lines with
  | nil => rfl
  | cons line others inductionHypothesis =>
      have whole : Text.pieces '\n' line.toList = [line.toList] :=
        Text.pieces_of_not_mem (one line List.mem_cons_self)
      have later := inductionHypothesis fun other listed =>
        one other (List.mem_cons_of_mem _ listed)
      have feed : "\n".toList = ['\n'] := rfl
      rw [List.map_cons, String.join_cons, String.toList_append, String.toList_append, feed,
        List.append_assoc, List.singleton_append, Text.pieces_append_separator, whole, later]
      rfl

theorem oneLine_of_mem_listing {dump line : String}
    (listed : line ∈ (Dump.analyze dump).listing) : OneLine line := by
  rw [listing_eq] at listed
  rcases List.mem_cons.mp listed with heading | below
  · have start : OneLine "Found " := oneLine_ofList (by decide)
    have stop : OneLine " tables:" := oneLine_ofList (by decide)
    rw [heading]
    exact (start.append (oneLine_toString _)).append stop
  · rcases List.mem_map.mp below with ⟨entry, sorted, rfl⟩
    rcases List.mem_map.mp ((sortedEntries_perm _).mem_iff.mp sorted) with ⟨table, member, rfl⟩
    have one : OneLine table.entry.1 := (Dump.oneLineNames_of_mem_analyze member).name
    exact oneLine_line one

/-- A text lists a schema.  It has a heading with the number of the tables and a
line for each of certain entries below it, and from these lines alone the
entries are read.  They are those of the schema, in the strict order of the
names. -/
structure Lists (text : String) (schema : Schema) (entries : List (String × Nat)) : Prop where
  lines : Exists fun lines =>
    Text.pieces '\n' text.toList =
        ("Found " ++ toString schema.size ++ " tables:").toList :: lines ++ [[]] ∧
      lines = entries.map (fun entry => (line entry).toList) ∧
      lines.mapM entry? = some entries
  length : entries.length = schema.size
  perm : entries.Perm schema.entries
  bytes : entries.Pairwise fun earlier later => Text.bytes earlier.1 < Text.bytes later.1
  codePoints : entries.Pairwise fun earlier later =>
    Text.codePoints earlier.1 < Text.codePoints later.1

theorem increasing_analyze (dump : String) :
    (sortedEntries (Dump.analyze dump)).Pairwise fun earlier later => earlier.1 < later.1 :=
  pairwise_name_lt_sortedEntries (Dump.nodup_names_analyze dump)

theorem lists_analyze (dump : String) :
    Lists (String.join ((Dump.analyze dump).listing.map (· ++ "\n"))) (Dump.analyze dump)
      (sortedEntries (Dump.analyze dump)) where
  lines := by
    refine ⟨_, ?_, rfl, mapM_map_eq_some entry?_line _⟩
    rw [pieces_told fun _ => oneLine_of_mem_listing, listing_eq, List.map_cons, List.map_map]
    rfl
  length := (sortedEntries_perm _).length_eq.trans (List.length_map _)
  perm := sortedEntries_perm _
  bytes := (increasing_analyze dump).imp fun less => Text.strictMono_bytes less
  codePoints := (increasing_analyze dump).imp fun less => Text.strictMono_codePoints less

/-- Entries with different names have only one order, and different entries have
different lines. -/
theorem listing_analyze_eq_iff (dump other : String) :
    (Dump.analyze dump).listing = (Dump.analyze other).listing ↔
      (Dump.analyze dump).entries.Perm (Dump.analyze other).entries := by
  constructor
  · intro same
    rw [listing_eq, listing_eq] at same
    have lines := (List.cons.inj same).2
    have entries := List.map_injective_iff.mpr line_injective lines
    exact (sortedEntries_perm _).symm.trans (entries ▸ sortedEntries_perm _)
  · intro perm
    have sorted : sortedEntries (Dump.analyze dump) = sortedEntries (Dump.analyze other) :=
      List.Perm.eq_of_pairwise (fun _ _ _ _ less greater => absurd greater (lt_asymm less))
        (increasing_analyze dump) (increasing_analyze other)
        ((sortedEntries_perm _).trans (perm.trans (sortedEntries_perm _).symm))
    have size := (lists_analyze dump).length.symm.trans
      ((congrArg List.length sorted).trans (lists_analyze other).length)
    rw [listing_eq, listing_eq, sorted, size]

end Listing

/-- The tables of a dump are listed faithfully.  Whatever the surroundings are,
one text is printed, and it has one line for each table, with its name and the
number of its columns.  The names are in the strict order of their bytes in
UTF-8, which for all texts is the order of their code points.  Another dump is
listed in the same way exactly if its tables have these names and numbers of
columns, in whatever order. -/
theorem Dump.listing_of_analyze (dump : String) :
    (Exists fun report =>
      (forall world : Cli.World,
        Cli.outcome ((Dump.analyze dump).listing.forM Cli.tell) world =
          (.ok (), world.printError report)) ∧
      Exists fun entries => Listing.Lists report (Dump.analyze dump) entries) ∧
    (forall first second : String,
      Text.bytes first < Text.bytes second ↔ Text.codePoints first < Text.codePoints second) ∧
    forall other : String,
      (Dump.analyze dump).listing = (Dump.analyze other).listing ↔
        (Dump.analyze dump).entries.Perm (Dump.analyze other).entries := by
  refine ⟨⟨_, fun world => Cli.outcome_forM_tell _ world, _, Listing.lists_analyze dump⟩, ?_, ?_⟩
  · intro first second
    exact Text.bytes_lt_bytes_iff
  · exact Listing.listing_analyze_eq_iff dump

end Recase
