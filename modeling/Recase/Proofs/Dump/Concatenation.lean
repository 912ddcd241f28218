import Recase.Proofs.Dump.Blocks
import Recase.Proofs.Schema.Merging

namespace Recase
namespace Dump

/-!
# Dumps that are put together

A dump can be cut into parts that are read one by one.  At the seam the
reader must not be within a table that the second part goes on with: either
the table is closed, or the second part opens another one before it says
anything else.  The tables of the second part are then inserted into those of
the first, and it does not matter that some of them were replaced within their
part already.
-/

/-- Reading goes on behind the first lines from the state that they lead to. -/
theorem scanFrom_append (scan : Scan) (number : Nat) (first second : List (List Char)) :
    scanFrom scan number (first ++ second) =
      scanFrom (scanFrom scan number first) (number + first.length) second := by
  induction first generalizing scan number with
  | nil => rfl
  | cons line others inductionHypothesis =>
      rw [List.cons_append, scanFrom, inductionHypothesis, scanFrom, List.length_cons,
        Nat.add_assoc, Nat.add_comm 1]

theorem lines_append (first second : String) :
    Text.lines (first ++ "\n" ++ second) = Text.lines first ++ Text.lines second := by
  have seam : (first ++ "\n" ++ second).toList = first.toList ++ '\n' :: second.toList := by
    rw [String.toList_append, String.toList_append, List.append_assoc]
    rfl
  rw [Text.lines, seam, Text.pieces_append_separator, List.map_append]
  rfl

/-- Whether the first line that is not blank is a header. -/
def StartsWithHeader (lines : List (List Char)) : Prop :=
  Exists fun line => lines.find? (fun line => line ≠ []) = some line ∧
    (header? line).isSome = true

/-- Blank lines before a header add nothing to the table that is open. -/
theorem extended_block_of_startsWithHeader {lines : List (List Char)}
    (starts : StartsWithHeader lines) (table : Table) : extended table (block lines) = table := by
  rcases starts with ⟨first, found, opens⟩
  induction lines with
  | nil => cases found
  | cons line others inductionHypothesis =>
      by_cases blank : line = []
      · rw [List.find?_cons_of_neg (by simp [blank])] at found
        have nothing : extended table [[]] = table := by
          rw [← absorb_eq_extended]
          rfl
        rw [blank, block_of_body rfl (by decide), ← List.singleton_append, ← extended_append,
          nothing, inductionHypothesis found]
      · rw [List.find?_cons_of_pos (by simp [blank])] at found
        cases found
        rcases Option.isSome_iff_exists.mp opens with ⟨header, read⟩
        rw [block_of_header read, extended_nil]

/-- Behind the seam the tables that the second part declares are inserted into
what the first part comes to by itself. -/
theorem schema_scanFrom_of_seam {scan : Scan} {lines : List (List Char)}
    (seam : scan.opened = none ∨ StartsWithHeader lines) (number : Nat) :
    (scanFrom scan number lines).finish.schema =
      (declared lines).foldl Schema.insert scan.finish.schema := by
  rw [schema_scanFrom, List.foldl_append]
  congr 1
  cases opened : scan.opened with
  | none => simp only [Scan.unfinished, Scan.finish, opened, Option.toList_none, List.map_nil,
      List.foldl_nil]
  | some block =>
      have starts : StartsWithHeader lines := by
        rcases seam with closed | starts
        · rw [closed] at opened
          cases opened
        · exact starts
      simp only [Scan.unfinished, Scan.finish, opened, Option.toList_some, List.map_cons,
        List.map_nil, List.foldl_cons, List.foldl_nil, Scan.close, Scan.note,
        extended_block_of_startsWithHeader starts]

theorem consistent_analyze (text : String) : (analyze text).Consistent := by
  rw [analyze_eq_ofList]
  exact Schema.consistent_foldl Schema.consistent_empty _

/-- A dump that is put together from two parts declares what one gets by
inserting the tables of the second part into those of the first, if the first
part ends outside of a table or the second begins with a header. -/
theorem analyze_concatenation (first second : String)
    (seam : (scanFrom {} 1 (Text.lines first)).opened = none ∨
      StartsWithHeader (Text.lines second)) :
    analyze (first ++ "\n" ++ second) =
      (analyze second).toList.foldl Schema.insert (analyze first) := by
  have joined : analyze (first ++ "\n" ++ second) =
      (declared (Text.lines second)).foldl Schema.insert (analyze first) := by
    rw [analyze, scan, lines_append, scanFrom_append]
    exact schema_scanFrom_of_seam seam _
  rw [joined, analyze_eq_ofList second,
    Schema.foldl_insert_ofList (consistent_analyze first)]

/-- The first part is cut off within a table, and the second one declares the
table anew behind another one. -/
theorem analyze_concatenation_of_two_hotels :
    let first := "CREATE TABLE hotels (\n  stars int"
    let second := " \nCREATE TABLE rooms (\n);\nCREATE TABLE hotels (\n  name text\n);"
    StartsWithHeader (Text.lines second) ∧
      analyze (first ++ "\n" ++ second) =
        (analyze second).toList.foldl Schema.insert (analyze first) ∧
      (analyze (first ++ "\n" ++ second)).toList =
        [{ name := "hotels", schema := none, columns := #["name"] },
         { name := "rooms", schema := none }] := by
  intro first second
  have starts : StartsWithHeader (Text.lines second) :=
    ⟨"CREATE TABLE rooms (".toList, by decide +kernel, by decide +kernel⟩
  refine ⟨starts, analyze_concatenation first second (Or.inr starts), ?_⟩
  rw [toList_analyze]
  decide +kernel

end Dump
end Recase
