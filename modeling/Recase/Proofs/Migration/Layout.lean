import Mathlib.Data.List.Forall2
import Recase.Proofs.Dump.Noise
import Recase.Proofs.Options

namespace Recase

/-!
# The layout of a dump does not matter

Constraints are kept for the user and nothing is planned for them, so two
dumps with the same tables but for their constraints give the same migration.
Together with what is known about noise this says that noise can be deleted,
blanks can be added at the ends of lines, and lines can be ended in either of
the usual ways.
-/

/-! ## Line ends -/

/-- A text with a carriage return in front of every line feed. -/
def Text.withReturns (text : String) : String :=
  String.ofList (text.toList.flatMap fun char => if char = '\n' then ['\r', '\n'] else [char])

/-- The pieces at the line feeds are the same but for returns at their ends. -/
private theorem Text.pieces_withReturns (chars : List Char) :
    List.Forall₂ (fun piece returned => returned = piece ∨ returned = piece ++ ['\r'])
      (pieces '\n' chars)
      (pieces '\n' (chars.flatMap fun char => if char = '\n' then ['\r', '\n'] else [char])) := by
  induction chars with
  | nil => exact .cons (Or.inl rfl) .nil
  | cons char chars inductionHypothesis =>
      rw [List.flatMap_cons]
      by_cases feed : char = '\n'
      · have plain := pieces_append_separator '\n' [] chars
        have returned := pieces_append_separator '\n' ['\r']
          (chars.flatMap fun char => if char = '\n' then ['\r', '\n'] else [char])
        rw [List.nil_append] at plain
        rw [if_pos feed, feed, plain]
        exact returned ▸ .cons (Or.inr rfl) inductionHypothesis
      · rw [if_neg feed, List.singleton_append, pieces_cons, pieces_cons]
        generalize pieces '\n' chars = plain at inductionHypothesis ⊢
        generalize pieces '\n' (chars.flatMap _) = returned at inductionHypothesis ⊢
        cases inductionHypothesis with
        | nil => exact .cons (Or.inl rfl) .nil
        | cons head tail =>
            rw [extendPieces, extendPieces, if_neg feed, if_neg feed]
            refine .cons ?_ tail
            rcases head with rfl | rfl
            · exact Or.inl rfl
            · exact Or.inr rfl

/-- A return at the end of a line is trimmed. -/
theorem Text.lines_withReturns (text : String) : lines (withReturns text) = lines text := by
  have related := Text.pieces_withReturns text.toList
  rw [lines, lines, withReturns, String.toList_ofList, ← List.forall₂_eq_eq_eq,
    List.forall₂_map_left_iff, List.forall₂_map_right_iff]
  apply related.flip.imp
  rintro returned piece (rfl | rfl)
  · rfl
  · exact trim_append_of_blank (List.forall_mem_nil _) (List.all_eq_true.mp (by decide)) piece

/-! ## The plan does not depend on constraints -/

theorem Schema.toList_unconstrained (schema : Schema) :
    schema.unconstrained.toList = schema.toList.map Table.unconstrained :=
  Array.toList_map

theorem Plan.ofSchema_unconstrained (schema : Schema) (options : Options) :
    Plan.ofSchema schema.unconstrained options = Plan.ofSchema schema options := by
  have kept : options.kept (schema.toList.map Table.unconstrained) =
      (options.kept schema.toList).map Table.unconstrained := by
    rw [Options.kept, List.filter_map]
    rfl
  rw [Plan.ofSchema, Schema.toList_unconstrained, kept, List.filterMap_map, List.flatMap_map,
    List.length_map]
  rfl

/-- Whether two dumps give the same migration, and the same tables but for
their constraints. -/
structure SameMigration (options : Options) (one other : String) : Prop where
  schema : (Dump.analyze one).unconstrained = (Dump.analyze other).unconstrained
  plan : Plan.ofSchema (Dump.analyze one) options = Plan.ofSchema (Dump.analyze other) options
  script : generate (Dump.analyze one) options = generate (Dump.analyze other) options
  converted : (convert one options).map (fun conversion => (conversion.plan, conversion.script)) =
    (convert other options).map fun conversion => (conversion.plan, conversion.script)

theorem sameMigration_of_unconstrained {one other : String} (options : Options)
    (schema : (Dump.analyze one).unconstrained = (Dump.analyze other).unconstrained) :
    SameMigration options one other := by
  have plan : Plan.ofSchema (Dump.analyze one) options =
      Plan.ofSchema (Dump.analyze other) options := by
    rw [← Plan.ofSchema_unconstrained, schema, Plan.ofSchema_unconstrained]
  refine ⟨schema, plan, ?_, ?_⟩
  · rw [generate, plan, ← generate]
  · cases checked : options.check with
    | error badName =>
        rw [convert, convert, checked]
    | ok _ =>
        rw [convert_of_check checked, convert_of_check checked, Except.map, Except.map, plan]

theorem analyze_withReturns (dump : String) :
    Dump.analyze (Text.withReturns dump) = Dump.analyze dump := by
  rw [Dump.analyze, Dump.scan, Text.lines_withReturns]
  rfl

/-- A dump gives the same migration when every line feed in it is turned into
a carriage return with a line feed.  A dump from which noise has been deleted,
and to whose lines blanks have been added at their ends, gives the same
migration too, with line feeds of either kind. -/
theorem noise_leaves_migration (dump : String) (options : Options) :
    SameMigration options dump (Text.withReturns dump) ∧
      forall edit : Dump.Edit, edit.DeletesNoise dump ->
        SameMigration options dump (edit.apply dump) ∧
          SameMigration options dump (Text.withReturns (edit.apply dump)) := by
  refine ⟨sameMigration_of_unconstrained options ?_, ?_⟩
  · rw [analyze_withReturns]
  · intro edit noise
    have quiet := (edit.unconstrained_analyze noise).symm
    refine ⟨sameMigration_of_unconstrained options quiet, ?_⟩
    apply sameMigration_of_unconstrained
    rw [analyze_withReturns]
    exact quiet

/-- A dump with noise of every kind: lines outside of the table, an empty
line, a constraint and a check. -/
theorem noise_leaves_migration_of_room_types :
    let dump := "SET x;\nCREATE TABLE room_types (\n \n  bed_size int,\n" ++
      "  CONSTRAINT one CHECK (bed_size > 0),\n  name text CHECK (true)\n);\nRESET x;"
    let edit : Dump.Edit :=
      { deleted := fun position => [0, 2, 4, 5, 7].contains position
        before := fun _ => []
        after := fun position => if position = 3 then ['\t'] else []
        blankBefore := fun _ _ member => by cases member
        blankAfter := by
          intro position char member
          split at member
          · rw [List.mem_singleton.mp member]
            decide
          · cases member }
    let options : Options := {}
    edit.DeletesNoise dump ∧
      edit.apply dump = "CREATE TABLE room_types (\n  bed_size int,\t\n);\n" ∧
      SameMigration options dump (edit.apply dump) ∧
      SameMigration options dump (Text.withReturns (edit.apply dump)) := by
  intro dump edit options
  have harmless : forall position, position ∈ [0, 2, 4, 5, 7] ->
      forall line, line ∈ (Text.lines dump)[position]? ->
        Dump.header? line = none ∧
          (line = [] ∨ Dump.isConstraint line = true ∨ Dump.isCheck line = true ∨
            (Dump.scanFrom {} 1 ((Text.lines dump).take position)).opened = none) := by
    decide +kernel
  have noise : edit.DeletesNoise dump := by
    intro position line listed deleted
    rcases harmless position (List.contains_iff_mem.mp deleted) line listed with ⟨other, cause⟩
    exact ⟨other, cause⟩
  exact ⟨noise, by decide +kernel, (noise_leaves_migration dump options).2 edit noise⟩

end Recase
