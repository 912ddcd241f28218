import Recase.Proofs.Script.Statements
import Recase.Proofs.Text.OneLine
import Recase.Proofs.Text.Pieces

namespace Recase

/-!
# The executable lines of a script

A script is carried out line by line, and blank lines and comments do
nothing.  The lines that are left are the statements of the plan and the
block at the end, as long as no advice breaks out of its comment.  A comment
ends at the first line feed, so the text behind a line feed in a relationship
or in a permission note stands in the script like any statement.
`executable_render` gives the executable lines of every script, those that
escape from the advice included.
-/

/-- What a relationship looks like in the advice, behind its number. -/
def Relationship.words (relationship : Relationship) : String :=
  relationship.referencing ++ " -> " ++ relationship.referenced ++ " (" ++ relationship.column ++
    ")"

/-- The texts that options contribute to the comments of a script. -/
def Options.advice (options : Options) : List String :=
  options.relationships.map Relationship.words ++ options.permissionNotes

namespace Script

/-! ## Lines that are carried out -/

/-- Whether a line is carried out.  It is not if it is blank or a comment. -/
def isExecutable (line : List Char) : Bool :=
  !line.all Text.isBlank && !List.isPrefixOf ['-', '-'] line

theorem isExecutable_ofList {chars : List Char} (carried : isExecutable chars = true) :
    isExecutable (String.ofList chars).toList = true := by
  rw [String.toList_ofList]
  exact carried

theorem isExecutable_append {start : List Char} (carried : isExecutable start = true)
    (long : 2 ≤ start.length) (rest : List Char) : isExecutable (start ++ rest) = true := by
  cases start with
  | nil => cases long
  | cons first others =>
      cases others with
      | nil => exact absurd long (by simp)
      | cons second others =>
          unfold isExecutable at carried ⊢
          have parts := Bool.and_eq_true_iff.mp carried
          have visible : ((first :: second :: others).all Text.isBlank) = false := by
            cases blank : (first :: second :: others).all Text.isBlank with
            | false => rfl
            | true =>
                rw [blank] at parts
                cases parts.1
          rw [List.all_append, visible, Bool.false_and, Bool.not_false, Bool.true_and]
          exact parts.2

theorem isExecutable_ofList_append {start : List Char} (carried : isExecutable start = true)
    (long : 2 ≤ start.length) (rest : List Char) :
    isExecutable ((String.ofList start).toList ++ rest) = true := by
  rw [String.toList_ofList]
  exact isExecutable_append carried long rest

def executable (text : List Char) : List (List Char) :=
  (Text.pieces '\n' text).filter isExecutable

/-- The lines that a comment with the given words brings into a script.  They
are those behind the first line feed. -/
def escaping (words : String) : List (List Char) :=
  (Text.pieces '\n' words.toList).tail.filter isExecutable

theorem escaping_of_oneLine {words : String} (one : OneLine words) : escaping words = [] := by
  rw [escaping, Text.pieces_of_not_mem one]
  rfl

theorem flatMap_escaping_of_oneLine {texts : List String}
    (one : forall text, text ∈ texts -> OneLine text) : texts.flatMap escaping = [] := by
  apply List.flatMap_eq_nil_iff.mpr
  intro text member
  exact escaping_of_oneLine (one text member)

/-- The words before the first line feed do not matter. -/
theorem escaping_append {first : String} (one : OneLine first) (second : String) :
    escaping (first ++ second) = escaping second := by
  rw [escaping, String.toList_append, Text.tail_pieces_append one]
  rfl

/-- The lines that a line of a script brings into its text. -/
def Line.executable (line : Line) : List (List Char) :=
  Script.executable line.text.toList

theorem executable_blank : Line.blank.executable = [] := by
  decide

theorem executable_comment (words : String) :
    (Line.comment words).executable = escaping words := by
  have text : (Line.comment words).text.toList = ['-', '-', ' '] ++ words.toList := by
    rw [Line.text, String.toList_append]
    rfl
  rw [Line.executable, executable, text, escaping]
  cases cut : Text.pieces '\n' words.toList with
  | nil => exact absurd cut (Text.pieces_ne_nil _ _)
  | cons first others =>
      have dashes : isExecutable (['-', '-', ' '] ++ first) = false := by
        simp only [isExecutable, List.cons_append, List.isPrefixOf_cons_cons, beq_self_eq_true,
          List.isPrefixOf_nil_left, Bool.and_self, Bool.not_true, Bool.and_false]
      rw [Text.pieces_append (by decide) cut, List.filter_cons, dashes, List.tail_cons]
      rfl

theorem executable_comment_of_oneLine {words : String} (one : OneLine words) :
    (Line.comment words).executable = [] := by
  rw [executable_comment]
  exact escaping_of_oneLine one

theorem executable_comments {first second : String} (one : OneLine first) (other : OneLine second) :
    ([.comment first, .comment second] : List Line).flatMap Line.executable = [] := by
  rw [List.flatMap_cons, List.flatMap_singleton, executable_comment_of_oneLine one,
    executable_comment_of_oneLine other]
  rfl

theorem executable_oneLine {line : Line} (one : OneLine line.text)
    (carried : isExecutable line.text.toList = true) :
    line.executable = [line.text.toList] := by
  rw [Line.executable, executable, Text.pieces_of_not_mem one, List.filter_cons, carried]
  rfl

theorem executable_code {words : String} (one : OneLine words)
    (carried : isExecutable words.toList = true) : (Line.code words).executable = [words.toList] :=
  executable_oneLine one carried

theorem executable_map_comment (notes : List String) :
    (notes.map Line.comment).flatMap Line.executable = notes.flatMap escaping := by
  rw [List.flatMap_map]
  exact congrArg (fun lines => notes.flatMap lines) (funext executable_comment)

/-! ## The advice in the options -/

theorem executable_relationshipLines (number : Nat) (relationships : List Relationship) :
    (relationshipLines number relationships).flatMap Line.executable =
      relationships.flatMap fun relationship => escaping relationship.words := by
  induction relationships generalizing number with
  | nil => rfl
  | cons relationship others inductionHypothesis =>
      have counted : OneLine (toString number ++ ". ") :=
        (oneLine_toString number).append (by decide)
      have grouped : toString number ++ ". " ++ relationship.referencing ++ " -> " ++
          relationship.referenced ++ " (" ++ relationship.column ++ ")" =
            toString number ++ ". " ++ relationship.words := by
        simp only [Relationship.words, String.append_assoc]
      rw [relationshipLines, List.flatMap_cons, List.flatMap_cons, grouped, executable_comment,
        escaping_append counted, inductionHypothesis]

theorem executable_relationshipAdvice (options : Options) :
    (relationshipAdvice options).flatMap Line.executable =
      options.relationships.flatMap fun relationship => escaping relationship.words := by
  unfold relationshipAdvice
  cases listed : options.relationships with
  | nil =>
      rw [List.isEmpty_nil, if_pos rfl, List.flatMap_singleton]
      exact executable_comment_of_oneLine (oneLine_ofList (by decide))
  | cons relationship others =>
      have heading : (Line.comment "Relationships to verify:").executable = [] :=
        executable_comment_of_oneLine (oneLine_ofList (by decide))
      rw [List.isEmpty_cons, if_neg Bool.false_ne_true, List.flatMap_cons, heading,
        List.nil_append]
      exact executable_relationshipLines 1 (relationship :: others)

theorem executable_permissionAdvice (plan : Plan) (options : Options)
    (plain : forall name, name ∈ plan.drops -> OneLine name) :
    (permissionAdvice plan options).flatMap Line.executable =
      options.permissionNotes.flatMap escaping := by
  unfold permissionAdvice
  cases listed : options.permissionNotes with
  | nil =>
      have unchanged : OneLine "No tables removed; existing permissions are unchanged" :=
        oneLine_ofList (by decide)
      have start : OneLine "With " := oneLine_ofList (by decide)
      have finish : OneLine " removed, access granted through them" := oneLine_ofList (by decide)
      have listing : OneLine ("With " ++ String.intercalate ", " plan.drops ++
          " removed, access granted through them") :=
        (start.append (oneLine_intercalate (by decide) plan.drops plain)).append finish
      have advised : OneLine "must be reassigned to the owners of the remaining tables" :=
        oneLine_ofList (by decide)
      rw [List.isEmpty_nil, if_pos rfl]
      cases plan.drops.isEmpty with
      | true =>
          rw [if_pos rfl, List.flatMap_singleton]
          exact executable_comment_of_oneLine unchanged
      | false =>
          rw [if_neg Bool.false_ne_true]
          exact executable_comments listing advised
  | cons note notes =>
      rw [List.isEmpty_cons, if_neg Bool.false_ne_true]
      exact executable_map_comment (note :: notes)

/-! ## The executable lines of a script -/

/-- A part has the executable lines of its body. -/
theorem executable_numbered (number : Nat) {part : Part} (one : OneLine part.title) :
    (part.numbered number).flatMap Line.executable = part.lines.flatMap Line.executable := by
  have ruled : banner.executable = [] := executable_comment_of_oneLine (oneLine_ofList (by decide))
  have titled : (Line.comment (toString number ++ ". " ++ part.title)).executable = [] :=
    executable_comment_of_oneLine (((oneLine_toString number).append (by decide)).append one)
  simp only [Part.numbered, List.flatMap_cons, executable_blank, ruled, titled, List.nil_append]

theorem executable_numberedParts (number : Nat) (parts : List Part)
    (titled : forall part, part ∈ parts -> OneLine part.title) :
    (numberedParts number parts).flatMap Line.executable =
      parts.flatMap fun part => part.lines.flatMap Line.executable := by
  induction parts generalizing number with
  | nil => rfl
  | cons part others inductionHypothesis =>
      rw [numberedParts, List.flatMap_append, List.flatMap_cons,
        executable_numbered number (titled part List.mem_cons_self),
        inductionHypothesis (number + 1) fun other member =>
          titled other (List.mem_cons_of_mem _ member)]

/-- The line with which the block at the end begins. -/
def closingMark : List Char :=
  "DO $$".toList

def closingLines (plan : Plan) : List (List Char) :=
  [closingMark, "BEGIN".toList,
   "    RAISE NOTICE 'camelCase conversion finished at %', NOW();".toList,
   "    RAISE NOTICE 'Tables processed: %', ".toList ++
     ((toString plan.processed).toList ++ ";".toList),
   "END $$;".toList]

theorem executable_closing (plan : Plan) :
    (closing plan).flatMap Line.executable = closingLines plan := by
  have counted : (Line.code ("    RAISE NOTICE 'Tables processed: %', " ++
      toString plan.processed ++ ";")).executable =
        ["    RAISE NOTICE 'Tables processed: %', ".toList ++
          ((toString plan.processed).toList ++ ";".toList)] := by
    have words : OneLine "    RAISE NOTICE 'Tables processed: %', " := oneLine_ofList (by decide)
    rw [executable_code ((words.append (oneLine_toString _)).append (by decide)),
      String.toList_append, String.toList_append, List.append_assoc]
    rw [String.toList_append, String.toList_append, List.append_assoc]
    exact isExecutable_ofList_append (by decide) (by decide) _
  have begun : (Line.code "DO $$").executable = [closingMark] :=
    executable_code (oneLine_ofList (by decide)) (isExecutable_ofList (by decide))
  have opened : (Line.code "BEGIN").executable = ["BEGIN".toList] :=
    executable_code (oneLine_ofList (by decide)) (isExecutable_ofList (by decide))
  have timed : (Line.code
      "    RAISE NOTICE 'camelCase conversion finished at %', NOW();").executable =
        ["    RAISE NOTICE 'camelCase conversion finished at %', NOW();".toList] :=
    executable_code (oneLine_ofList (by decide)) (isExecutable_ofList (by decide))
  have ended : (Line.code "END $$;").executable = ["END $$;".toList] :=
    executable_code (oneLine_ofList (by decide)) (isExecutable_ofList (by decide))
  simp only [closing, List.flatMap_cons, List.flatMap_nil, executable_blank, begun, opened, timed,
    counted, ended, List.nil_append, List.append_nil, List.cons_append, closingLines]

theorem executable_opening (plan : Plan) (plain : forall name, name ∈ plan.drops -> OneLine name) :
    (opening plan).flatMap Line.executable = [] := by
  have none : OneLine "No tables excluded" := oneLine_ofList (by decide)
  have start : OneLine "Excluded (dropped) tables: " := oneLine_ofList (by decide)
  have separator : OneLine ", " := oneLine_ofList (by decide)
  have listing := start.append (oneLine_intercalate separator plan.drops plain)
  unfold opening
  apply executable_comments (oneLine_ofList (by decide))
  cases plan.drops.isEmpty with
  | true => exact none
  | false => exact listing

theorem oneLine_title {plan : Plan} {options : Options} {part : Part}
    (member : part ∈ parts plan options) : OneLine part.title := by
  simp only [parts, List.mem_cons, List.not_mem_nil, or_false] at member
  rcases member with here | here | here | here | here | here | here | here <;> rw [here] <;>
    exact oneLine_ofList (by decide)

/-- The lines of a script are cut where they are joined, and where a line has
line feeds of its own. -/
theorem pieces_join {lines : List Line} (some : lines ≠ []) :
    Text.pieces '\n' (String.intercalate "\n" (lines.map Line.text)).toList =
      lines.flatMap fun line => Text.pieces '\n' line.text.toList := by
  have texts : (lines.map Line.text).map String.toList ≠ [] := by
    simpa only [ne_eq, List.map_eq_nil_iff] using some
  rw [String.toList_intercalate, show "\n".toList = ['\n'] from rfl,
    Text.pieces_intercalate texts, List.map_map, List.flatMap_map]
  rfl

theorem executable_join {lines : List Line} (some : lines ≠ []) :
    executable (String.intercalate "\n" (lines.map Line.text)).toList =
      lines.flatMap Line.executable := by
  rw [executable, pieces_join some, List.filter_flatMap]
  rfl

theorem lines_ne_nil (plan : Plan) (options : Options) : lines plan options ≠ [] := by
  unfold lines opening
  exact List.cons_ne_nil _ _

/-- The executable lines of a script: the statements of its plan, whatever
escapes from the advice, and the block at the end. -/
theorem executable_render (plan : Plan) (options : Options)
    (plain : forall name, name ∈ plan.drops -> OneLine name) :
    executable (render plan options).toList =
      ((plan.statements options.schema).flatMap fun step => (Line.statement step).executable) ++
        options.advice.flatMap escaping ++ closingLines plan := by
  have constraints := executable_comments
    (show OneLine "NOTE: constraints must be recreated manually" from oneLine_ofList (by decide))
    (show OneLine "after checking the new table and column names" from oneLine_ofList (by decide))
  have indices := executable_comments
    (show OneLine "NOTE: indices keep their old names and definitions;" from
      oneLine_ofList (by decide))
    (show OneLine "recreate them against the new column names" from oneLine_ofList (by decide))
  have functions := executable_comments
    (show OneLine "NOTE: every function referencing renamed tables/columns" from
      oneLine_ofList (by decide))
    (show OneLine "must be recreated with the new names" from oneLine_ofList (by decide))
  rw [render, executable_join (lines_ne_nil plan options), lines, List.flatMap_append, List.flatMap_append,
    executable_opening plan plain,
    executable_numberedParts 1 _ fun _ member => oneLine_title member, executable_closing]
  simp only [parts, List.flatMap_cons, List.flatMap_nil, constraints, indices, functions,
    executable_relationshipAdvice, executable_permissionAdvice plan options plain,
    List.flatMap_map, List.nil_append, List.append_nil, Plan.statements, Options.advice,
    List.flatMap_append, List.append_assoc]

end Script
end Recase
