import Recase.Proofs.Dump.Blocks
import Recase.Proofs.Text.Blank
import Recase.Proofs.Text.Pieces

namespace Recase

/-!
# Lines that do not matter

Most lines of a dump can be left out, and blanks at the ends of lines can be
added, without a change to anything but the constraints that are kept for the
user.  A line is noise where it is read if it is no header and is blank, is a
constraint, has a check, or is read outside of all tables.

Two runs of the reader are compared, one on the dump and one on what is left
of it.  Their states differ at most in constraints, in line numbers and in
what has been noted.  A line that is kept takes both runs from such states to
such states, and a line that is left out keeps the one run where the other
has stayed.
-/

def Table.unconstrained (table : Table) : Table :=
  { table with constraints := #[] }

/-- A schema without the constraints of its tables. -/
def Schema.unconstrained (schema : Schema) : Schema :=
  { schema with tables := schema.tables.map Table.unconstrained }

/-- Insertion does not look at constraints. -/
theorem Schema.unconstrained_insert (schema : Schema) (table : Table) :
    (schema.insert table).unconstrained = schema.unconstrained.insert table.unconstrained := by
  have position : schema.unconstrained.position? table.unconstrained.name =
      schema.position? table.name := rfl
  cases known : schema.position? table.name with
  | none =>
      rw [Schema.insert_of_fresh known, Schema.insert_of_fresh (position.trans known)]
      simp only [Schema.unconstrained, Schema.push, Array.map_push, Array.size_map,
        Table.unconstrained]
  | some spot =>
      rw [Schema.insert_of_known known, Schema.insert_of_known (position.trans known)]
      simp only [Schema.unconstrained, Array.map_setIfInBounds]

namespace Dump

/-- Neither does a line that is added to a table. -/
theorem unconstrained_absorb (table : Table) (line : List Char) :
    (absorb table line).unconstrained = (absorb table.unconstrained line).unconstrained := by
  unfold absorb
  split
  · rfl
  · split
    · rfl
    · split <;> rfl

/-! ## States of the reader that differ in constraints -/

/-- Whether two states of the reader have the same tables but for their
constraints. -/
structure Scan.Alike (one other : Scan) : Prop where
  schema : one.schema.unconstrained = other.schema.unconstrained
  opened : one.opened.map (fun block => block.table.unconstrained) =
    other.opened.map fun block => block.table.unconstrained

namespace Scan.Alike

variable {one other : Scan}

theorem refl (scan : Scan) : Scan.Alike scan scan :=
  ⟨rfl, rfl⟩

theorem symm (alike : one.Alike other) : other.Alike one :=
  ⟨alike.schema.symm, alike.opened.symm⟩

theorem trans {third : Scan} (alike : one.Alike other) (next : other.Alike third) :
    one.Alike third :=
  ⟨alike.schema.trans next.schema, alike.opened.trans next.opened⟩

/-- Either no table is open in both states, or tables that differ in their
constraints are. -/
theorem cases_opened (alike : one.Alike other) :
    (one.opened = none ∧ other.opened = none) ∨
      Exists fun block => Exists fun twin => one.opened = some block ∧
        other.opened = some twin ∧ block.table.unconstrained = twin.table.unconstrained := by
  have same := alike.opened
  cases here : one.opened with
  | none =>
      rw [here, Option.map_none] at same
      exact Or.inl ⟨rfl, Option.map_eq_none_iff.mp same.symm⟩
  | some block =>
      rw [here, Option.map_some] at same
      rcases Option.map_eq_some_iff.mp same.symm with ⟨twin, there, equal⟩
      exact Or.inr ⟨block, twin, rfl, there, equal.symm⟩

theorem note (alike : one.Alike other) (first second : Notice) :
    (one.note first).Alike (other.note second) :=
  ⟨alike.schema, alike.opened⟩

theorem close (alike : one.Alike other) {block twin : Block}
    (same : block.table.unconstrained = twin.table.unconstrained) :
    (one.close block).Alike (other.close twin) where
  schema := by
    simp only [Scan.close]
    rw [Schema.unconstrained_insert, Schema.unconstrained_insert, alike.schema, same]
  opened := rfl

theorem openTable (alike : one.Alike other) (header : Header) (first second : Nat) :
    (one.openTable header first).Alike (other.openTable header second) where
  schema := by
    rcases alike.cases_opened with ⟨here, there⟩ | ⟨block, twin, here, there, same⟩
    · simp only [Scan.openTable, here, there]
      exact alike.schema
    · simp only [Scan.openTable, here, there]
      exact ((alike.note _ _).close same).schema
  opened := rfl

theorem body (alike : one.Alike other) {block twin : Block}
    (same : block.table.unconstrained = twin.table.unconstrained) (line : List Char) :
    (one.body block line).Alike (other.body twin line) := by
  have filled : (absorb block.table line).unconstrained =
      (absorb twin.table line).unconstrained := by
    rw [unconstrained_absorb, same, ← unconstrained_absorb]
  unfold Scan.body
  split
  · exact alike.close filled
  · exact ⟨alike.schema, congrArg some filled⟩

/-- A line that both runs read keeps them alike, whatever its number is. -/
theorem step (alike : one.Alike other) (line : List Char) (first second : Nat) :
    (one.step line first).Alike (other.step line second) := by
  cases read : header? line with
  | some header =>
      simp only [Scan.step, read]
      exact alike.openTable header first second
  | none =>
      rcases alike.cases_opened with ⟨here, there⟩ | ⟨block, twin, here, there, same⟩
      · simp only [Scan.step, read, here, there]
        exact alike
      · simp only [Scan.step, read, here, there]
        exact alike.body same line

theorem finish (alike : one.Alike other) : one.finish.Alike other.finish := by
  rcases alike.cases_opened with ⟨here, there⟩ | ⟨block, twin, here, there, same⟩
  · simp only [Scan.finish, here, there]
    exact alike
  · simp only [Scan.finish, here, there]
    exact (alike.note _ _).close same

end Scan.Alike

/-! ## Noise -/

/-- Whether a line is noise in the state in which it is read. -/
structure Scan.IsNoise (scan : Scan) (line : List Char) : Prop where
  noHeader : header? line = none
  harmless : line = [] ∨ isConstraint line = true ∨ isCheck line = true ∨ scan.opened = none

theorem isNoise_nil (scan : Scan) : scan.IsNoise [] :=
  ⟨rfl, Or.inl rfl⟩

/-- A blank line, a constraint and a check add at most a constraint, and none
of them closes the table. -/
theorem body_of_harmless {scan : Scan} {block : Block} (opened : scan.opened = some block)
    {line : List Char} (harmless : line = [] ∨ isConstraint line = true ∨ isCheck line = true) :
    (scan.body block line).Alike scan := by
  have continues : line ≠ terminator := by
    rintro rfl
    revert harmless
    decide
  have filled : (absorb block.table line).unconstrained = block.table.unconstrained := by
    unfold absorb
    rcases harmless with rfl | constrains | checks
    · rfl
    · rw [if_pos constrains]
      rfl
    · split
      · rfl
      · rfl
  unfold Scan.body
  rw [if_neg continues]
  refine ⟨rfl, ?_⟩
  rw [opened]
  exact congrArg some filled

/-- A run that reads noise is still like a run that does not. -/
theorem step_of_isNoise {scan : Scan} {line : List Char} (noise : scan.IsNoise line)
    (number : Nat) : (scan.step line number).Alike scan := by
  cases opened : scan.opened with
  | none =>
      simp only [Scan.step, noise.noHeader, opened]
      exact .refl scan
  | some block =>
      have harmless : line = [] ∨ isConstraint line = true ∨ isCheck line = true := by
        rcases noise.harmless with blank | constrains | checks | outside
        · exact Or.inl blank
        · exact Or.inr (Or.inl constrains)
        · exact Or.inr (Or.inr checks)
        · rw [outside] at opened
          cases opened
      simp only [Scan.step, noise.noHeader, opened]
      exact body_of_harmless opened harmless

/-! ## Deleting lines and adding blanks -/

/-- A change to the lines of a text, which are counted from zero: some of them
are deleted, and the others get blanks at their ends. -/
structure Edit where
  deleted : Nat -> Bool
  before : Nat -> List Char
  after : Nat -> List Char
  blankBefore : forall position char, char ∈ before position ->
    Text.isBlank char = true ∧ char ≠ '\n'
  blankAfter : forall position char, char ∈ after position ->
    Text.isBlank char = true ∧ char ≠ '\n'

namespace Edit

variable (edit : Edit)

def padded (position : Nat) (line : List Char) : List Char :=
  edit.before position ++ line ++ edit.after position

/-- What is left of lines, of which the first one has the given position.  A
line is deleted with the line feed behind it.  The last line has none, and
deleting it leaves an empty one. -/
def lines (position : Nat) : List (List Char) -> List (List Char)
  | [] => []
  | [last] => [if edit.deleted position then [] else edit.padded position last]
  | line :: next :: others =>
      if edit.deleted position then lines (position + 1) (next :: others)
      else edit.padded position line :: lines (position + 1) (next :: others)

def apply (text : String) : String :=
  String.ofList (['\n'].intercalate (edit.lines 0 (Text.pieces '\n' text.toList)))

theorem trim_padded (position : Nat) (line : List Char) :
    Text.trim (edit.padded position line) = Text.trim line :=
  Text.trim_append_of_blank (fun char member => (edit.blankBefore position char member).1)
    (fun char member => (edit.blankAfter position char member).1) line

theorem not_mem_padded (position : Nat) {line : List Char} (whole : '\n' ∉ line) :
    '\n' ∉ edit.padded position line := by
  rw [padded, List.mem_append, List.mem_append, not_or, not_or]
  exact ⟨⟨fun member => (edit.blankBefore position _ member).2 rfl, whole⟩,
    fun member => (edit.blankAfter position _ member).2 rfl⟩

theorem lines_ne_nil (position : Nat) {lines : List (List Char)} (nonempty : lines ≠ []) :
    edit.lines position lines ≠ [] := by
  induction lines generalizing position with
  | nil => exact absurd rfl nonempty
  | cons line others inductionHypothesis =>
      cases others with
      | nil => exact List.cons_ne_nil _ _
      | cons next others =>
          rw [Edit.lines]
          split
          · exact inductionHypothesis (position + 1) (List.cons_ne_nil _ _)
          · exact List.cons_ne_nil _ _

theorem not_mem_lines {position : Nat} {lines : List (List Char)}
    (whole : forall line, line ∈ lines -> '\n' ∉ line) {line : List Char}
    (member : line ∈ edit.lines position lines) : '\n' ∉ line := by
  induction lines generalizing position with
  | nil => cases member
  | cons first others inductionHypothesis =>
      have firstWhole := whole first List.mem_cons_self
      cases others with
      | nil =>
          rw [Edit.lines, List.mem_singleton] at member
          rw [member]
          split
          · exact List.not_mem_nil
          · exact edit.not_mem_padded position firstWhole
      | cons next others =>
          have later (behind : line ∈ edit.lines (position + 1) (next :: others)) : '\n' ∉ line :=
            inductionHypothesis (fun other listed => whole other (List.mem_cons_of_mem _ listed))
              behind
          rw [Edit.lines] at member
          split at member
          · exact later member
          · rcases List.mem_cons.mp member with rfl | behind
            · exact edit.not_mem_padded position firstWhole
            · exact later behind

/-- The changed text is read line by line. -/
theorem lines_apply (text : String) :
    Text.lines (edit.apply text) =
      (edit.lines 0 (Text.pieces '\n' text.toList)).map Text.trim := by
  apply Text.lines_intercalate (edit.lines_ne_nil 0 (Text.pieces_ne_nil '\n' _))
  intro line member
  exact edit.not_mem_lines (fun _ listed => Text.not_mem_of_mem_pieces listed) member

/-- Whether all lines that are deleted are noise where they are read. -/
def DeletesNoise (text : String) : Prop :=
  forall position line, (Text.lines text)[position]? = some line ->
    edit.deleted position = true ->
      (scanFrom {} 1 ((Text.lines text).take position)).IsNoise line

/-- A run over lines and a run over what is left of them stay alike. -/
theorem alike_scanFrom {one other : Scan} (alike : one.Alike other) (lines : List (List Char))
    (position first second : Nat)
    (noise : forall offset line, (lines.map Text.trim)[offset]? = some line ->
      edit.deleted (position + offset) = true ->
        (scanFrom one first ((lines.map Text.trim).take offset)).IsNoise line) :
    (scanFrom one first (lines.map Text.trim)).Alike
      (scanFrom other second ((edit.lines position lines).map Text.trim)) := by
  induction lines generalizing one other position first second with
  | nil => exact alike
  | cons line others inductionHypothesis =>
      have here (deleted : edit.deleted position = true) : one.IsNoise (Text.trim line) :=
        noise 0 (Text.trim line) rfl deleted
      cases others with
      | nil =>
          rw [Edit.lines, List.map_singleton, List.map_singleton]
          split
          · rename_i deleted
            -- What is left is an empty line, which is noise itself.
            exact ((step_of_isNoise (here deleted) first).trans alike).trans
              (step_of_isNoise (isNoise_nil other) second).symm
          · rw [trim_padded]
            exact alike.step (Text.trim line) first second
      | cons next others =>
          have later : forall offset line', ((next :: others).map Text.trim)[offset]? = some line' ->
              edit.deleted (position + 1 + offset) = true ->
                (scanFrom (one.step (Text.trim line) first) (first + 1)
                  (((next :: others).map Text.trim).take offset)).IsNoise line' := by
            intro offset line' listed deleted
            rw [Nat.add_assoc, Nat.add_comm 1] at deleted
            exact noise (offset + 1) line' listed deleted
          rw [Edit.lines]
          split
          · rename_i deleted
            have still := (step_of_isNoise (here deleted) first).trans alike
            exact inductionHypothesis still (position + 1) (first + 1) second later
          · have both := alike.step (Text.trim line) first second
            have tail := inductionHypothesis both (position + 1) (first + 1) (second + 1) later
            simpa only [List.map_cons, scanFrom, trim_padded] using tail

/-- If only noise is deleted, the same tables are read but for their
constraints. -/
theorem unconstrained_analyze {text : String} (noise : edit.DeletesNoise text) :
    (analyze (edit.apply text)).unconstrained = (analyze text).unconstrained := by
  have runs : (scanFrom {} 1 (Text.lines text)).Alike
      (scanFrom {} 1 (Text.lines (edit.apply text))) := by
    rw [lines_apply]
    apply edit.alike_scanFrom (.refl {}) (Text.pieces '\n' text.toList) 0 1 1
    intro offset line listed deleted
    rw [Nat.zero_add] at deleted
    exact noise offset line listed deleted
  exact runs.finish.schema.symm

end Edit

end Dump
end Recase
