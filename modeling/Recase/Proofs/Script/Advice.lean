import Recase.Proofs.Options
import Recase.Proofs.Script.Executable

namespace Recase

/-!
# Scripts for the same tables with other advice

The relationships and the permission notes are meant for the reader of a
script, and the plan does not depend on them.  The executable lines do as soon
as some of the advice has a line feed in it: what stands behind the line feed
is no comment any more.  That is the only way in which advice becomes part of
what is carried out.
-/

namespace Script

theorem executable_render_of_check {options : Options} (admitted : options.check = .ok ())
    (schema : Schema) :
    executable (render (Plan.ofSchema schema options) options).toList =
      (((Plan.ofSchema schema options).statements options.schema).flatMap fun step =>
        (Line.statement step).executable) ++
        options.advice.flatMap escaping ++ closingLines (Plan.ofSchema schema options) := by
  apply executable_render
  intro name member
  exact oneLine_of_isPlain ((options.check_eq_ok_iff.mp admitted).2 name member)

end Script

/-- The plan does not depend on the advice. -/
theorem Plan.ofSchema_congr {first second : Options} (schema : first.schema = second.schema)
    (excluded : first.excluded = second.excluded) (tables : Schema) :
    Plan.ofSchema tables first = Plan.ofSchema tables second := by
  have kept : first.kept tables.toList = second.kept tables.toList := by
    unfold Options.kept Options.excludes
    rw [excluded]
  have tableRenames : Table.rename? first = Table.rename? second := by
    funext table
    unfold Table.rename? Options.schemaOf
    rw [schema]
  have columnRenames : Table.columnRenames first = Table.columnRenames second := by
    funext table
    unfold Table.columnRenames Options.schemaOf
    rw [schema]
  unfold Plan.ofSchema
  rw [kept, tableRenames, columnRenames, excluded]

/-- The scripts for two options that differ in their advice alone have the
same executable lines exactly if the same lines escape from their advice. -/
theorem executable_render_eq_iff {first second : Options}
    (firstAdmitted : first.check = .ok ()) (secondAdmitted : second.check = .ok ())
    (schema : first.schema = second.schema) (excluded : first.excluded = second.excluded)
    (tables : Schema) :
    Script.executable (Script.render (Plan.ofSchema tables first) first).toList =
        Script.executable (Script.render (Plan.ofSchema tables second) second).toList ↔
      first.advice.flatMap Script.escaping = second.advice.flatMap Script.escaping := by
  rw [Script.executable_render_of_check firstAdmitted,
    Script.executable_render_of_check secondAdmitted,
    Plan.ofSchema_congr schema excluded tables, schema, List.append_left_inj,
    List.append_right_inj]

/-- Two admitted options that differ in their advice alone give scripts with
the same executable lines exactly if the same lines escape from their advice.
Nothing escapes from advice without line feeds. -/
theorem convert_executable_eq_iff (dump : String) {first second : Options}
    (firstAdmitted : first.check = .ok ()) (secondAdmitted : second.check = .ok ())
    (schema : first.schema = second.schema) (excluded : first.excluded = second.excluded) :
    Exists fun left => Exists fun right =>
      convert dump first = .ok left ∧ convert dump second = .ok right ∧
        (Script.executable left.script.toList = Script.executable right.script.toList ↔
          first.advice.flatMap Script.escaping = second.advice.flatMap Script.escaping) ∧
        ((forall text, text ∈ first.advice ++ second.advice -> OneLine text) ->
          Script.executable left.script.toList = Script.executable right.script.toList) := by
  have compared := executable_render_eq_iff firstAdmitted secondAdmitted schema excluded
    (Dump.analyze dump)
  have closed (clean : forall text, text ∈ first.advice ++ second.advice -> OneLine text) :
      first.advice.flatMap Script.escaping = second.advice.flatMap Script.escaping := by
    rw [Script.flatMap_escaping_of_oneLine fun text member =>
        clean text (List.mem_append_left _ member),
      Script.flatMap_escaping_of_oneLine fun text member =>
        clean text (List.mem_append_right _ member)]
  rcases script_convert firstAdmitted dump with ⟨left, leftConverted, leftScript⟩
  rcases script_convert secondAdmitted dump with ⟨right, rightConverted, rightScript⟩
  rw [← leftScript, ← rightScript] at compared
  exact ⟨left, right, leftConverted, rightConverted, compared,
    fun clean => compared.mpr (closed clean)⟩

/-- The options without notes beside those with a note of two lines. -/
theorem convert_executable_eq_iff_of_note :
    let plain : Options := {}
    let noted : Options := { permissionNotes := ["ask Ann\nDROP TABLE hotels;"] }
    (plain.check = .ok () ∧ noted.check = .ok () ∧ plain.schema = noted.schema ∧
        plain.excluded = noted.excluded) ∧
      Exists fun left => Exists fun right =>
        convert "" plain = .ok left ∧ convert "" noted = .ok right ∧
          (Script.executable left.script.toList = Script.executable right.script.toList ↔
            plain.advice.flatMap Script.escaping = noted.advice.flatMap Script.escaping) ∧
          ((forall text, text ∈ plain.advice ++ noted.advice -> OneLine text) ->
            Script.executable left.script.toList = Script.executable right.script.toList) := by
  have admitted := Options.check_advice ({} : Options).relationships
  exact ⟨⟨admitted [], admitted _, rfl, rfl⟩,
    convert_executable_eq_iff "" (admitted []) (admitted _) rfl rfl⟩

/-- The executable lines of a script can depend on the advice. -/
theorem executable_depends_on_advice :
    ¬ forall (dump : String) (first second : Options) (left right : Conversion),
      first.check = .ok () -> second.check = .ok () -> first.schema = second.schema ->
        first.excluded = second.excluded -> convert dump first = .ok left ->
          convert dump second = .ok right ->
            Script.executable left.script.toList = Script.executable right.script.toList := by
  intro always
  have plain := Options.check_advice ({} : Options).relationships []
  have noted := Options.check_advice ({} : Options).relationships ["ask Ann\nDROP TABLE hotels;"]
  rcases script_convert plain "" with ⟨left, leftConverted, leftScript⟩
  rcases script_convert noted "" with ⟨right, rightConverted, rightScript⟩
  have same := always _ _ _ _ _ plain noted rfl rfl leftConverted rightConverted
  rw [leftScript, rightScript] at same
  have escaped := (executable_render_eq_iff plain noted rfl rfl _).mp same
  revert escaped
  decide +kernel

end Recase
