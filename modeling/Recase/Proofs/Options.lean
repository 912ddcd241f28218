import Recase.Conversion

namespace Recase

/-!
# Options that are admitted

The check admits options when their schema and all their excluded tables can
be written bare, and a conversion succeeds for exactly these options.
-/

theorem Options.check_eq_ok_iff (options : Options) :
    options.check = .ok () ↔
      Identifier.isPlain options.schema = true ∧
        forall name, name ∈ options.excluded -> Identifier.isPlain name = true := by
  unfold check
  by_cases plain : Identifier.isPlain options.schema = true
  · rw [if_pos plain]
    cases found : options.excluded.find? (fun name => !Identifier.isPlain name) with
    | some bad =>
        have refused := List.find?_some found
        constructor
        · intro admitted
          cases admitted
        · intro all
          rw [all.2 bad (List.mem_of_find?_eq_some found)] at refused
          cases refused
    | none =>
        rw [List.find?_eq_none] at found
        constructor
        · intro _
          exact ⟨plain, fun name member => by simpa using found name member⟩
        · intro _
          rfl
  · rw [if_neg plain]
    constructor
    · intro admitted
      cases admitted
    · intro all
      exact absurd all.1 plain

/-- The names that the options have by default are admitted. -/
theorem Options.check_advice (relationships : List Relationship) (notes : List String) :
    ({ relationships := relationships, permissionNotes := notes } : Options).check = .ok () := by
  apply (Options.check_eq_ok_iff _).mpr
  constructor
  · exact (by decide : Identifier.isPlain "public" = true)
  · exact (by decide : forall name, name ∈ ["eventManagers"] -> Identifier.isPlain name = true)

/-- What a conversion gives when the options are admitted. -/
theorem convert_of_check {options : Options} (admitted : options.check = .ok ()) (dump : String) :
    convert dump options = .ok
      { schema := Dump.analyze dump
        plan := Plan.ofSchema (Dump.analyze dump) options
        script := Script.render (Plan.ofSchema (Dump.analyze dump) options) options
        notices := (Dump.scan dump).notices.toList } := by
  rw [convert, admitted]
  rfl

/-- A conversion succeeds with the plan of the tables read and with its
script. -/
theorem exists_convert {options : Options} (admitted : options.check = .ok ()) (dump : String) :
    Exists fun conversion =>
      convert dump options = .ok conversion ∧
        conversion.plan = Plan.ofSchema (Dump.analyze dump) options ∧
          conversion.script =
            Script.render (Plan.ofSchema (Dump.analyze dump) options) options := by
  apply Exists.intro
  refine ⟨convert_of_check admitted dump, ?_, ?_⟩
  · dsimp only
  · dsimp only

/-- A conversion succeeds with the script of the plan of the tables read. -/
theorem script_convert {options : Options} (admitted : options.check = .ok ()) (dump : String) :
    Exists fun conversion =>
      convert dump options = .ok conversion ∧
        conversion.script =
          Script.render (Plan.ofSchema (Dump.analyze dump) options) options := by
  rcases exists_convert admitted dump with ⟨conversion, converted, _, script⟩
  exact ⟨conversion, converted, script⟩

end Recase
