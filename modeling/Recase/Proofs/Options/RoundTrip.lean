import Recase.Options.Reading
import Recase.Proofs.Json.Reading

namespace Recase

/-!
# Options are read back

Options that are written as JSON are read back from the text, whichever of its
layouts this is.  In particular they are read back from the compact text and
from the pretty one.  Nothing is asked of the names and the notes, nor of the
numbers of them: an empty list that is written is not mistaken for a list that
is missing.
-/

/-! ## Relationships -/

theorem Relationship.run_members {relationship : Relationship} {texts : List (List Char)}
    (laid : List.Forall₂ Json.LaidMember
      [("from", .string relationship.referencing), ("to", .string relationship.referenced),
        ("column", .string relationship.column)] texts) :
    Json.Run Relationship.Draft.member {} texts
      { referencing := some relationship.referencing
        referenced := some relationship.referenced
        column := some relationship.column } := by
  rcases laid with _ | ⟨referencing, _ | ⟨referenced, _ | ⟨column, _ | _⟩⟩⟩
  refine .field Json.inverts_string referencing
    (fun name => { referencing := some name }) (fun _ => rfl) ?_
  refine .field Json.inverts_string referenced
    (fun name => { referencing := some relationship.referencing, referenced := some name })
    (fun _ => rfl) ?_
  refine .field Json.inverts_string column
    (fun name =>
      { referencing := some relationship.referencing
        referenced := some relationship.referenced
        column := some name })
    (fun _ => rfl) ?_
  exact .done _

theorem Relationship.inverts_read : Json.Inverts Relationship.read Relationship.toJson := by
  intro relationship text laid
  cases laid with
  | object token laid joined =>
      refine Json.readRecord_object token ?_
      intro rest
      rcases Json.membersFrom_joined (run_members laid) joined rest with ⟨shorter, read⟩
      refine ⟨shorter, ?_⟩
      rw [members, read]
      rfl

/-! ## Options -/

theorem Options.run_members {options : Options} {texts : List (List Char)}
    (laid : List.Forall₂ Json.LaidMember
      [("schema", .string options.schema), ("excluded-tables", .strings options.excluded),
        ("relationships", .array (options.relationships.map Relationship.toJson)),
        ("permission-notes", .strings options.permissionNotes)] texts) :
    Json.Run Options.Draft.member {} texts
      { schema := some options.schema
        excluded := some options.excluded
        relationships := some options.relationships
        permissionNotes := some options.permissionNotes } := by
  rcases laid with _ | ⟨schema, _ | ⟨excluded, _ | ⟨relationships, _ | ⟨notes, _ | _⟩⟩⟩⟩
  refine .field Json.inverts_string schema
    (fun name => { schema := some name }) (fun _ => rfl) ?_
  refine .field Json.inverts_strings excluded
    (fun names => { schema := some options.schema, excluded := some names }) (fun _ => rfl) ?_
  refine .field Relationship.inverts_read.list relationships
    (fun list =>
      { schema := some options.schema
        excluded := some options.excluded
        relationships := some list })
    (fun _ => rfl) ?_
  refine .field Json.inverts_strings notes
    (fun notes =>
      { schema := some options.schema
        excluded := some options.excluded
        relationships := some options.relationships
        permissionNotes := some notes })
    (fun _ => rfl) ?_
  exact .done _

theorem Options.inverts_read : Json.Inverts Options.read Options.toJson := by
  intro options text laid
  cases laid with
  | object token laid joined =>
      refine Json.readRecord_object token ?_
      intro rest
      rcases Json.membersFrom_joined (run_members laid) joined rest with ⟨shorter, read⟩
      refine ⟨shorter, ?_⟩
      rw [members, read]
      rfl

/-- What is read at the beginning of a text is what the text stands for, if
there are only blanks behind it. -/
theorem Options.ofJson_of_reads {options : Options} {text blanks : List Char}
    (reads : Json.Reads Options.read text options) (gap : Json.IsGap blanks) :
    Options.ofJson (String.ofList (text ++ blanks)) = .ok options := by
  rcases reads blanks with ⟨shorter, read⟩
  rw [Options.ofJson, String.toList_ofList, Options.readAll, read]
  simp [bind, Except.bind, Json.textEnd_gap gap, Except.mapError, pure, Except.pure]

/-- Options are read from any layout of their JSON, and there may be blanks
behind it. -/
theorem Options.ofJson_laid {options : Options} {text blanks : List Char}
    (laid : Json.Laid options.toJson text) (gap : Json.IsGap blanks) :
    Options.ofJson (String.ofList (text ++ blanks)) = .ok options :=
  Options.ofJson_of_reads (Options.inverts_read options text laid) gap

/-- All options are read back from their compact JSON text and from their
pretty one. -/
theorem Options.ofJson_toJson (options : Options) :
    Options.ofJson options.toJson.compact = .ok options ∧
      Options.ofJson options.toJson.pretty = .ok options := by
  constructor
  · have read := Options.ofJson_laid (Json.laid_compactChars options.toJson) Json.isGap_nil
    rwa [List.append_nil] at read
  · have read := Options.ofJson_laid (Json.laid_prettyChars 0 options.toJson) Json.isGap_nil
    rwa [List.append_nil] at read

end Recase
