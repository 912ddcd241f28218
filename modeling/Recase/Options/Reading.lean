import Recase.Json.Reader
import Recase.Options

namespace Recase

/-!
# Reading options from JSON

The options are read from a JSON object.  Its keys may come in any order, a
key that is not known is passed over, and what is missing keeps its usual
value.  A relationship is an object too, but all of its keys are required.  No
key may be given twice.

Both may also be written as lists, with the values in the order of the
fields.  A list for the options may stop early, and then the rest keeps its
usual value.
-/

/-- What has been read of a relationship. -/
structure Relationship.Draft where
  referencing : Option String := none
  referenced : Option String := none
  column : Option String := none

def Relationship.Draft.member : Json.MemberReader Relationship.Draft := fun draft key text =>
  if key = "from" then
    (Json.readField key draft.referencing Json.readString text).map fun (name, rest) =>
      ({ draft with referencing := some name }, rest)
  else if key = "to" then
    (Json.readField key draft.referenced Json.readString text).map fun (name, rest) =>
      ({ draft with referenced := some name }, rest)
  else if key = "column" then
    (Json.readField key draft.column Json.readString text).map fun (name, rest) =>
      ({ draft with column := some name }, rest)
  else (Json.skipField text).map fun rest => (draft, rest)

/-- The relationship, or the first key that is missing. -/
def Relationship.Draft.complete (draft : Relationship.Draft) : Except String Relationship :=
  match draft.referencing, draft.referenced, draft.column with
  | some referencing, some referenced, some column => .ok ⟨referencing, referenced, column⟩
  | none, _, _ => .error "from"
  | _, none, _ => .error "to"
  | _, _, none => .error "column"

/-- Read a name of a relationship that is written as a list, behind `count`
other names. -/
def Relationship.item (count : Nat) : Json.Reader String := fun text =>
  match Json.itemOrEnd Json.readString (count == 0) text with
  | .error fault => .error fault
  | .ok (some name, rest) => .ok (name, rest)
  | .ok (none, rest) => .error (.before (.tooFewItems count "Relationship" 3) rest.val)

/-- Read a relationship that is written as a list, behind its bracket. -/
def Relationship.items : Json.Reader Relationship := fun text => do
  let (referencing, first) ← Relationship.item 0 text
  let (referenced, second) ← Relationship.item 1 first.val
  let (column, third) ← Relationship.item 2 second.val
  let rest ← Json.listEnd third.val
  return (⟨referencing, referenced, column⟩, first.within (second.within (third.within rest)))

/-- Read a relationship that is written as an object, behind its brace. -/
def Relationship.members : Json.Reader Relationship := fun text =>
  match Json.membersFrom Relationship.Draft.member {} true text with
  | .error fault => .error fault
  | .ok (draft, rest) =>
      match draft.complete with
      | .ok relationship => .ok (relationship, rest)
      | .error key => .error (.before (.missingField key) rest.val)

def Relationship.read : Json.Reader Relationship :=
  Json.readRecord "Relationship" Relationship.items Relationship.members

/-- What has been read of the options. -/
structure Options.Draft where
  schema : Option String := none
  excluded : Option (List String) := none
  relationships : Option (List Relationship) := none
  permissionNotes : Option (List String) := none

/-- The options, with their usual values in place of what is missing. -/
def Options.Draft.complete (draft : Options.Draft) : Options :=
  let usual : Options := {}
  { schema := draft.schema.getD usual.schema
    excluded := draft.excluded.getD usual.excluded
    relationships := draft.relationships.getD usual.relationships
    permissionNotes := draft.permissionNotes.getD usual.permissionNotes }

def Relationship.readList : Json.Reader (List Relationship) :=
  Json.readList Relationship.read

def Options.Draft.member : Json.MemberReader Options.Draft := fun draft key text =>
  if key = "schema" then
    (Json.readField key draft.schema Json.readString text).map fun (name, rest) =>
      ({ draft with schema := some name }, rest)
  else if key = "excluded-tables" then
    (Json.readField key draft.excluded Json.readStrings text).map fun (names, rest) =>
      ({ draft with excluded := some names }, rest)
  else if key = "relationships" then
    (Json.readField key draft.relationships Relationship.readList text).map fun (list, rest) =>
      ({ draft with relationships := some list }, rest)
  else if key = "permission-notes" then
    (Json.readField key draft.permissionNotes Json.readStrings text).map fun (notes, rest) =>
      ({ draft with permissionNotes := some notes }, rest)
  else (Json.skipField text).map fun rest => (draft, rest)

/-- Read options that are written as an object, behind the brace. -/
def Options.members : Json.Reader Options := fun text =>
  (Json.membersFrom Options.Draft.member {} true text).map fun (draft, rest) =>
    (draft.complete, rest)

/-- Read an item of a list, if it has not come to its end, and go on with what
follows the item. -/
def Options.Draft.thenItem {α : Type} (draft : Options.Draft) (reader : Json.Reader α)
    (first : Bool) (next : α -> Json.Reader Options.Draft) :
    Json.Reader Options.Draft := fun text =>
  match Json.itemOrEnd reader first text with
  | .error fault => .error fault
  | .ok (none, rest) => .ok (draft, rest)
  | .ok (some item, rest) =>
      (next item rest.val).map fun (final, left) => (final, rest.within left)

/-- Read options that are written as a list, behind the bracket. -/
def Options.items : Json.Reader Options := fun text =>
  let draft : Options.Draft := {}
  let read :=
    draft.thenItem Json.readString true fun schema =>
      let draft := { draft with schema := some schema }
      draft.thenItem Json.readStrings false fun excluded =>
        let draft := { draft with excluded := some excluded }
        draft.thenItem Relationship.readList false fun relationships =>
          let draft := { draft with relationships := some relationships }
          draft.thenItem Json.readStrings false fun notes => fun rest =>
            (Json.listEnd rest).map fun left =>
              ({ draft with permissionNotes := some notes }, left)
  (read text).map fun (final, rest) => (final.complete, rest)

def Options.read : Json.Reader Options :=
  Json.readRecord "ConvertOptions" Options.items Options.members

/-- Read options from a text that holds nothing else. -/
def Options.readAll (text : List Char) : Except Json.Fault Options := do
  let (options, rest) ← Options.read text
  Json.textEnd rest.val
  return options

/-- The options that a JSON text stands for. -/
def Options.ofJson (text : String) : Except Json.Diagnosis Options :=
  (Options.readAll text.toList).mapError fun fault => fault.diagnosis text.toList

/-- What the user is told about options that cannot be read. -/
def Options.unreadable (diagnosis : Json.Diagnosis) : String :=
  "JSON parsing error: " ++ diagnosis.message

end Recase
