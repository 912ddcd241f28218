import Recase.Proofs.Json.Members
import Recase.Proofs.Options.RoundTrip

namespace Recase

/-!
# Options are read member by member

The text of options is an object with members in any order.  A member that is
known gives the value of a field, and it may be missing; any other member is
passed over, whatever its value is.  There may be blanks in front of every
token, and a key or a string may be spelled in any way.  So the text says what
its known members say, and the rest of its layout does not matter.

The same holds of a relationship, except that all of its members have to be
there.  The known members are those of the record that is read: a member that
is known in the options may stand in a relationship as any other.

A key and a string that is kept must stand for a text.  Half of a character
does not, so it is refused there, while it may stand in a value that is passed
over.
-/

/-! ## Relationships -/

namespace Relationship

def keys : List String :=
  ["from", "to", "column"]

inductive Member where
  | referencing (name : String)
  | referenced (name : String)
  | column (name : String)
  | other (key : String) (unknown : key ∉ keys)

namespace Member

def key : Member -> String
  | .referencing _ => "from"
  | .referenced _ => "to"
  | .column _ => "column"
  | .other key _ => key

def IsValue : Member -> List Char -> Prop
  | .referencing name | .referenced name | .column name => Json.LaidString name
  | .other _ _ => Json.Wellformed

/-- The layouts of a member. -/
def Laid (member : Member) : List Char -> Prop :=
  Json.LaidField member.key member.IsValue

def referencing? : Member -> Option String
  | .referencing name => some name
  | _ => none

def referenced? : Member -> Option String
  | .referenced name => some name
  | _ => none

def column? : Member -> Option String
  | .column name => some name
  | _ => none

end Member

/-- What members say when they are read one after the other. -/
def Draft.ofMembers (members : List Member) : Draft where
  referencing := members.findSome? Member.referencing?
  referenced := members.findSome? Member.referenced?
  column := members.findSome? Member.column?

/-- The layouts of a relationship as an object. -/
inductive Laid (relationship : Relationship) : List Char -> Prop where
  | mk {members : List Member} {text : List Char} (laid : Json.LaidObject Member.Laid members text)
      (once : Json.AtMostOnce Member.key keys members)
      (referencing : .referencing relationship.referencing ∈ members)
      (referenced : .referenced relationship.referenced ∈ members)
      (column : .column relationship.column ∈ members) : Laid relationship text

theorem Member.referencing?_keyed (member : Member) :
    member.referencing? = none ∨ member.key = "from" := by
  cases member <;> simp [referencing?, key]

theorem Member.referenced?_keyed (member : Member) :
    member.referenced? = none ∨ member.key = "to" := by
  cases member <;> simp [referenced?, key]

theorem Member.column?_keyed (member : Member) :
    member.column? = none ∨ member.key = "column" := by
  cases member <;> simp [column?, key]

theorem tracks_ofMembers :
    Json.Tracks Member.key Member.IsValue keys Draft.member Draft.ofMembers := by
  intro before current others colon text once token value
  cases current with
  | referencing name =>
      have missing := Json.findSome?_eq_none_of_key Member.referencing?_keyed
        (once.not_mem (by simp [Member.key, keys]))
      have next : Draft.ofMembers (before ++ [.referencing name]) =
          { Draft.ofMembers before with referencing := some name } := by
        simp [Draft.ofMembers, List.findSome?_append, missing, Member.referencing?,
          Member.referenced?, Member.column?]
      rw [next]
      refine (Json.readString_laid value).before.keep token
        (fun name => { Draft.ofMembers before with referencing := some name }) ?_
      intro text
      simp [Draft.member, Member.key, Draft.ofMembers, missing]
  | referenced name =>
      have missing := Json.findSome?_eq_none_of_key Member.referenced?_keyed
        (once.not_mem (by simp [Member.key, keys]))
      have next : Draft.ofMembers (before ++ [.referenced name]) =
          { Draft.ofMembers before with referenced := some name } := by
        simp [Draft.ofMembers, List.findSome?_append, missing, Member.referencing?,
          Member.referenced?, Member.column?]
      rw [next]
      refine (Json.readString_laid value).before.keep token
        (fun name => { Draft.ofMembers before with referenced := some name }) ?_
      intro text
      simp [Draft.member, Member.key, Draft.ofMembers, missing]
  | column name =>
      have missing := Json.findSome?_eq_none_of_key Member.column?_keyed
        (once.not_mem (by simp [Member.key, keys]))
      have next : Draft.ofMembers (before ++ [.column name]) =
          { Draft.ofMembers before with column := some name } := by
        simp [Draft.ofMembers, List.findSome?_append, missing, Member.referencing?,
          Member.referenced?, Member.column?]
      rw [next]
      refine (Json.readString_laid value).before.keep token
        (fun name => { Draft.ofMembers before with column := some name }) ?_
      intro text
      simp [Draft.member, Member.key, Draft.ofMembers, missing]
  | other key unknown =>
      have next : Draft.ofMembers (before ++ [.other key unknown]) = Draft.ofMembers before := by
        simp [Draft.ofMembers, List.findSome?_append, Member.referencing?, Member.referenced?,
          Member.column?]
      rw [next]
      simp only [keys, List.mem_cons, List.not_mem_nil, or_false, not_or] at unknown
      refine value.skip token ?_
      intro text
      simp [Draft.member, Member.key, unknown]

/-- The members of a relationship name its three parts. -/
theorem Laid.complete_ofMembers {relationship : Relationship} {members : List Member}
    (once : Json.AtMostOnce Member.key keys members)
    (referencing : .referencing relationship.referencing ∈ members)
    (referenced : .referenced relationship.referenced ∈ members)
    (column : .column relationship.column ∈ members) :
    (Draft.ofMembers members).complete = .ok relationship := by
  have from? := Json.findSome?_eq_some_of_mem once referencing (by simp [Member.key, keys])
    Member.referencing?_keyed rfl
  have to? := Json.findSome?_eq_some_of_mem once referenced (by simp [Member.key, keys])
    Member.referenced?_keyed rfl
  have column? := Json.findSome?_eq_some_of_mem once column (by simp [Member.key, keys])
    Member.column?_keyed rfl
  simp only [Draft.ofMembers, Draft.complete, from?, to?, column?]

/-- A relationship is read from all of its layouts. -/
theorem reads_laid {relationship : Relationship} {text : List Char}
    (laid : Laid relationship text) : Json.Reads read text relationship := by
  cases laid with
  | mk object once referencing referenced column =>
      refine tracks_ofMembers.readRecord object once fun text rest read => ?_
      have drafted : Json.membersFrom Draft.member {} true text = _ := read
      have complete := Laid.complete_ofMembers once referencing referenced column
      simp only [members, drafted, complete]

theorem Laid.starts {relationship : Relationship} {text : List Char}
    (laid : Laid relationship text) : Json.Starts text := by
  cases laid with
  | mk object =>
      cases object with
      | mk token _ _ => exact .mk token rfl (by decide) _

theorem readList_laid {relationships : List Relationship} {text : List Char}
    (laid : Json.LaidList Laid relationships text) : Json.Reads readList text relationships :=
  Json.readList_laidList (fun _ _ laid => ⟨reads_laid laid, laid.starts⟩) laid

end Relationship

/-! ## Options -/

namespace Options

def keys : List String :=
  ["schema", "excluded-tables", "relationships", "permission-notes"]

inductive Member where
  | schema (name : String)
  | excluded (names : List String)
  | relationships (list : List Relationship)
  | permissionNotes (notes : List String)
  | other (key : String) (unknown : key ∉ keys)

namespace Member

def key : Member -> String
  | .schema _ => "schema"
  | .excluded _ => "excluded-tables"
  | .relationships _ => "relationships"
  | .permissionNotes _ => "permission-notes"
  | .other key _ => key

def IsValue : Member -> List Char -> Prop
  | .schema name => Json.LaidString name
  | .excluded strings | .permissionNotes strings => Json.LaidList Json.LaidString strings
  | .relationships list => Json.LaidList Relationship.Laid list
  | .other _ _ => Json.Wellformed

/-- The layouts of a member. -/
def Laid (member : Member) : List Char -> Prop :=
  Json.LaidField member.key member.IsValue

def schema? : Member -> Option String
  | .schema name => some name
  | _ => none

def excluded? : Member -> Option (List String)
  | .excluded names => some names
  | _ => none

def relationships? : Member -> Option (List Relationship)
  | .relationships list => some list
  | _ => none

def permissionNotes? : Member -> Option (List String)
  | .permissionNotes notes => some notes
  | _ => none

theorem schema?_keyed (member : Member) : member.schema? = none ∨ member.key = "schema" := by
  cases member <;> simp [schema?, key]

theorem excluded?_keyed (member : Member) :
    member.excluded? = none ∨ member.key = "excluded-tables" := by
  cases member <;> simp [excluded?, key]

theorem relationships?_keyed (member : Member) :
    member.relationships? = none ∨ member.key = "relationships" := by
  cases member <;> simp [relationships?, key]

theorem permissionNotes?_keyed (member : Member) :
    member.permissionNotes? = none ∨ member.key = "permission-notes" := by
  cases member <;> simp [permissionNotes?, key]

end Member

/-- What members say when they are read one after the other. -/
def Draft.ofMembers (members : List Member) : Draft where
  schema := members.findSome? Member.schema?
  excluded := members.findSome? Member.excluded?
  relationships := members.findSome? Member.relationships?
  permissionNotes := members.findSome? Member.permissionNotes?

theorem tracks_ofMembers :
    Json.Tracks Member.key Member.IsValue keys Draft.member Draft.ofMembers := by
  intro before current others colon text once token value
  cases current with
  | schema name =>
      have missing := Json.findSome?_eq_none_of_key Member.schema?_keyed
        (once.not_mem (by simp [Member.key, keys]))
      have next : Draft.ofMembers (before ++ [.schema name]) =
          { Draft.ofMembers before with schema := some name } := by
        simp [Draft.ofMembers, List.findSome?_append, missing, Member.schema?, Member.excluded?,
          Member.relationships?, Member.permissionNotes?]
      rw [next]
      refine (Json.readString_laid value).before.keep token
        (fun name => { Draft.ofMembers before with schema := some name }) ?_
      intro text
      simp [Draft.member, Member.key, Draft.ofMembers, missing]
  | excluded names =>
      have missing := Json.findSome?_eq_none_of_key Member.excluded?_keyed
        (once.not_mem (by simp [Member.key, keys]))
      have next : Draft.ofMembers (before ++ [.excluded names]) =
          { Draft.ofMembers before with excluded := some names } := by
        simp [Draft.ofMembers, List.findSome?_append, missing, Member.schema?, Member.excluded?,
          Member.relationships?, Member.permissionNotes?]
      rw [next]
      refine (Json.readStrings_laidList value).before.keep token
        (fun names => { Draft.ofMembers before with excluded := some names }) ?_
      intro text
      simp [Draft.member, Member.key, Draft.ofMembers, missing]
  | relationships list =>
      have missing := Json.findSome?_eq_none_of_key Member.relationships?_keyed
        (once.not_mem (by simp [Member.key, keys]))
      have next : Draft.ofMembers (before ++ [.relationships list]) =
          { Draft.ofMembers before with relationships := some list } := by
        simp [Draft.ofMembers, List.findSome?_append, missing, Member.schema?, Member.excluded?,
          Member.relationships?, Member.permissionNotes?]
      rw [next]
      refine (Relationship.readList_laid value).before.keep token
        (fun list => { Draft.ofMembers before with relationships := some list }) ?_
      intro text
      simp [Draft.member, Member.key, Draft.ofMembers, missing]
  | permissionNotes notes =>
      have missing := Json.findSome?_eq_none_of_key Member.permissionNotes?_keyed
        (once.not_mem (by simp [Member.key, keys]))
      have next : Draft.ofMembers (before ++ [.permissionNotes notes]) =
          { Draft.ofMembers before with permissionNotes := some notes } := by
        simp [Draft.ofMembers, List.findSome?_append, missing, Member.schema?, Member.excluded?,
          Member.relationships?, Member.permissionNotes?]
      rw [next]
      refine (Json.readStrings_laidList value).before.keep token
        (fun notes => { Draft.ofMembers before with permissionNotes := some notes }) ?_
      intro text
      simp [Draft.member, Member.key, Draft.ofMembers, missing]
  | other key unknown =>
      have next : Draft.ofMembers (before ++ [.other key unknown]) = Draft.ofMembers before := by
        simp [Draft.ofMembers, List.findSome?_append, Member.schema?, Member.excluded?,
          Member.relationships?, Member.permissionNotes?]
      rw [next]
      simp only [keys, List.mem_cons, List.not_mem_nil, or_false, not_or] at unknown
      refine value.skip token ?_
      intro text
      simp [Draft.member, Member.key, unknown]

/-- The options that members say.  What no member says has its usual value. -/
def ofMembers (members : List Member) : Options :=
  let usual : Options := {}
  { schema := (members.findSome? Member.schema?).getD usual.schema
    excluded := (members.findSome? Member.excluded?).getD usual.excluded
    relationships := (members.findSome? Member.relationships?).getD usual.relationships
    permissionNotes := (members.findSome? Member.permissionNotes?).getD usual.permissionNotes }

theorem reads_laidObject {members : List Member} {text : List Char}
    (laid : Json.LaidObject Member.Laid members text)
    (once : Json.AtMostOnce Member.key keys members) :
    Json.Reads read text (ofMembers members) := by
  refine tracks_ofMembers.readRecord laid once fun text rest read => ?_
  have drafted : Json.membersFrom Draft.member {} true text = _ := read
  rw [Options.members, drafted]
  rfl

/-- Options are read member by member, in whichever order the members come and
whatever is among them: each field is what its member says, or what is usual if
there is none. -/
theorem ofJson_laidObject {members : List Member} {text blanks : List Char}
    (laid : Json.LaidObject Member.Laid members text)
    (once : Json.AtMostOnce Member.key keys members) (gap : Json.IsGap blanks) :
    Options.ofJson (String.ofList (text ++ blanks)) = .ok (ofMembers members) :=
  ofJson_of_reads (reads_laidObject laid once) gap

section

open Json

/-- Options with their members in disorder and with a member to pass over on
both sides, whose value is no value of any type that is known here. -/
theorem ofJson_disordered_members :
    Options.ofJson
        ("\x7b\"x\":[-1.5e+3,\"\\ud800\"],\n\"\\u0073chema\":\"app\",\"relationships\":" ++
          "[\x7b\"column\":\"id\",\"to\":\"b\",\"x\":null,\"from\":\"a\"\x7d],\"x\":null\x7d\n") =
      .ok { schema := "app", relationships := [⟨"a", "b", "id"⟩] } := by
  have newLine : IsGap ['\n'] := fun char member => by
    rw [List.mem_singleton.mp member]
    rfl
  have one (digit : Char) (isDigit : digit.isDigit = true) : IsDigits [digit] :=
    ⟨List.cons_ne_nil _ _, by simpa using isDigit⟩
  have number : Wellformed "-1.5e+3".toList :=
    .number isGap_nil (.negative (.mk (.digits (one '1' rfl) (by decide)) (.some (one '5' rfl))
      (.some (.inl rfl) (.inr (.inl rfl)) (one '3' rfl))))
  have half : Wellformed "\"\\ud800\"".toList :=
    .string (.mk (.mk isGap_nil) (.cons (.unit 'd' '8' '0' '0' rfl) .nil))
  have null : Wellformed "null".toList := .word (.mk isGap_nil) .null
  have list : Wellformed "[-1.5e+3,\"\\ud800\"]".toList := by
    refine @Wellformed.list _ _ ["-1.5e+3".toList, "\"\\ud800\"".toList] (.mk isGap_nil) ?_
      (.next .none _ (.next (.some (.mk isGap_nil)) _ (.close (.mk isGap_nil))))
    rintro item (_ | ⟨_, _ | ⟨_, _ | _⟩⟩)
    · exact number
    · exact half
  have colon : Token ':' [':'] := .mk isGap_nil
  have quoted := laidString_quoted
  have four {closing : Char} {first second third fourth : List Char} :
      Joined closing true [first, second, third, fourth]
        (first ++ ([','] ++ (second ++ ([','] ++ (third ++ ([','] ++ (fourth ++ [closing]))))))) :=
    .next .none _ (.next (.some (.mk isGap_nil)) _ (.next (.some (.mk isGap_nil)) _
      (.next (.some (.mk isGap_nil)) _ (.close (.mk isGap_nil)))))
  have relationship : Relationship.Laid ⟨"a", "b", "id"⟩
      "\x7b\"column\":\"id\",\"to\":\"b\",\"x\":null,\"from\":\"a\"\x7d".toList := by
    refine @Relationship.Laid.mk _
      [.column "id", .referenced "b", .other "x" (by decide), .referencing "a"] _
      (.mk (.mk isGap_nil) (.cons (.mk (quoted _) colon (quoted _))
        (.cons (.mk (quoted _) colon (quoted _)) (.cons (.mk (quoted _) colon null)
          (.cons (.mk (quoted _) colon (quoted _)) .nil)))) four)
      ?_ (by simp) (by simp) (by simp)
    unfold AtMostOnce
    decide
  have small : SpelledChar 's' "\\u0073".toList := .unit '0' '0' '7' '3' 0x73 rfl rfl rfl
  have schema : LaidString "schema" "\n\"\\u0073chema\"".toList :=
    @LaidString.mk "schema" _ _ (.mk newLine) (.cons small (spelled_escape "chema".toList))
  have once : AtMostOnce Member.key keys
      [.other "x" (by decide), .schema "app", .relationships [⟨"a", "b", "id"⟩],
        .other "x" (by decide)] := by
    unfold AtMostOnce
    decide
  have read (text : List Char) (laid : LaidObject Member.Laid _ text) :=
    ofJson_laidObject laid once newLine
  have same := read _
    (.mk (.mk isGap_nil) (.cons (.mk (quoted _) colon list) (.cons (.mk schema colon (quoted _))
      (.cons (.mk (quoted _) colon
          (.mk (.mk isGap_nil) (.cons relationship .nil) (.next .none _ (.close (.mk isGap_nil)))))
        (.cons (.mk (quoted _) colon null) .nil)))) four)
  refine Eq.trans (congrArg Options.ofJson ?_) same
  decide +kernel

end

/-- A key that is half of a character is well-formed, but it is no text, and so
options with such a key are refused. -/
theorem ofJson_half_in_key :
    Json.QuotedText "\"\\ud800\"".toList ∧
      (forall key, ¬ Json.LaidString key "\"\\ud800\"".toList) ∧
      Json.Wellformed "\x7b\"\\ud800\":null\x7d".toList ∧
      forall options, Options.ofJson "\x7b\"\\ud800\":null\x7d" ≠ .ok options := by
  have quoted : Json.QuotedText "\"\\ud800\"".toList :=
    .mk (.mk Json.isGap_nil) (.cons (.unit 'd' '8' '0' '0' rfl) .nil)
  refine ⟨quoted, ?_, ?_, ?_⟩
  · intro key laid
    rcases Json.readString_laid laid [] with ⟨shorter, read⟩
    have refused : (Json.readString ("\"\\ud800\"".toList ++ [])).isOk = false := by
      decide +kernel
    rw [read] at refused
    cases refused
  · refine @Json.Wellformed.object _ _ [⟨"\"\\ud800\"".toList, [':'], "null".toList⟩]
      (.mk Json.isGap_nil) ?_ ?_ ?_ (.next .none _ (.close (.mk Json.isGap_nil)))
    all_goals rintro member (_ | ⟨_, _ | _⟩)
    · exact quoted
    · exact .mk Json.isGap_nil
    · exact .word (.mk Json.isGap_nil) .null
  · intro options read
    have refused : (Options.ofJson "\x7b\"\\ud800\":null\x7d").isOk = false := by
      decide +kernel
    rw [read] at refused
    cases refused

end Options

end Recase
