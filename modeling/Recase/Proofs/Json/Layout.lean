import Mathlib.Data.List.Forall2
import Recase.Proofs.Json.Spelling

namespace Recase
namespace Json

/-!
# Layouts of a value

The text of a value leaves room for blanks in front of every token and for
other spellings of its strings.  A layout is a text that uses this freedom in
any way.  The compact text and the pretty text are two layouts of the same
value, and what holds of all layouts need not be said twice for them.
-/

def IsGap (text : List Char) : Prop :=
  forall char, char ∈ text -> isSpace char = true

/-- A token with blanks in front. -/
inductive Token (char : Char) : List Char -> Prop where
  | mk {gap : List Char} (blank : IsGap gap) : Token char (gap ++ [char])

/-- What separates an element from the one before it, if there is any. -/
inductive Comma : Bool -> List Char -> Prop where
  | none : Comma true []
  | some {text : List Char} (comma : Token ',' text) : Comma false text

/-- The texts of elements with commas between them, up to the bracket that
closes the list or the object. -/
inductive Joined (closing : Char) : Bool -> List (List Char) -> List Char -> Prop where
  | close {first : Bool} {text : List Char} (token : Token closing text) :
      Joined closing first [] text
  | next {first : Bool} {comma rest : List Char} {others : List (List Char)}
      (separator : Comma first comma) (element : List Char)
      (tail : Joined closing false others rest) :
      Joined closing first (element :: others) (comma ++ (element ++ rest))

/-- The layouts of a string with its quotes. -/
inductive LaidString (string : String) : List Char -> Prop where
  | mk {opening spelling : List Char} (token : Token '"' opening)
      (spelled : Spelled string.toList spelling) :
      LaidString string (opening ++ (spelling ++ ['"']))

mutual

/-- The layouts of a value. -/
inductive Laid : Json -> List Char -> Prop where
  | count {number : Nat} {gap : List Char} (blank : IsGap gap) :
      Laid (.count number) (gap ++ Nat.toDigits 10 number)
  | string {string : String} {text : List Char} (laid : LaidString string text) :
      Laid (.string string) text
  | array {items : List Json} {opening inner : List Char} {texts : List (List Char)}
      (token : Token '[' opening) (laid : List.Forall₂ Laid items texts)
      (joined : Joined ']' true texts inner) : Laid (.array items) (opening ++ inner)
  | object {members : List (String × Json)} {opening inner : List Char}
      {texts : List (List Char)} (token : Token '\x7b' opening)
      (laid : List.Forall₂ LaidMember members texts) (joined : Joined '\x7d' true texts inner) :
      Laid (.object members) (opening ++ inner)

inductive LaidMember : String × Json -> List Char -> Prop where
  | mk {key : String} {value : Json} {name colon text : List Char} (quoted : LaidString key name)
      (token : Token ':' colon) (laid : Laid value text) :
      LaidMember (key, value) (name ++ (colon ++ text))

end

theorem IsGap.append {first second : List Char} (front : IsGap first) (back : IsGap second) :
    IsGap (first ++ second) := by
  intro char member
  rcases List.mem_append.mp member with here | there
  · exact front char here
  · exact back char there

theorem isGap_nil : IsGap [] := by
  intro char member
  cases member

/-- More blanks in front of a token are no other token. -/
theorem Token.indent {char : Char} {gap text : List Char} (token : Token char text)
    (blank : IsGap gap) : Token char (gap ++ text) := by
  cases token with
  | mk inner =>
      rw [← List.append_assoc]
      exact .mk (blank.append inner)

theorem LaidString.indent {string : String} {gap text : List Char}
    (laid : LaidString string text) (blank : IsGap gap) : LaidString string (gap ++ text) := by
  cases laid with
  | mk token spelled =>
      rw [← List.append_assoc]
      exact .mk (token.indent blank) spelled

/-- A value may be indented. -/
theorem Laid.indent {value : Json} {gap text : List Char} (laid : Laid value text)
    (blank : IsGap gap) : Laid value (gap ++ text) := by
  cases laid with
  | count inner =>
      rw [← List.append_assoc]
      exact .count (blank.append inner)
  | string laid => exact .string (laid.indent blank)
  | array token laid joined =>
      rw [← List.append_assoc]
      exact .array (token.indent blank) laid joined
  | object token laid joined =>
      rw [← List.append_assoc]
      exact .object (token.indent blank) laid joined

theorem LaidMember.indent {member : String × Json} {gap text : List Char}
    (laid : LaidMember member text) (blank : IsGap gap) : LaidMember member (gap ++ text) := by
  cases laid with
  | mk quoted token laid =>
      rw [← List.append_assoc]
      exact .mk (quoted.indent blank) token laid

/-! ## Lists and objects on one or several lines -/

/-- Texts are joined by commas with the same blanks behind each of them as in
front of the first one. -/
theorem joined_intercalate {closing : Char} {outdent : List Char} (token : Token closing outdent)
    (indent head : List Char) (texts : List (List Char)) {first : Bool} {comma : List Char}
    (separator : Comma first comma) :
    Joined closing first ((head :: texts).map (indent ++ ·))
      (comma ++ (indent ++ ((',' :: indent).intercalate (head :: texts) ++ outdent))) := by
  induction texts generalizing first comma head with
  | nil =>
      rw [List.intercalate_singleton, ← List.append_assoc indent]
      exact .next separator _ (.close token)
  | cons next others inductionHypothesis =>
      -- The comma behind an element is the one in front of the next element.
      have tail := inductionHypothesis next (Comma.some (.mk isGap_nil))
      have joined := Joined.next separator (indent ++ head) tail
      simpa [List.intercalate_cons_cons] using joined

/-- The layouts of elements can be joined. -/
theorem exists_joined {α : Type} {laid : α -> List Char -> Prop} {textOf : α -> List Char}
    {elements : List α} (nonempty : elements ≠ [])
    (each : forall element, element ∈ elements ->
      forall {gap : List Char}, IsGap gap -> laid element (gap ++ textOf element))
    {closing : Char} {indent outdent : List Char} (blank : IsGap indent)
    (token : Token closing outdent) :
    Exists fun texts => List.Forall₂ laid elements texts ∧
      Joined closing true texts
        (indent ++ ((',' :: indent).intercalate (elements.map textOf) ++ outdent)) := by
  cases elements with
  | nil => exact absurd rfl nonempty
  | cons head others =>
      refine ⟨((head :: others).map textOf).map (indent ++ ·), ?_, ?_⟩
      · rw [List.map_map, List.forall₂_map_right_iff, List.forall₂_same]
        exact fun element member => each element member blank
      · exact joined_intercalate token indent (textOf head) (others.map textOf) Comma.none

theorem laid_array {items : List Json} {textOf : Json -> List Char} (nonempty : items ≠ [])
    (each : forall item, item ∈ items -> Laid item (textOf item)) {indent outdent : List Char}
    (blank : IsGap indent) (token : Token ']' outdent) :
    Laid (.array items)
      ('[' :: (indent ++ ((',' :: indent).intercalate (items.map textOf) ++ outdent))) := by
  rcases exists_joined nonempty (fun item member _ gap => (each item member).indent gap) blank
    token with ⟨texts, laid, joined⟩
  exact .array (.mk isGap_nil) laid joined

theorem laid_object {members : List (String × Json)} {textOf : String × Json -> List Char}
    (nonempty : members ≠ [])
    (each : forall member, member ∈ members -> LaidMember member (textOf member))
    {indent outdent : List Char} (blank : IsGap indent) (token : Token '\x7d' outdent) :
    Laid (.object members)
      ('\x7b' :: (indent ++ ((',' :: indent).intercalate (members.map textOf) ++ outdent))) := by
  rcases exists_joined nonempty (fun element member _ gap => (each element member).indent gap)
    blank token with ⟨texts, laid, joined⟩
  exact .object (.mk isGap_nil) laid joined

theorem laidString_quoted (string : String) : LaidString string (quoted string) :=
  .mk (.mk isGap_nil) (spelled_escape string.toList)

/-! ## The compact text of a value -/

/-- A value is made of the values of its items or members. -/
theorem inductionOn {motive : Json -> Prop} (value : Json)
    (count : forall number, motive (.count number)) (string : forall text, motive (.string text))
    (array : forall items, (forall item, item ∈ items -> motive item) -> motive (.array items))
    (object : forall members,
      (forall member, member ∈ members -> motive member.2) -> motive (.object members)) :
    motive value :=
  match value with
  | .count number => count number
  | .string text => string text
  | .array items => array items fun item _ => inductionOn item count string array object
  | .object members => object members fun member listed =>
      have smaller : sizeOf member.2 < sizeOf members :=
        Nat.lt_of_le_of_lt (by cases member; simp) (List.sizeOf_lt_of_mem listed)
      inductionOn member.2 count string array object

/-- Texts are joined when nothing but a separator stands between each of them
and the next one. -/
theorem eq_intercalate {α : Type} {joined : List α -> List Char} {textOf : α -> List Char}
    {separator : List Char} (none : joined [] = [])
    (one : forall element, joined [element] = textOf element)
    (more : forall element next others, joined (element :: next :: others) =
      textOf element ++ (separator ++ joined (next :: others))) (elements : List α) :
    joined elements = separator.intercalate (elements.map textOf) := by
  induction elements with
  | nil => exact none
  | cons element others inductionHypothesis =>
      cases others with
      | nil => rw [one, List.map_singleton, List.intercalate_singleton]
      | cons next others =>
          rw [more, inductionHypothesis]
          simp [List.intercalate_cons_cons]

theorem compactItems_eq (items : List Json) :
    compactItems items = [','].intercalate (items.map compactChars) :=
  eq_intercalate rfl (fun _ => rfl) (fun _ _ _ => rfl) items

def compactMember (member : String × Json) : List Char :=
  quoted member.1 ++ ':' :: compactChars member.2

theorem compactMembers_eq (members : List (String × Json)) :
    compactMembers members = [','].intercalate (members.map compactMember) :=
  eq_intercalate rfl (fun _ => rfl) (fun _ _ _ => by simp [compactMembers]) members

/-- The compact text of a value is one of its layouts. -/
theorem laid_compactChars (value : Json) : Laid value value.compactChars := by
  induction value using inductionOn with
  | count number => exact .count isGap_nil
  | string text => exact .string (laidString_quoted text)
  | array items inductionHypothesis =>
      rw [compactChars, compactItems_eq]
      cases items with
      | nil => exact .array (.mk isGap_nil) .nil (.close (.mk isGap_nil))
      | cons head others =>
          exact laid_array (List.cons_ne_nil _ _) inductionHypothesis isGap_nil (.mk isGap_nil)
  | object members inductionHypothesis =>
      rw [compactChars, compactMembers_eq]
      cases members with
      | nil => exact .object (.mk isGap_nil) .nil (.close (.mk isGap_nil))
      | cons head others =>
          refine laid_object (List.cons_ne_nil _ _) ?_ isGap_nil (.mk isGap_nil)
          intro member listed
          exact .mk (laidString_quoted member.1) (.mk isGap_nil) (inductionHypothesis member listed)

/-! ## The pretty text of a value -/

theorem isGap_space : IsGap [' '] := by
  intro char member
  rw [List.mem_singleton.mp member]
  rfl

theorem isGap_newLine (level : Nat) : IsGap (newLine level) := by
  intro char member
  rcases List.mem_cons.mp member with rfl | spaces
  · rfl
  · rw [List.eq_of_mem_replicate spaces]
    rfl

theorem prettyItems_eq (level : Nat) (items : List Json) :
    prettyItems level items =
      (',' :: newLine level).intercalate (items.map (prettyChars level)) :=
  eq_intercalate rfl (fun _ => rfl) (fun _ _ _ => by simp [prettyItems]) items

def prettyMember (level : Nat) (member : String × Json) : List Char :=
  quoted member.1 ++ ':' :: ' ' :: prettyChars level member.2

theorem prettyMembers_eq (level : Nat) (members : List (String × Json)) :
    prettyMembers level members =
      (',' :: newLine level).intercalate (members.map (prettyMember level)) :=
  eq_intercalate rfl (fun _ => rfl) (fun _ _ _ => by simp [prettyMembers]) members

/-- The pretty text of a value is one of its layouts, at every level. -/
theorem laid_prettyChars (level : Nat) (value : Json) : Laid value (value.prettyChars level) := by
  induction value using inductionOn generalizing level with
  | count number => exact .count isGap_nil
  | string text => exact .string (laidString_quoted text)
  | array items inductionHypothesis =>
      cases items with
      | nil => exact .array (.mk isGap_nil) .nil (.close (.mk isGap_nil))
      | cons head others =>
          rw [prettyChars, prettyItems_eq]
          have laid := laid_array (List.cons_ne_nil head others)
            (fun item listed => inductionHypothesis item listed (level + 1))
            (isGap_newLine (level + 1)) (.mk (isGap_newLine level))
          simpa using laid
  | object members inductionHypothesis =>
      cases members with
      | nil => exact .object (.mk isGap_nil) .nil (.close (.mk isGap_nil))
      | cons head others =>
          rw [prettyChars, prettyMembers_eq]
          have each : forall member, member ∈ head :: others ->
              LaidMember member (prettyMember (level + 1) member) := by
            intro member listed
            have value := (inductionHypothesis member listed (level + 1)).indent isGap_space
            exact .mk (laidString_quoted member.1) (.mk isGap_nil) value
          have laid := laid_object (List.cons_ne_nil head others) each
            (isGap_newLine (level + 1)) (.mk (isGap_newLine level))
          simpa using laid

end Json
end Recase
