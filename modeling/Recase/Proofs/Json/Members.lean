import Recase.Proofs.Json.Skipping

namespace Recase
namespace Json

/-!
# Objects with members in any order

A record is written as an object, and its members may come in any order.  They
are given by a list here, with a type of its own for the members of each record.
What is said about a field is then what the first of them says that has
anything to say about it, and no other can contradict it if its key occurs only
once.

A reader of members need not know the whole list.  It is enough that it keeps
track: after some members it has read what these say, and reading one more takes
it to what all of them say.
-/

/-! ## Layouts -/

/-- The layouts of a member with a given key, whose value has one of given
texts. -/
inductive LaidField (key : String) (isValue : List Char -> Prop) : List Char -> Prop where
  | mk {name colon text : List Char} (quoted : LaidString key name) (token : Token ':' colon)
      (value : isValue text) : LaidField key isValue (name ++ (colon ++ text))

/-- The layouts of a list whose items have given layouts. -/
inductive LaidList {α : Type} (isItem : α -> List Char -> Prop) (items : List α) :
    List Char -> Prop where
  | mk {opening inner : List Char} {texts : List (List Char)} (token : Token '[' opening)
      (laid : List.Forall₂ isItem items texts) (joined : Joined ']' true texts inner) :
      LaidList isItem items (opening ++ inner)

/-- The layouts of an object whose members have given layouts. -/
inductive LaidObject {α : Type} (isMember : α -> List Char -> Prop) (members : List α) :
    List Char -> Prop where
  | mk {opening inner : List Char} {texts : List (List Char)} (token : Token '\x7b' opening)
      (laid : List.Forall₂ isMember members texts) (joined : Joined '\x7d' true texts inner) :
      LaidObject isMember members (opening ++ inner)

/-! ## What members say -/

/-- None of some keys is the key of two members. -/
def AtMostOnce {α : Type} (keyOf : α -> String) (keys : List String) (members : List α) : Prop :=
  forall key, key ∈ keys -> (members.map keyOf).count key <= 1

theorem AtMostOnce.not_mem {α : Type} {keyOf : α -> String} {keys : List String}
    {before others : List α} {member : α} (once : AtMostOnce keyOf keys (before ++ member :: others))
    (known : keyOf member ∈ keys) : keyOf member ∉ before.map keyOf := by
  have count := once _ known
  rw [List.map_append, List.map_cons, List.count_append, List.count_cons_self] at count
  rw [← List.count_eq_zero]
  omega

/-- A field has no value if none of the members has its key. -/
theorem findSome?_eq_none_of_key {α β : Type} {keyOf : α -> String} {value? : α -> Option β}
    {key : String} (keyed : forall member, value? member = none ∨ keyOf member = key)
    {members : List α} (missing : key ∉ members.map keyOf) :
    members.findSome? value? = none := by
  rw [List.findSome?_eq_none_iff]
  intro member listed
  rcases keyed member with none | same
  · exact none
  · exact absurd (same ▸ List.mem_map_of_mem listed) missing

/-- A field has the value that a member says, wherever this member is. -/
theorem findSome?_eq_some_of_mem {α β : Type} {keyOf : α -> String} {value? : α -> Option β}
    {keys : List String} {members : List α} (once : AtMostOnce keyOf keys members) {member : α}
    (listed : member ∈ members) (known : keyOf member ∈ keys)
    (keyed : forall other, value? other = none ∨ keyOf other = keyOf member) {value : β}
    (given : value? member = some value) : members.findSome? value? = some value := by
  rcases List.append_of_mem listed with ⟨before, others, rfl⟩
  rw [List.findSome?_append, findSome?_eq_none_of_key keyed (once.not_mem known),
    List.findSome?_cons, given]
  rfl

/-! ## Reading members -/

section

variable {α σ : Type} {keyOf : α -> String} {isValue : α -> List Char -> Prop}
  {keys : List String} {member : MemberReader σ} {state : List α -> σ}

/-- A reader of members keeps track of what they say, as long as none of some
keys occurs for the second time. -/
def Tracks (keyOf : α -> String) (isValue : α -> List Char -> Prop) (keys : List String)
    (member : MemberReader σ) (state : List α -> σ) : Prop :=
  forall (before : List α) (current : α) (others : List α) (colon text : List Char),
    AtMostOnce keyOf keys (before ++ current :: others) -> Token ':' colon ->
      isValue current text ->
        ReadsBefore (member (state before) (keyOf current)) (colon ++ text)
          (state (before ++ [current]))

theorem Tracks.run (tracks : Tracks keyOf isValue keys member state) {members : List α}
    {texts : List (List Char)}
    (laid : List.Forall₂ (fun each => LaidField (keyOf each) (isValue each)) members texts)
    (before : List α) (once : AtMostOnce keyOf keys (before ++ members)) :
    Run member (state before) texts (state (before ++ members)) := by
  induction laid generalizing before with
  | nil =>
      rw [List.append_nil]
      exact .done _
  | @cons current text others texts head _ inductionHypothesis =>
      have run := inductionHypothesis (before ++ [current]) (by simpa using once)
      rw [List.append_assoc, List.singleton_append] at run
      cases head with
      | mk quoted token value => exact .next quoted (tracks _ _ _ _ _ once token value) run

/-- A record is read from an object if its reader keeps track of the members,
and makes the record of what all of them say. -/
theorem Tracks.readRecord (tracks : Tracks keyOf isValue keys member state) {β : Type}
    {name : String} {items inner : Reader β} {members : List α} {text : List Char} {value : β}
    (laid : LaidObject (fun each => LaidField (keyOf each) (isValue each)) members text)
    (once : AtMostOnce keyOf keys members)
    (finish : forall text rest,
      membersFrom member (state []) true text = .ok (state members, rest) ->
        inner text = .ok (value, rest)) :
    Reads (Json.readRecord name items inner) text value := by
  cases laid with
  | mk token laid joined =>
      refine readRecord_object token ?_
      intro rest
      rcases membersFrom_joined (tracks.run laid [] once) joined rest with ⟨shorter, read⟩
      exact ⟨shorter, finish _ _ read⟩

end

/-! ## Reading lists -/

/-- A list is read from all of its layouts if its items are. -/
theorem readList_laidList {α : Type} {reader : Reader α} {isItem : α -> List Char -> Prop}
    (each : forall item text, isItem item text -> Reads reader text item ∧ Starts text)
    {items : List α} {text : List Char} (laid : LaidList isItem items text) :
    Reads (readList reader) text items := by
  cases laid with
  | mk token laid joined =>
      refine readList_joined (laid.imp fun item text laid => ?_) token joined
      rcases each item text laid with ⟨reads, starts⟩
      exact ⟨reads.before, starts⟩

theorem LaidString.starts {string : String} {text : List Char} (laid : LaidString string text) :
    Starts text := by
  cases laid with
  | mk token _ => exact .mk token rfl (by decide) _

theorem readStrings_laidList {strings : List String} {text : List Char}
    (laid : LaidList LaidString strings text) : Reads readStrings text strings :=
  readList_laidList (fun _ _ laid => ⟨readString_laid laid, laid.starts⟩) laid

end Json
end Recase
