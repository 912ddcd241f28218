import Recase.Json.Reader
import Recase.Proofs.Json.Layout

namespace Recase
namespace Json

/-!
# Reading a layout

A reader reads a value from a text when it takes exactly this text from the
beginning of any longer one.  Strings, lists and the members of objects are
read from all of their layouts in this sense.

A list is read whatever the readers of its items do, and an object whatever
its members do to what has been read before, so nothing here depends on the
records that are read.

Only a number has no end of its own: it goes on as long as there are digits.
A value that contains numbers can therefore not be read in front of any text,
but it can be read in front of everything that may follow an item or a member.
-/

/-- A reader takes a value from the beginning of a text, whatever follows. -/
def Reads {α : Type} (reader : Reader α) (text : List Char) (value : α) : Prop :=
  forall rest, Exists fun shorter => reader (text ++ rest) = .ok (value, ⟨rest, shorter⟩)

/-- Whether no number goes on with a text. -/
def endsNumber : List Char -> Bool
  | [] => true
  | next :: _ => !(next.isDigit || next == '.' || isExponentMark next)

/-- A reader takes a value from the beginning of a text, if no number goes on
behind it. -/
def ReadsBefore {α : Type} (reader : Reader α) (text : List Char) (value : α) : Prop :=
  forall rest, endsNumber rest = true ->
    Exists fun shorter => reader (text ++ rest) = .ok (value, ⟨rest, shorter⟩)

theorem Reads.before {α : Type} {reader : Reader α} {text : List Char} {value : α}
    (reads : Reads reader text value) : ReadsBefore reader text value :=
  fun rest _ => reads rest

/-! ## Tokens -/

theorem token?_append {char : Char} {text : List Char} (token : Token char text)
    (visible : isSpace char = false) (rest : List Char) :
    Exists fun shorter => token? (text ++ rest) = some (char, ⟨rest, shorter⟩) := by
  cases token with
  | @mk gap blank =>
      rw [List.append_assoc, List.singleton_append]
      induction gap with
      | nil =>
          refine ⟨Nat.lt_succ_self _, ?_⟩
          simp [token?, visible, Shorter.tail]
      | cons space gap inductionHypothesis =>
          rcases inductionHypothesis fun char member => blank char (List.mem_cons_of_mem _ member)
            with ⟨shorter, next⟩
          refine ⟨Nat.lt_succ_of_lt shorter, ?_⟩
          simp [token?, blank space List.mem_cons_self, next, Shorter.within]

theorem token?_gap {text : List Char} (blank : IsGap text) : token? text = none := by
  induction text with
  | nil => rfl
  | cons space gap inductionHypothesis =>
      have next := inductionHypothesis fun char member =>
        blank char (List.mem_cons_of_mem _ member)
      simp [token?, blank space List.mem_cons_self, next]

theorem textEnd_gap {text : List Char} (blank : IsGap text) : textEnd text = .ok () := by
  rw [textEnd, token?_gap blank]

theorem colon_append {text : List Char} (token : Token ':' text) (rest : List Char) :
    Exists fun shorter => colon (text ++ rest) = .ok ⟨rest, shorter⟩ := by
  rcases token?_append token rfl rest with ⟨shorter, next⟩
  refine ⟨shorter, ?_⟩
  simp [colon, next]

theorem endsNumber_of_isSpace {char : Char} (space : isSpace char = true) (rest : List Char) :
    endsNumber (char :: rest) = true := by
  simp only [isSpace, Bool.or_eq_true, beq_iff_eq] at space
  rcases space with ((rfl | rfl) | rfl) | rfl <;> rfl

theorem endsNumber_gap {text : List Char} (blank : IsGap text) : endsNumber text = true := by
  cases text with
  | nil => rfl
  | cons space gap => exact endsNumber_of_isSpace (blank space List.mem_cons_self) gap

theorem endsNumber_token {char : Char} {text : List Char} (token : Token char text)
    (ends : forall rest, endsNumber (char :: rest) = true) (rest : List Char) :
    endsNumber (text ++ rest) = true := by
  cases token with
  | @mk gap blank =>
      cases gap with
      | nil => exact ends rest
      | cons space gap => exact endsNumber_of_isSpace (blank space List.mem_cons_self) _

/-- Behind an element there is a comma or the closing bracket, and no number
goes on there. -/
theorem endsNumber_joined {closing : Char} {others : List (List Char)} {inner : List Char}
    (joined : Joined closing false others inner)
    (ends : forall rest, endsNumber (closing :: rest) = true) (rest : List Char) :
    endsNumber (inner ++ rest) = true := by
  cases joined with
  | close token => exact endsNumber_token token ends rest
  | next separator element tail =>
      cases separator with
      | some comma =>
          rw [List.append_assoc]
          exact endsNumber_token comma (fun _ => rfl) _

/-! ## Strings -/

/-- The characters of a string are read behind its opening quote. -/
theorem LaidString.read {string : String} {text : List Char} (laid : LaidString string text)
    (rest : List Char) : Exists fun behind : Shorter (text ++ rest) => Exists fun shorter =>
      token? (text ++ rest) = some ('"', behind) ∧
        quotedFrom [] behind = .ok (string, ⟨rest, shorter⟩) := by
  cases laid with
  | @mk opening spelling token spelled =>
      rw [List.append_assoc, List.append_assoc, List.singleton_append]
      rcases token?_append token rfl (spelling ++ '"' :: rest) with ⟨shorter, next⟩
      rcases quotedFrom_spelled spelled [] rest shorter with ⟨nearer, read⟩
      rw [List.reverse_nil, List.nil_append, String.ofList_toList] at read
      exact ⟨_, nearer, next, read⟩

theorem readString_laid {string : String} {text : List Char} (laid : LaidString string text) :
    Reads readString text string := by
  intro rest
  rcases laid.read rest with ⟨behind, shorter, next, read⟩
  refine ⟨shorter, ?_⟩
  rw [readString, next]
  exact read

/-! ## Lists -/

/-- A text can be an item of a list if it begins with a token that is not the
end of the list. -/
inductive Starts : List Char -> Prop where
  | mk {char : Char} {opening : List Char} (token : Token char opening)
      (visible : isSpace char = false) (notClosing : char ≠ ']') (rest : List Char) :
      Starts (opening ++ rest)

theorem listTurn_close {text : List Char} (token : Token ']' text) (first : Bool)
    (rest : List Char) :
    Exists fun shorter => listTurn first (text ++ rest) = .ok (.close ⟨rest, shorter⟩) := by
  rcases token?_append token rfl rest with ⟨shorter, next⟩
  refine ⟨shorter, ?_⟩
  simp [listTurn, next]

theorem listTurn_item {first : Bool} {comma item : List Char} (separator : Comma first comma)
    (starts : Starts item) (rest : List Char) :
    Exists fun noLonger =>
      listTurn first (comma ++ (item ++ rest)) = .ok (.item ⟨item ++ rest, noLonger⟩) := by
  cases starts with
  | mk token visible notClosing behind =>
      rw [List.append_assoc]
      rcases token?_append token visible (behind ++ rest) with ⟨shorter, next⟩
      cases separator with
      | none =>
          refine ⟨Nat.le_refl _, ?_⟩
          simp [listTurn, next, notClosing]
      | some separator =>
          rcases token?_append separator rfl _ with ⟨nearer, separated⟩
          refine ⟨Nat.le_of_lt nearer, ?_⟩
          simp [listTurn, separated, next, notClosing]

/-- Items are read up to the closing bracket if each of them is. -/
theorem itemsFrom_joined {α : Type} {reader : Reader α} {items : List α}
    {texts : List (List Char)}
    (each : List.Forall₂ (fun item text => ReadsBefore reader text item ∧ Starts text) items texts)
    {first : Bool} {inner : List Char} (joined : Joined ']' first texts inner)
    (rest : List Char) :
    Exists fun shorter =>
      itemsFrom reader first (inner ++ rest) = .ok (items, ⟨rest, shorter⟩) := by
  induction each generalizing first inner with
  | nil =>
      cases joined with
      | close token =>
          rcases listTurn_close token first rest with ⟨shorter, turn⟩
          refine ⟨shorter, ?_⟩
          rw [itemsFrom, turn]
  | cons head _ inductionHypothesis =>
      cases joined with
      | next separator text tail =>
          -- What each reader leaves is where the next one begins.
          rw [List.append_assoc, List.append_assoc]
          rcases inductionHypothesis tail with ⟨nearest, othersRead⟩
          rcases head.1 _ (endsNumber_joined tail (fun _ => rfl) rest) with ⟨nearer, headRead⟩
          rcases listTurn_item separator head.2 _ with ⟨noLonger, turn⟩
          refine ⟨Nat.lt_of_lt_of_le (Nat.lt_trans nearest nearer) noLonger, ?_⟩
          rw [itemsFrom, turn]
          simp only [headRead, othersRead]
          rfl

theorem readList_joined {α : Type} {reader : Reader α} {items : List α}
    {texts : List (List Char)}
    (each : List.Forall₂ (fun item text => ReadsBefore reader text item ∧ Starts text) items texts)
    {opening inner : List Char} (token : Token '[' opening)
    (joined : Joined ']' true texts inner) : Reads (readList reader) (opening ++ inner) items := by
  intro rest
  rw [List.append_assoc]
  rcases token?_append token rfl (inner ++ rest) with ⟨shorter, next⟩
  rcases itemsFrom_joined each joined rest with ⟨nearer, itemsRead⟩
  refine ⟨Nat.lt_trans nearer shorter, ?_⟩
  rw [readList, next]
  simp [itemsRead, Except.map, Shorter.within]

/-! ## Objects -/

theorem objectTurn_close {text : List Char} (token : Token '\x7d' text) (first : Bool)
    (rest : List Char) :
    Exists fun shorter => objectTurn first (text ++ rest) = .ok (.close ⟨rest, shorter⟩) := by
  rcases token?_append token rfl rest with ⟨shorter, next⟩
  refine ⟨shorter, ?_⟩
  simp [objectTurn, next]

theorem objectTurn_key {first : Bool} {comma opening : List Char} (separator : Comma first comma)
    (token : Token '"' opening) (rest : List Char) :
    Exists fun shorter =>
      objectTurn first (comma ++ (opening ++ rest)) = .ok (.key ⟨rest, shorter⟩) := by
  rcases token?_append token rfl rest with ⟨shorter, next⟩
  cases separator with
  | none =>
      refine ⟨shorter, ?_⟩
      simp [objectTurn, next, keyQuote]
  | some separator =>
      rcases token?_append separator rfl (opening ++ rest) with ⟨nearer, separated⟩
      refine ⟨Nat.lt_trans shorter nearer, ?_⟩
      simp [objectTurn, separated, next, keyQuote, Shorter.within]

/-- The members with given texts take what has been read of an object from one
state to another. -/
inductive Run {σ : Type} (member : MemberReader σ) : σ -> List (List Char) -> σ -> Prop where
  | done (state : σ) : Run member state [] state
  | next {state later final : σ} {key : String} {name behind : List Char}
      {others : List (List Char)} (quoted : LaidString key name)
      (read : ReadsBefore (member state key) behind later) (run : Run member later others final) :
      Run member state ((name ++ behind) :: others) final

/-- Members are read up to the closing brace if each of them is. -/
theorem membersFrom_joined {σ : Type} {member : MemberReader σ} {state final : σ}
    {texts : List (List Char)} (run : Run member state texts final) {first : Bool}
    {inner : List Char} (joined : Joined '\x7d' first texts inner) (rest : List Char) :
    Exists fun shorter =>
      membersFrom member state first (inner ++ rest) = .ok (final, ⟨rest, shorter⟩) := by
  induction run generalizing first inner with
  | done state =>
      cases joined with
      | close token =>
          rcases objectTurn_close token first rest with ⟨shorter, turn⟩
          refine ⟨shorter, ?_⟩
          rw [membersFrom, turn]
  | next quoted read _ inductionHypothesis =>
      cases joined with
      | next separator text tail =>
          cases quoted with
          | @mk opening spelling token spelled =>
              rw [List.append_assoc, List.append_assoc, List.append_assoc, List.append_assoc,
                List.append_assoc, List.singleton_append]
              rcases inductionHypothesis tail with ⟨nearest, othersRead⟩
              rcases read _ (endsNumber_joined tail (fun _ => rfl) rest) with ⟨nearer, memberRead⟩
              rcases objectTurn_key separator token _ with ⟨shorter, turn⟩
              rcases quotedFrom_spelled spelled [] _ shorter with ⟨behindKey, keyRead⟩
              refine ⟨Nat.lt_trans nearest (Nat.lt_trans nearer behindKey), ?_⟩
              rw [membersFrom, turn]
              simp only [keyRead, List.reverse_nil, List.nil_append, String.ofList_toList,
                memberRead, othersRead]
              rfl

/-- A member is read once if its value is. -/
theorem readField_laid {α : Type} {reader : Reader α} {key : String} {colon text : List Char}
    {value : α} (token : Token ':' colon) (read : ReadsBefore reader text value) :
    ReadsBefore (readField key none reader) (colon ++ text) value := by
  intro rest ends
  rw [List.append_assoc]
  rcases colon_append token (text ++ rest) with ⟨shorter, next⟩
  rcases read rest ends with ⟨nearer, valueRead⟩
  refine ⟨Nat.lt_trans nearer shorter, ?_⟩
  simp [readField, next, valueRead, Except.map, Shorter.within]

/-- A record in its form with members is read if these are. -/
theorem readRecord_object {α : Type} {name : String} {items members : Reader α}
    {opening inner : List Char} {value : α} (token : Token '\x7b' opening)
    (read : Reads members inner value) :
    Reads (readRecord name items members) (opening ++ inner) value := by
  intro rest
  rw [List.append_assoc]
  rcases token?_append token rfl (inner ++ rest) with ⟨shorter, next⟩
  rcases read rest with ⟨nearer, valueRead⟩
  refine ⟨Nat.lt_trans nearer shorter, ?_⟩
  simp [readRecord, next, valueRead, Except.map, Shorter.within]

/-! ## Values of one type -/

/-- A reader inverts a way of writing values if it reads each of them from all
of its layouts. -/
def Inverts {α : Type} (reader : Reader α) (toJson : α -> Json) : Prop :=
  forall value text, Laid (toJson value) text -> Reads reader text value

theorem isSpace_of_isDigit {char : Char} (isDigit : char.isDigit = true) :
    isSpace char = false := by
  rw [Bool.eq_false_iff]
  intro space
  simp only [isSpace, Bool.or_eq_true, beq_iff_eq] at space
  rcases space with ((rfl | rfl) | rfl) | rfl <;> cases isDigit

theorem isDigit_of_mem_toDigits {number : Nat} {char : Char}
    (member : char ∈ Nat.toDigits 10 number) : char.isDigit = true :=
  Nat.isDigit_of_mem_toDigits (by decide) (Nat.le_refl 10) member

/-- A number begins with a digit, which is neither a blank nor a bracket. -/
theorem starts_toDigits {gap : List Char} (blank : IsGap gap) (number : Nat) :
    Starts (gap ++ Nat.toDigits 10 number) := by
  cases digits : Nat.toDigits 10 number with
  | nil => exact absurd digits Nat.toDigits_ne_nil
  | cons digit others =>
      have isDigit : digit.isDigit = true :=
        isDigit_of_mem_toDigits (digits ▸ List.mem_cons_self)
      have notClosing : digit ≠ ']' := by
        rintro rfl
        cases isDigit
      rw [← List.singleton_append, ← List.append_assoc]
      exact .mk (.mk blank) (isSpace_of_isDigit isDigit) notClosing others

/-- Every value can be an item of a list. -/
theorem starts_of_laid {value : Json} {text : List Char} (laid : Laid value text) :
    Starts text := by
  cases laid with
  | count blank => exact starts_toDigits blank _
  | string laid =>
      cases laid with
      | mk token _ => exact .mk token rfl (by decide) _
  | array token _ _ => exact .mk token rfl (by decide) _
  | object token _ _ => exact .mk token rfl (by decide) _

theorem inverts_string : Inverts readString .string := by
  intro string text laid
  cases laid with
  | string laid => exact readString_laid laid

/-- A list is read back if its items are. -/
theorem Inverts.list {α : Type} {reader : Reader α} {toJson : α -> Json}
    (inverts : Inverts reader toJson) :
    Inverts (readList reader) fun items => .array (items.map toJson) := by
  intro items text laid
  cases laid with
  | array token laid joined =>
      refine readList_joined ?_ token joined
      rw [List.forall₂_map_left_iff] at laid
      exact laid.imp fun item text laid => ⟨(inverts item text laid).before, starts_of_laid laid⟩

theorem inverts_strings : Inverts readStrings strings :=
  inverts_string.list

/-- A member is read if what it keeps is made of its value alone. -/
theorem ReadsBefore.keep {α σ : Type} {member : MemberReader σ} {reader : Reader α} {key : String}
    {colon text : List Char} {value : α} (read : ReadsBefore reader text value)
    (token : Token ':' colon) {state : σ} (keep : α -> σ)
    (keeps : forall text, member state key text =
      (readField key none reader text).map fun (value, rest) => (keep value, rest)) :
    ReadsBefore (member state key) (colon ++ text) (keep value) := by
  intro rest ends
  rcases readField_laid token read rest ends with ⟨shorter, memberRead⟩
  refine ⟨shorter, ?_⟩
  rw [keeps, memberRead]
  rfl

/-- A member that keeps the value of a field for the first time is one step in
the reading of an object. -/
theorem Run.field {α σ : Type} {member : MemberReader σ} {reader : Reader α} {toJson : α -> Json}
    (inverts : Inverts reader toJson) {key : String} {value : α} {text : List Char}
    (laid : LaidMember (key, toJson value) text) {state : σ} (keep : α -> σ)
    (keeps : forall text, member state key text =
      (readField key none reader text).map fun (value, rest) => (keep value, rest))
    {others : List (List Char)} {final : σ} (run : Run member (keep value) others final) :
    Run member state (text :: others) final := by
  cases laid with
  | mk quoted token laid =>
      exact .next quoted ((inverts value _ laid).before.keep token keep keeps) run

end Json
end Recase
