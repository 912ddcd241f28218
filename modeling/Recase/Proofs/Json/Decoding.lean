import Recase.Proofs.Json.Reading

namespace Recase
namespace Json

/-!
# Decoding a value

The readers of the options expect values of known types.  To say what a text
means, whoever wrote it and for whom, a reader is needed that takes any value
as it comes.  The one given here knows strings, counts, arrays and objects,
which are all the values that are ever written, and keeps the members of an
object in their order.

An array or an object is read by way of the reader of its items, so the
recursion is on how deep the values may nest.  No value nests deeper than its
text is long.  This is the bound with which a whole text is decoded, and it
excludes nothing: every layout of a value decodes to this value.
-/

/-- Read a count behind its first digit.  It has no superfluous zero in front,
and neither a point nor an exponent behind it. -/
def countFrom (first : Char) {text : List Char} (rest : Shorter text) : Outcome Nat text :=
  let digits := first :: rest.val.takeWhile Char.isDigit
  let number := Nat.ofDigitChars 10 digits 0
  let behind : NoLonger rest.val :=
    ⟨rest.val.dropWhile Char.isDigit, (List.dropWhile_suffix Char.isDigit).length_le⟩
  if Nat.toDigits 10 number = digits ∧ endsNumber behind.val = true then
    .ok (number, rest.upTo behind)
  else .error (.before .badNumber behind.val)

/-- Read any member of an object, and add it behind those before it. -/
def anyMember (reader : Reader Json) : MemberReader (List (String × Json)) :=
  fun members key text =>
    (readField key none reader text).map fun (value, rest) => (members ++ [(key, value)], rest)

/-- Read any value that nests less deep than a bound. -/
def readValue : Nat -> Reader Json
  | 0 => fun text => .error (.before .noValue text)
  | depth + 1 => fun text =>
      match token? text with
      | none => .error (.atEnd .endInValue)
      | some (char, rest) =>
          if char = '"' then
            (quotedFrom [] rest).map fun (chars, left) => (.string chars, left)
          else if char = '[' then
            (itemsFrom (readValue depth) true rest.val).map fun (items, left) =>
              (.array items, rest.within left)
          else if char = '\x7b' then
            (membersFrom (anyMember (readValue depth)) [] true rest.val).map
              fun (members, left) => (.object members, rest.within left)
          else if char.isDigit then
            (countFrom char rest).map fun (number, left) => (.count number, left)
          else .error (.on .noValue char rest.val)

/-- Decode a text that holds nothing but a value. -/
def decodeAll (text : List Char) : Except Fault Json := do
  let (value, rest) ← readValue text.length text
  textEnd rest.val
  return value

/-- The value that a text stands for. -/
def decode (text : String) : Except Fault Json :=
  decodeAll text.toList

/-! ## Lengths -/

theorem Token.length_pos {char : Char} {text : List Char} (token : Token char text) :
    0 < text.length := by
  cases token with
  | mk _ => simp

/-- The text of an element is not longer than the joined texts. -/
theorem Joined.length_le {closing : Char} {first : Bool} {texts : List (List Char)}
    {inner : List Char} (joined : Joined closing first texts inner) {text : List Char}
    (member : text ∈ texts) : text.length <= inner.length := by
  induction joined with
  | close token => cases member
  | next separator element tail inductionHypothesis =>
      rw [List.length_append, List.length_append]
      rcases List.mem_cons.mp member with rfl | later
      · omega
      · have others := inductionHypothesis later
        omega

/-- Behind an opening bracket, an element has at least one character less than
the whole text. -/
theorem Joined.length_lt {closing bracket : Char} {texts : List (List Char)}
    {opening inner : List Char} (joined : Joined closing true texts inner)
    (token : Token bracket opening) {bound : Nat}
    (short : (opening ++ inner).length <= bound + 1) :
    forall text, text ∈ texts -> text.length <= bound := by
  intro text member
  have within := joined.length_le member
  have front := token.length_pos
  rw [List.length_append] at short
  omega

/-- No value has an empty text. -/
theorem Laid.length_pos {value : Json} {text : List Char} (laid : Laid value text) :
    0 < text.length := by
  cases starts_of_laid laid with
  | mk token _ _ rest =>
      rw [List.length_append]
      exact Nat.add_pos_left token.length_pos _

/-! ## Counts -/

theorem takeWhile_isDigit {text : List Char} (ends : endsNumber text = true) :
    text.takeWhile Char.isDigit = [] := by
  cases text with
  | nil => rfl
  | cons next rest =>
      rw [List.takeWhile_cons_of_neg]
      intro isDigit
      rw [endsNumber, isDigit] at ends
      cases ends

theorem dropWhile_isDigit {text : List Char} (ends : endsNumber text = true) :
    text.dropWhile Char.isDigit = text := by
  have all := List.takeWhile_append_dropWhile (p := Char.isDigit) (l := text)
  rwa [takeWhile_isDigit ends] at all

theorem countFrom_toDigits {number : Nat} {digit : Char} {others rest : List Char}
    (digits : Nat.toDigits 10 number = digit :: others) (ends : endsNumber rest = true)
    {text : List Char} (shorter : (others ++ rest).length < text.length) :
    Exists fun nearer =>
      countFrom digit (⟨others ++ rest, shorter⟩ : Shorter text) =
        .ok (number, ⟨rest, nearer⟩) := by
  have allDigits : forall char, char ∈ others -> char.isDigit = true := fun char member =>
    isDigit_of_mem_toDigits (digits ▸ List.mem_cons_of_mem _ member)
  have taken : (others ++ rest).takeWhile Char.isDigit = others := by
    rw [List.takeWhile_append_of_pos allDigits, takeWhile_isDigit ends, List.append_nil]
  have dropped : (others ++ rest).dropWhile Char.isDigit = rest := by
    rw [List.dropWhile_append_of_pos allDigits, dropWhile_isDigit ends]
  have value : Nat.ofDigitChars 10 (digit :: others) 0 = number := by
    rw [← digits, Nat.ofDigitChars_ten_toDigits]
  refine ⟨Nat.lt_of_le_of_lt (List.suffix_append others rest).length_le shorter, ?_⟩
  simp [countFrom, taken, dropped, value, digits, ends, Shorter.upTo]

/-! ## Values of any type -/

/-- A reader takes all values whose texts are not longer than a bound. -/
def ReadsUpTo (bound : Nat) (reader : Reader Json) : Prop :=
  forall value text, Laid value text -> text.length <= bound -> ReadsBefore reader text value

theorem ReadsUpTo.items {bound : Nat} {reader : Reader Json} (reads : ReadsUpTo bound reader)
    {items : List Json} {texts : List (List Char)} (laid : List.Forall₂ Laid items texts)
    (short : forall text, text ∈ texts -> text.length <= bound) :
    List.Forall₂ (fun item text => ReadsBefore reader text item ∧ Starts text) items texts := by
  induction laid with
  | nil => exact .nil
  | cons head _ inductionHypothesis =>
      refine .cons ⟨reads _ _ head (short _ List.mem_cons_self), starts_of_laid head⟩ ?_
      exact inductionHypothesis fun text member => short text (List.mem_cons_of_mem _ member)

theorem ReadsUpTo.members {bound : Nat} {reader : Reader Json} (reads : ReadsUpTo bound reader)
    {members : List (String × Json)} {texts : List (List Char)}
    (laid : List.Forall₂ LaidMember members texts)
    (short : forall text, text ∈ texts -> text.length <= bound)
    (before : List (String × Json)) :
    Run (anyMember reader) before texts (before ++ members) := by
  induction laid generalizing before with
  | nil =>
      rw [List.append_nil]
      exact .done before
  | @cons member _ others _ head _ inductionHypothesis =>
      have run := inductionHypothesis
        (fun text listed => short text (List.mem_cons_of_mem _ listed)) (before ++ [member])
      rw [List.append_assoc, List.singleton_append] at run
      cases head with
      | @mk key value name colon text quoted token laid =>
          have within := short _ List.mem_cons_self
          rw [List.length_append, List.length_append] at within
          exact .next quoted ((reads value text laid (by omega)).keep token
            (fun value => before ++ [(key, value)]) fun _ => rfl) run

/-- A value is read from all of its texts that are not longer than the bound
for the nesting. -/
theorem readsUpTo_readValue (depth : Nat) : ReadsUpTo depth (readValue depth) := by
  induction depth with
  | zero =>
      intro value text laid short
      exact absurd laid.length_pos (Nat.not_lt_of_le short)
  | succ depth inductionHypothesis =>
      intro value text laid short rest ends
      cases laid with
      | @count number gap blank =>
          cases digits : Nat.toDigits 10 number with
          | nil => exact absurd digits Nat.toDigits_ne_nil
          | cons digit others =>
              have isDigit : digit.isDigit = true :=
                isDigit_of_mem_toDigits (digits ▸ List.mem_cons_self)
              have apart : digit ≠ '"' ∧ digit ≠ '[' ∧ digit ≠ '\x7b' := by
                refine ⟨?_, ?_, ?_⟩ <;> rintro rfl <;> cases isDigit
              rw [← List.singleton_append, ← List.append_assoc, List.append_assoc]
              rcases token?_append (.mk blank) (isSpace_of_isDigit isDigit) (others ++ rest) with
                ⟨shorter, next⟩
              rcases countFrom_toDigits digits ends shorter with ⟨nearer, read⟩
              refine ⟨nearer, ?_⟩
              simp [readValue, next, apart, isDigit, read, Except.map]
      | string laid =>
          rcases laid.read rest with ⟨behind, shorter, next, read⟩
          refine ⟨shorter, ?_⟩
          simp [readValue, next, read, Except.map]
      | @array items opening inner texts token laid joined =>
          have each := inductionHypothesis.items laid (joined.length_lt token short)
          rw [List.append_assoc]
          rcases token?_append token rfl (inner ++ rest) with ⟨shorter, next⟩
          rcases itemsFrom_joined each joined rest with ⟨nearer, read⟩
          refine ⟨Nat.lt_trans nearer shorter, ?_⟩
          simp [readValue, next, read, Except.map, Shorter.within]
      | @object members opening inner texts token laid joined =>
          have run := inductionHypothesis.members laid (joined.length_lt token short) []
          rw [List.append_assoc]
          rcases token?_append token rfl (inner ++ rest) with ⟨shorter, next⟩
          rcases membersFrom_joined run joined rest with ⟨nearer, read⟩
          refine ⟨Nat.lt_trans nearer shorter, ?_⟩
          simp [readValue, next, read, Except.map, Shorter.within]

/-! ## Whole texts -/

/-- Every layout of a value decodes to this value, and there may be blanks
behind it. -/
theorem decode_laid {value : Json} {text blanks : List Char} (laid : Laid value text)
    (gap : IsGap blanks) : decode (String.ofList (text ++ blanks)) = .ok value := by
  have short : text.length <= (text ++ blanks).length := by simp
  rcases readsUpTo_readValue _ value text laid short blanks (endsNumber_gap gap) with
    ⟨shorter, read⟩
  rw [decode, String.toList_ofList, decodeAll, read]
  simp [bind, Except.bind, textEnd_gap gap, pure, Except.pure]

/-- What is written in either of the two layouts is one of all layouts of the
value. -/
theorem laid_render (layout : Layout) (value : Json) :
    Laid value (render layout value).toList := by
  cases layout with
  | compact =>
      rw [render, compact, String.toList_ofList]
      exact laid_compactChars value
  | pretty =>
      rw [render, pretty, String.toList_ofList]
      exact laid_prettyChars 0 value

/-- A value is decoded from its text in either layout. -/
theorem decode_render (layout : Layout) (value : Json) :
    decode (render layout value) = .ok value := by
  have decoded := decode_laid (laid_render layout value) isGap_nil
  rwa [List.append_nil, String.ofList_toList] at decoded

/-- A value is decoded from its text with a line feed behind it. -/
theorem decode_render_line (layout : Layout) (value : Json) :
    decode (render layout value ++ "\n") = .ok value := by
  have blank : IsGap ['\n'] := isGap_newLine 0
  have decoded := decode_laid (laid_render layout value) blank
  rwa [String.ofList_append, String.ofList_toList] at decoded

end Json
end Recase
