import Recase.Identifier

namespace Recase
namespace Identifier

/-!
# Identifiers read back

A statement has its identifiers in the middle of other text.  A reader takes
a bare identifier as far as it goes, and a quoted one up to the first double
quote that is not one of two.  So an identifier is read back whatever its
name is, as long as the text behind it could not continue it.
-/

theorem isHead_eq (char : Char) :
    isHead char = (char.isUpper || char.isLower || char == '_') :=
  rfl

theorem isTail_eq (char : Char) :
    isTail char = (char.isUpper || char.isLower || char.isDigit || char == '_') :=
  rfl

theorem exists_cons_of_isPlain {name : String} (plain : isPlain name = true) :
    Exists fun head => Exists fun tail => name.toList = head :: tail ∧ isHead head = true ∧
      forall char, char ∈ tail -> isTail char = true := by
  unfold isPlain at plain
  cases chars : name.toList with
  | nil =>
      rw [chars] at plain
      cases plain
  | cons head tail =>
      rw [chars] at plain
      have parts := Bool.and_eq_true_iff.mp plain
      exact ⟨head, tail, rfl, parts.1, List.all_eq_true.mp parts.2⟩

theorem isTail_of_isHead {char : Char} (begins : isHead char = true) : isTail char = true := by
  unfold isHead at begins
  unfold isTail Char.isAlphanum
  rcases Bool.or_eq_true_iff.mp begins with letter | underscore
  · rw [letter, Bool.true_or, Bool.true_or]
  · rw [underscore, Bool.or_true]

/-- The characters of a plain name may all continue a bare identifier. -/
theorem isTail_of_mem_of_isPlain {name : String} (plain : isPlain name = true) {char : Char}
    (member : char ∈ name.toList) : isTail char = true := by
  rcases exists_cons_of_isPlain plain with ⟨head, tail, chars, begun, continued⟩
  rw [chars] at member
  rcases List.mem_cons.mp member with first | later
  · rw [first]
    exact isTail_of_isHead begun
  · exact continued char later

/-- With characters that may continue a bare identifier, only the first one
matters. -/
theorem isPlain_eq_any_head? {name : String}
    (allowed : forall char, char ∈ name.toList -> isTail char = true) :
    isPlain name = name.toList.head?.any isHead := by
  unfold isPlain
  cases chars : name.toList with
  | nil => rfl
  | cons head tail =>
      rw [chars] at allowed
      have continued : tail.all isTail = true := List.all_eq_true.mpr fun char member =>
        allowed char (List.mem_cons_of_mem head member)
      simp only [continued, Bool.and_true, List.head?_cons, Option.any_some]

/-- The body of a quoted identifier and the text behind its closing quote.
Two double quotes in the body stand for one. -/
def body? : List Char -> Option (List Char × List Char)
  | [] => none
  | '"' :: '"' :: text => (body? text).map fun read => ('"' :: read.1, read.2)
  | '"' :: text => some ([], text)
  | char :: text => (body? text).map fun read => (char :: read.1, read.2)

/-- The name of the identifier at the beginning of a text, and the text
behind it. -/
def read? : List Char -> Option (String × List Char)
  | '"' :: text => (body? text).map fun read => (String.ofList read.1, read.2)
  | head :: text =>
      if isHead head then
        some (String.ofList (head :: text.takeWhile isTail), text.dropWhile isTail)
      else none
  | [] => none

/-- Whether a text could not continue the identifier before it. -/
def breaksOff (text : List Char) : Bool :=
  match text with
  | [] => true
  | next :: _ => !isTail next && next != '"'

/-- The characters that stand for a character in a quoted identifier. -/
private def doubled (char : Char) : List Char :=
  if char = '"' then ['"', '"'] else [char]

private theorem toList_quote (name : String) :
    (quote name).toList = '"' :: name.toList.flatMap doubled ++ ['"'] := by
  rw [quote, String.toList_ofList]
  rfl

private theorem body?_doubled (chars : List Char) {rest : List Char}
    (breaks : breaksOff rest = true) :
    body? (chars.flatMap doubled ++ '"' :: rest) = some (chars, rest) := by
  induction chars with
  | nil =>
      cases rest with
      | nil => rfl
      | cons next others =>
          -- A quote behind the closing quote would make the two stand for one.
          have other : next ≠ '"' := by
            intro same
            rw [same] at breaks
            cases breaks
          rw [List.flatMap_nil, List.nil_append, body?]
          intro _ same
          exact other (List.cons.inj same).1
  | cons char chars inductionHypothesis =>
      rw [List.flatMap_cons, List.append_assoc]
      by_cases same : char = '"'
      · rw [doubled, if_pos same, List.cons_append, List.cons_append, List.nil_append, body?,
          inductionHypothesis, same]
        rfl
      · rw [doubled, if_neg same, List.cons_append, List.nil_append, body?, inductionHypothesis]
        · rfl
        · intro _ quotes _
          exact same quotes
        · exact same

theorem read?_quote (name : String) {rest : List Char} (breaks : breaksOff rest = true) :
    read? ((quote name).toList ++ rest) = some (name, rest) := by
  rw [toList_quote, List.append_assoc, List.cons_append, List.singleton_append, read?,
    body?_doubled _ breaks, Option.map_some, String.ofList_toList]

theorem read?_of_isPlain {name : String} (plain : isPlain name = true) {rest : List Char}
    (breaks : breaksOff rest = true) : read? (name.toList ++ rest) = some (name, rest) := by
  rcases exists_cons_of_isPlain plain with ⟨head, tail, chars, begun, continued⟩
  have stopped : rest.takeWhile isTail = [] ∧ rest.dropWhile isTail = rest := by
    cases rest with
    | nil => exact ⟨rfl, rfl⟩
    | cons next others =>
        have refused := (Bool.and_eq_true_iff.mp breaks).1
        rw [Bool.not_eq_true'] at refused
        rw [List.takeWhile_cons, List.dropWhile_cons, refused]
        exact ⟨rfl, rfl⟩
  rw [chars, List.cons_append, read?, if_pos begun, List.takeWhile_append_of_pos continued,
    List.dropWhile_append_of_pos continued, stopped.1, stopped.2, List.append_nil, ← chars,
    String.ofList_toList]
  intro quoted
  rw [quoted] at begun
  cases begun

/-- Every name is read back as it is written. -/
theorem read?_written (name : String) {rest : List Char} (breaks : breaksOff rest = true) :
    read? ((written name).toList ++ rest) = some (name, rest) := by
  unfold written
  by_cases plain : isPlain name = true
  · rw [if_pos plain]
    exact read?_of_isPlain plain breaks
  · rw [if_neg plain]
    exact read?_quote name breaks

/-- A plain name has no quotes inside. -/
theorem not_mem_of_isPlain {name : String} (plain : isPlain name = true) : '"' ∉ name.toList := by
  intro member
  have allowed := isTail_of_mem_of_isPlain plain member
  cases allowed

/-- A name without quotes inside, plain or not, is quoted as it is. -/
theorem toList_quote_of_not_mem {name : String} (bare : '"' ∉ name.toList) :
    (quote name).toList = '"' :: name.toList ++ ['"'] := by
  have single (char : Char) (member : char ∈ name.toList) : doubled char = [char] := by
    apply if_neg
    intro same
    rw [same] at member
    exact bare member
  rw [toList_quote, List.flatMap_def, List.map_congr_left single,
    ← List.flatMap_def, List.flatMap_singleton']

/-- Every quote in a name makes its quoted form one character longer. -/
theorem length_quote (name : String) :
    (quote name).toList.length = name.toList.length + name.toList.count '"' + 2 := by
  have inside (chars : List Char) :
      (chars.flatMap doubled).length = chars.length + chars.count '"' := by
    induction chars with
    | nil => rfl
    | cons char chars inductionHypothesis =>
        rw [List.flatMap_cons, List.length_append, inductionHypothesis, List.length_cons]
        by_cases same : char = '"'
        · rw [doubled, if_pos same, same, List.count_cons_self]
          simp only [List.length_cons, List.length_nil]
          omega
        · rw [doubled, if_neg same, List.count_cons_of_ne same]
          simp only [List.length_cons, List.length_nil]
          omega
  rw [toList_quote, List.length_append, List.length_cons, inside]
  rfl

/-! ## What a reader has taken -/

private theorem eq_of_body? {text chars rest : List Char} (read : body? text = some (chars, rest)) :
    text = chars.flatMap doubled ++ '"' :: rest := by
  fun_induction body? text generalizing chars rest with
  | case1 => cases read
  | case2 text inductionHypothesis =>
      rcases Option.map_eq_some_iff.mp read with ⟨⟨inner, behind⟩, found, same⟩
      cases same
      rw [inductionHypothesis found]
      rfl
  | case3 text single =>
      cases read
      rfl
  | case4 char text twice other inductionHypothesis =>
      rcases Option.map_eq_some_iff.mp read with ⟨⟨inner, behind⟩, found, same⟩
      cases same
      rw [inductionHypothesis found, List.flatMap_cons, doubled, if_neg other]
      rfl

/-- A text in which a name is read begins with the name, bare or quoted. -/
theorem eq_of_read? {text rest : List Char} {name : String}
    (read : read? text = some (name, rest)) :
    isPlain name = true ∧ text = name.toList ++ rest ∨ text = (quote name).toList ++ rest := by
  unfold read? at read
  split at read
  · rename_i text
    rcases Option.map_eq_some_iff.mp read with ⟨⟨inner, behind⟩, found, same⟩
    cases same
    right
    rw [eq_of_body? found, toList_quote, String.toList_ofList, List.append_assoc,
      List.cons_append, List.singleton_append]
  · rename_i head text _
    split at read
    · rename_i begins
      cases read
      left
      constructor
      · rw [isPlain, String.toList_ofList]
        exact Bool.and_eq_true_iff.mpr ⟨begins, List.all_takeWhile⟩
      · rw [String.toList_ofList, List.cons_append, List.takeWhile_append_dropWhile]
    · cases read
  · cases read

/-! ## Names without their quotes -/

theorem unquote_quoted (inner : List Char) :
    unquote (String.ofList ('"' :: inner ++ ['"'])) = String.ofList inner := by
  have closes : (inner ++ ['"']).getLast? = some '"' := List.getLast?_concat
  rw [unquote, inner?, String.toList_ofList]
  simp only [List.cons_append, closes, if_true, List.dropLast_concat, Option.getD_some]

/-- Without quotes a name has the same characters, but for the quotes. -/
theorem mem_of_mem_unquote {name : String} {char : Char} (member : char ∈ (unquote name).toList) :
    char ∈ name.toList := by
  unfold unquote inner? at member
  split at member
  · rename_i rest chars
    rw [chars]
    split at member
    · rw [Option.getD_some, String.toList_ofList] at member
      exact List.mem_cons_of_mem _ ((List.dropLast_subset rest) member)
    · rw [Option.getD_none, chars] at member
      exact member
  · exact member

theorem unquote_of_not_mem {name : String} (bare : '"' ∉ name.toList) : unquote name = name := by
  unfold unquote inner?
  split
  · rename_i rest chars
    rw [chars] at bare
    exact absurd List.mem_cons_self bare
  · rfl

/-- The characters of a written name are those of the name, and quotes. -/
theorem mem_of_mem_written {name : String} {char : Char} (member : char ∈ (written name).toList)
    (other : char ≠ '"') : char ∈ name.toList := by
  unfold written at member
  by_cases plain : isPlain name = true
  · rw [if_pos plain] at member
    exact member
  · rw [if_neg plain, toList_quote, List.cons_append, List.mem_cons, List.mem_append,
      List.mem_singleton] at member
    rcases member with opening | inside | closing
    · exact absurd opening other
    · rcases List.mem_flatMap.mp inside with ⟨origin, listed, stands⟩
      unfold doubled at stands
      split at stands
      · simp only [List.mem_cons, List.not_mem_nil, or_false, or_self] at stands
        exact absurd stands other
      · rw [List.mem_singleton.mp stands]
        exact listed
    · exact absurd closing other

end Identifier
end Recase
