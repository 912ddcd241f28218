import Recase.CamelCase
import Recase.Proofs.Text.OneLine
import Recase.Proofs.Text.Pieces
import Recase.Proofs.Text.Uppercase

namespace Recase

/-!
# Names in camel case

The camel case of a name has no underscore: the segments have none, and none
is the upper case of another character.  A name that is a candidate for
renaming is therefore never the new name of anything.  What holds for the
underscore holds for every character that is no upper case of another: camel
case brings no such character into a name.
-/

/-- A character that nothing is raised to is in a capitalized segment only if
it was in the segment. -/
theorem mem_of_mem_capitalize {segment : List Char} {char : Char} (positive : 0 < char.toNat)
    (apart : Text.isCapital char.toNat = false) (member : char ∈ capitalize segment) :
    char ∈ segment := by
  cases segment with
  | nil => exact member
  | cons head tail =>
      rcases List.mem_append.mp member with raised | kept
      · rw [Text.eq_of_mem_upper raised positive apart]
        exact List.mem_cons_self
      · exact List.mem_cons_of_mem _ kept

theorem exists_piece_of_mem_camelChars {chars : List Char} {char : Char}
    (positive : 0 < char.toNat) (apart : Text.isCapital char.toNat = false)
    (member : char ∈ camelChars chars) :
    Exists fun piece => piece ∈ Text.pieces '_' chars ∧ char ∈ piece := by
  unfold camelChars at member
  cases cut : Text.pieces '_' chars with
  | nil =>
      rw [cut] at member
      cases member
  | cons first others =>
      rw [cut] at member
      rcases List.mem_append.mp member with early | late
      · exact ⟨first, List.mem_cons_self, early⟩
      · rcases List.mem_flatMap.mp late with ⟨segment, listed, inside⟩
        exact ⟨segment, List.mem_cons_of_mem _ listed,
          mem_of_mem_capitalize positive apart inside⟩

theorem underscore_not_mem_camelChars (chars : List Char) : '_' ∉ camelChars chars := by
  intro member
  rcases exists_piece_of_mem_camelChars (by decide) (by decide +kernel) member with
    ⟨piece, listed, inside⟩
  exact Text.not_mem_of_mem_pieces listed inside

/-- A name on one line stays on one line in camel case. -/
theorem oneLine_camelCase {name : String} (one : OneLine name) : OneLine (camelCase name) := by
  intro member
  rw [camelCase, String.toList_ofList] at member
  rcases exists_piece_of_mem_camelChars (by decide) (by decide +kernel) member with
    ⟨piece, listed, inside⟩
  exact one (Text.mem_and_ne_of_mem_pieces listed inside).1

theorem isSnake_camelCase (name : String) : isSnake (camelCase name) = false := by
  rw [isSnake, camelCase, String.toList_ofList, List.contains_eq_mem]
  exact decide_eq_false (underscore_not_mem_camelChars name.toList)

/-- A name with an underscore is not the camel case of any name. -/
theorem ne_camelCase_of_isSnake {name : String} (snake : isSnake name = true) (other : String) :
    name ≠ camelCase other := by
  intro same
  rw [same, isSnake_camelCase] at snake
  cases snake

theorem tableName_of_isSnake {name : String} (snake : isSnake name = true) :
    tableName name = camelCase name :=
  if_pos snake

theorem tableName_of_not_isSnake {name : String} (plain : isSnake name = false) :
    tableName name = name := by
  rw [tableName, plain]
  rfl

theorem oneLine_tableName {name : String} (one : OneLine name) : OneLine (tableName name) := by
  cases snake : isSnake name with
  | true =>
      rw [tableName_of_isSnake snake]
      exact oneLine_camelCase one
  | false =>
      rw [tableName_of_not_isSnake snake]
      exact one

theorem isSnake_tableName (name : String) : isSnake (tableName name) = false := by
  cases snake : isSnake name with
  | true =>
      rw [tableName_of_isSnake snake]
      exact isSnake_camelCase name
  | false =>
      rw [tableName_of_not_isSnake snake]
      exact snake

/-! ## Names that stay as they are -/

theorem isSnake_eq_true_iff {name : String} : isSnake name = true ↔ '_' ∈ name.toList :=
  List.contains_iff_mem

theorem isSnake_eq_false_iff {name : String} : isSnake name = false ↔ '_' ∉ name.toList := by
  rw [← isSnake_eq_true_iff, Bool.not_eq_true]

/-- A text without underscores is a single segment, and the first segment is
kept. -/
theorem camelChars_of_not_mem {chars : List Char} (plain : '_' ∉ chars) :
    camelChars chars = chars := by
  simp [camelChars, Text.pieces_of_not_mem plain]

/-- A character before the first underscore is kept. -/
theorem camelChars_cons {char : Char} (plain : char ≠ '_') (chars : List Char) :
    camelChars (char :: chars) = char :: camelChars chars := by
  unfold camelChars
  rw [Text.pieces_cons]
  cases cut : Text.pieces '_' chars with
  | nil => exact absurd cut (Text.pieces_ne_nil '_' chars)
  | cons first others => simp only [Text.extendPieces, if_neg plain, List.cons_append]

/-- The character behind an underscore is raised. -/
theorem camelChars_underscore_cons {head : Char} (plain : head ≠ '_') (chars : List Char) :
    camelChars ('_' :: head :: chars) = Text.upper head ++ camelChars chars := by
  unfold camelChars
  rw [Text.pieces_cons, Text.pieces_cons]
  cases cut : Text.pieces '_' chars with
  | nil => exact absurd cut (Text.pieces_ne_nil '_' chars)
  | cons first others =>
      simp only [Text.extendPieces, if_neg plain, if_true, List.flatMap_cons, capitalize,
        List.nil_append, List.append_assoc]

theorem camelCase_of_not_isSnake {name : String} (plain : isSnake name = false) :
    camelCase name = name := by
  rw [camelCase, camelChars_of_not_mem (isSnake_eq_false_iff.mp plain), String.ofList_toList]

/-- A name is changed exactly if it has an underscore. -/
theorem camelCase_ne_self_iff {name : String} : camelCase name ≠ name ↔ isSnake name = true := by
  constructor
  · intro changed
    cases snake : isSnake name with
    | true => rfl
    | false => exact absurd (camelCase_of_not_isSnake snake) changed
  · intro snake
    exact (ne_camelCase_of_isSnake snake name).symm

/-- A table is named in camel case whether or not it is renamed. -/
theorem tableName_eq_camelCase (name : String) : tableName name = camelCase name := by
  cases snake : isSnake name with
  | true => exact tableName_of_isSnake snake
  | false => rw [tableName_of_not_isSnake snake, camelCase_of_not_isSnake snake]

end Recase
