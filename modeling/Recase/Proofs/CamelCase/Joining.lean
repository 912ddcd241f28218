import Recase.Proofs.CamelCase
import Recase.Proofs.Text.Settled

namespace Recase

/-!
# Camel case of joined names

The camel case of two names with an underscore between them is the camel case
of the first, followed by that of the second with its first character raised.
Empty segments do not get in the way: if the second name begins with
underscores, the first character of its camel case has been raised already,
and upper case is final.

For the same reason nothing but underscores and the case of some characters
is lost.  If every character is raised, a name in camel case cannot be told
from the name without its underscores.
-/

/-- A name with its first character raised to upper case. -/
def capitalized (name : String) : String :=
  String.ofList (capitalize name.toList)

def uppercase (name : String) : String :=
  String.ofList (name.toList.flatMap Text.upper)

def withoutUnderscores (name : String) : String :=
  String.ofList (name.toList.filter (· != '_'))

/-! ## Capitalized segments -/

/-- A segment that is capitalized need not be capitalized again. -/
theorem capitalize_capitalize_append {segment : List Char} (nonempty : segment ≠ [])
    (rest : List Char) : capitalize (capitalize segment ++ rest) = capitalize segment ++ rest := by
  cases segment with
  | nil => exact absurd rfl nonempty
  | cons head tail =>
      rw [capitalize, List.append_assoc]
      cases raised : Text.upper head with
      | nil => exact absurd raised (Text.upper_ne_nil head)
      | cons first others =>
          have final : Text.upper first = [first] := by
            have member : first ∈ Text.upper head := by
              rw [raised]
              exact List.mem_cons_self
            exact Text.upper_of_mem_upper member
          rw [List.cons_append, capitalize, final, List.singleton_append]

/-- Among capitalized segments the first one that is not empty begins with a
character that has been raised. -/
theorem capitalize_flatMap_capitalize (segments : List (List Char)) :
    capitalize (segments.flatMap capitalize) = segments.flatMap capitalize := by
  induction segments with
  | nil => rfl
  | cons segment others inductionHypothesis =>
      rw [List.flatMap_cons]
      cases segment with
      | nil => exact inductionHypothesis
      | cons head tail => exact capitalize_capitalize_append (List.cons_ne_nil head tail) _

theorem flatMap_upper_capitalize (segment : List Char) :
    (capitalize segment).flatMap Text.upper = segment.flatMap Text.upper := by
  cases segment with
  | nil => rfl
  | cons head tail =>
      rw [capitalize, List.flatMap_append, Text.flatMap_upper_upper, List.flatMap_cons]

/-! ## Segments of a whole name -/

/-- If a name is not at the beginning, its first segment is capitalized like
the others. -/
theorem flatMap_capitalize_pieces (chars : List Char) :
    (Text.pieces '_' chars).flatMap capitalize = capitalize (camelChars chars) := by
  rw [camelChars]
  cases cut : Text.pieces '_' chars with
  | nil => rfl
  | cons first others =>
      cases first with
      | nil => exact (capitalize_flatMap_capitalize others).symm
      | cons head tail =>
          rw [List.flatMap_cons, capitalize, List.append_assoc]
          rfl

theorem camelChars_append_underscore (left right : List Char) :
    camelChars (left ++ '_' :: right) = camelChars left ++ capitalize (camelChars right) := by
  rw [← flatMap_capitalize_pieces right, camelChars, camelChars, Text.pieces_append_separator]
  cases cut : Text.pieces '_' left with
  | nil => exact absurd cut (Text.pieces_ne_nil '_' left)
  | cons first others =>
      simp only [List.cons_append, List.flatMap_append, List.append_assoc]

theorem flatMap_upper_camelChars (chars : List Char) :
    (camelChars chars).flatMap Text.upper = (chars.filter (· != '_')).flatMap Text.upper := by
  rw [← Text.flatten_pieces, camelChars]
  cases Text.pieces '_' chars with
  | nil => rfl
  | cons first others =>
      have segments : (others.flatMap capitalize).flatMap Text.upper =
          others.flatten.flatMap Text.upper := by
        rw [List.flatMap_assoc, List.flatMap_def, List.map_congr_left
          fun segment _ => flatMap_upper_capitalize segment, ← List.flatMap_def,
          ← List.flatMap_assoc, List.flatMap_id']
      rw [List.flatMap_append, segments, List.flatten_cons, List.flatMap_append]

/-! ## The laws of camel case -/

/-- A name in camel case has no underscore, and it is its own camel case, as
all names without underscores are and no others.  Names that are joined by an
underscore are joined in camel case by raising the first character of the
second.  If all characters are raised, camel case has only removed the
underscores. -/
theorem camelCase_laws (first second name : String) :
    '_' ∉ (camelCase name).toList ∧
      camelCase (camelCase name) = camelCase name ∧
      (camelCase name = name ↔ '_' ∉ name.toList) ∧
      camelCase (first ++ "_" ++ second) = camelCase first ++ capitalized (camelCase second) ∧
      uppercase (camelCase name) = uppercase (withoutUnderscores name) := by
  have bare : '_' ∉ (camelCase name).toList := isSnake_eq_false_iff.mp (isSnake_camelCase name)
  refine ⟨bare, camelCase_of_not_isSnake (isSnake_camelCase name), ?_, ?_, ?_⟩
  · constructor
    · intro same
      rw [← same]
      exact bare
    · intro plain
      exact camelCase_of_not_isSnake (isSnake_eq_false_iff.mpr plain)
  · have joined : (first ++ "_" ++ second).toList = first.toList ++ '_' :: second.toList := by
      simp only [String.toList_append, List.append_assoc]
      rfl
    rw [camelCase, joined, camelChars_append_underscore, String.ofList_append]
    simp only [camelCase, capitalized, String.toList_ofList]
  · simp only [uppercase, withoutUnderscores, camelCase, String.toList_ofList,
      flatMap_upper_camelChars]

/-- A letter may go to two when it is raised, and the first underscore may go
without a trace. -/
example : camelCase "_groß_ßa" = "GroßSSa" := by decide +kernel

end Recase
