import Recase.Proofs.Identifier

namespace Recase

/-!
# Texts on one line

A text without line feeds stays on one line wherever it is put.  This is what
the lines of a script need of the names and words in them.  A quoted name has
no line feed that is not in the name.
-/

/-- Whether a text stays on one line. -/
def OneLine (text : String) : Prop :=
  '\n' ∉ text.toList

instance (text : String) : Decidable (OneLine text) :=
  inferInstanceAs (Decidable ('\n' ∉ text.toList))

theorem OneLine.append {first second : String} (one : OneLine first) (other : OneLine second) :
    OneLine (first ++ second) := by
  unfold OneLine
  rw [String.toList_append]
  intro member
  rcases List.mem_append.mp member with left | right
  · exact one left
  · exact other right

theorem oneLine_intercalate {separator : String} (one : OneLine separator) (texts : List String)
    (all : forall text, text ∈ texts -> OneLine text) :
    OneLine (String.intercalate separator texts) := by
  unfold OneLine
  rw [String.toList_intercalate]
  induction texts with
  | nil => exact List.not_mem_nil
  | cons text texts inductionHypothesis =>
      cases texts with
      | nil =>
          rw [List.map_cons, List.map_nil, List.intercalate_singleton]
          exact all text List.mem_cons_self
      | cons next texts =>
          rw [List.map_cons, List.map_cons, List.intercalate_cons_cons]
          intro member
          rcases List.mem_append.mp member with early | late
          · rcases List.mem_append.mp early with here | between
            · exact all text List.mem_cons_self here
            · exact one between
          · exact inductionHypothesis (fun other listed => all other (List.mem_cons_of_mem _ listed))
              late

/-- A literal is the text of its characters, which is how it is examined
without decoding it. -/
theorem oneLine_ofList {chars : List Char} (whole : '\n' ∉ chars) :
    OneLine (String.ofList chars) := by
  unfold OneLine
  rw [String.toList_ofList]
  exact whole

theorem oneLine_toString (number : Nat) : OneLine (toString number) := by
  unfold OneLine
  rw [Nat.toString_eq_repr, Nat.repr_eq_ofList_toDigits, String.toList_ofList]
  intro member
  have digit := Nat.isDigit_of_mem_toDigits (by decide) (by decide) member
  cases digit

/-- A name that can be written bare stays on one line. -/
theorem oneLine_of_isPlain {name : String} (plain : Identifier.isPlain name = true) :
    OneLine name := by
  intro member
  have allowed := Identifier.isTail_of_mem_of_isPlain plain member
  cases allowed

theorem oneLine_written {name : String} (one : OneLine name) :
    OneLine (Identifier.written name) := by
  intro member
  exact one (Identifier.mem_of_mem_written member (by decide))

theorem oneLine_unquote {name : String} (one : OneLine name) :
    OneLine (Identifier.unquote name) := by
  intro member
  exact one (Identifier.mem_of_mem_unquote member)

end Recase
