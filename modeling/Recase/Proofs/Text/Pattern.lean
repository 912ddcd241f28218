import Mathlib.Data.List.Basic

namespace Recase
namespace Text

/-!
# Patterns at the beginning of a text

A pattern is matched from the beginning of a text.  Several ways to match it
may be open, and they are tried in a fixed order until what follows the
pattern can be matched as well: of two alternatives the left one comes first,
a part that may be missing is first looked for, and a run is first taken as
long as it is and then given up character by character.  So a pattern stands
for the list of its ways, with the preferred ones in front, and what it
matches is the first of them.

`firstResult` asks for the first way after which something else succeeds, and
the lemmas about it follow the constructors.  The one with an idea in it is
`firstResult_many`: in general a run has to be tried at every length, but not
if what follows fails before every character that the run has given up.
-/

/-- What can be matched at the beginning of a text. -/
inductive Pattern where
  /-- These characters. -/
  | literal (chars : List Char)
  /-- One or more characters of a kind. -/
  | many (kind : Char -> Bool)
  /-- One pattern and another one behind it. -/
  | andThen (first second : Pattern)
  /-- One of two patterns. -/
  | either (first second : Pattern)
  /-- A pattern that may be missing. -/
  | optional (inner : Pattern)
  /-- A pattern whose text is kept under a number. -/
  | group (number : Nat) (inner : Pattern)

/-- One way to match a pattern: the texts that are kept, each with the number
of its group, and the text that is left over. -/
structure Match where
  groups : List (Nat × List Char)
  rest : List Char

/-- What can be left of a text behind one or more characters of a kind.  The
longest run comes first. -/
def behindRuns (kind : Char -> Bool) : List Char -> List (List Char)
  | [] => []
  | char :: rest => if kind char then behindRuns kind rest ++ [rest] else []

namespace Pattern

/-- The ways to match a pattern at the beginning of a text, in the order in
which they are tried. -/
def ways : Pattern -> List Char -> List Match
  | .literal chars, text =>
      if chars.isPrefixOf text then [⟨[], text.drop chars.length⟩] else []
  | .many kind, text => (behindRuns kind text).map fun rest => ⟨[], rest⟩
  | .andThen first second, text =>
      (first.ways text).flatMap fun way =>
        (second.ways way.rest).map fun next => ⟨way.groups ++ next.groups, next.rest⟩
  | .either first second, text => first.ways text ++ second.ways text
  | .optional inner, text => inner.ways text ++ [⟨[], text⟩]
  | .group number inner, text =>
      (inner.ways text).map fun way =>
        ⟨(number, text.take (text.length - way.rest.length)) :: way.groups, way.rest⟩

/-- The texts that are kept when a pattern is matched, in the order in which
they stand in the text.  Groups in a part that is missing are not among them. -/
def captures (pattern : Pattern) (text : List Char) : Option (List (Nat × List Char)) :=
  (pattern.ways text).head?.map Match.groups

variable {Result : Type}

/-- The result behind the first way to match a pattern after which there is
one. -/
def firstResult (pattern : Pattern) (text : List Char) (next : Match -> Option Result) :
    Option Result :=
  (pattern.ways text).findSome? next

/-! ## One equation for each kind of pattern -/

theorem captures_eq_firstResult (pattern : Pattern) (text : List Char) :
    pattern.captures text = pattern.firstResult text fun way => some way.groups := by
  rw [captures, firstResult]
  cases pattern.ways text with
  | nil => rfl
  | cons way others => rfl

theorem firstResult_literal (chars text : List Char) (next : Match -> Option Result) :
    (literal chars).firstResult text next =
      if chars.isPrefixOf text then next ⟨[], text.drop chars.length⟩ else none := by
  rw [firstResult, ways]
  split
  · exact List.findSome?_singleton
  · rfl

theorem firstResult_literal_nil (text : List Char) (next : Match -> Option Result) :
    (literal []).firstResult text next = next ⟨[], text⟩ :=
  firstResult_literal [] text next

theorem firstResult_literal_cons (char : Char) (chars text : List Char)
    (next : Match -> Option Result) :
    (literal (char :: chars)).firstResult (char :: text) next =
      (literal chars).firstResult text next := by
  rw [firstResult_literal, firstResult_literal, List.isPrefixOf_cons_cons, beq_self_eq_true,
    Bool.true_and, List.length_cons, List.drop_succ_cons]

theorem firstResult_literal_of_ne {char : Char} {text : List Char}
    (other : text.head? ≠ some char) (chars : List Char) (next : Match -> Option Result) :
    (literal (char :: chars)).firstResult text next = none := by
  rw [firstResult_literal]
  cases text with
  | nil => rfl
  | cons first rest =>
      have differs : (char == first) = false := by
        rw [beq_eq_false_iff_ne]
        intro same
        exact other (congrArg some same.symm)
      rw [List.isPrefixOf_cons_cons, differs, Bool.false_and]
      exact if_neg Bool.false_ne_true

theorem firstResult_andThen (first second : Pattern) (text : List Char)
    (next : Match -> Option Result) :
    (first.andThen second).firstResult text next =
      first.firstResult text fun way =>
        second.firstResult way.rest fun further =>
          next ⟨way.groups ++ further.groups, further.rest⟩ := by
  rw [firstResult, ways, ← List.head?_filterMap, List.filterMap_flatMap, List.head?_flatMap]
  simp only [firstResult, List.head?_filterMap, List.findSome?_map, Function.comp_def]

theorem firstResult_either (first second : Pattern) (text : List Char)
    (next : Match -> Option Result) :
    (first.either second).firstResult text next =
      (first.firstResult text next).or (second.firstResult text next) := by
  rw [firstResult, ways, List.findSome?_append]
  rfl

theorem firstResult_optional (inner : Pattern) (text : List Char) (next : Match -> Option Result) :
    inner.optional.firstResult text next =
      (inner.firstResult text next).or (next ⟨[], text⟩) := by
  rw [firstResult, ways, List.findSome?_append, List.findSome?_singleton]
  rfl

theorem firstResult_group (number : Nat) (inner : Pattern) (text : List Char)
    (next : Match -> Option Result) :
    (inner.group number).firstResult text next =
      inner.firstResult text fun way =>
        next ⟨(number, text.take (text.length - way.rest.length)) :: way.groups, way.rest⟩ := by
  rw [firstResult, ways, List.findSome?_map]
  rfl

/-! ## Runs that are not given up -/

/-- Whether a run of a kind is not given up for what follows it: this succeeds
in any case, or it fails before every character of the kind. -/
def KeepsRuns (kind : Char -> Bool) (next : List Char -> Option Result) : Prop :=
  (forall rest, (next rest).isSome = true) ∨
    forall char rest, kind char = true -> next (char :: rest) = none

theorem keepsRuns_some (kind : Char -> Bool) (found : List Char -> Result) :
    KeepsRuns kind fun rest => some (found rest) :=
  Or.inl fun _ => rfl

/-- A run is not given up for characters of another kind. -/
theorem keepsRuns_literal {kind : Char -> Bool} (first : Char) (chars : List Char)
    (next : List Char -> Match -> Option Result) (other : kind first = false) :
    KeepsRuns kind fun rest => (literal (first :: chars)).firstResult rest (next rest) := by
  refine Or.inr ?_
  intro char rest same
  apply firstResult_literal_of_ne
  intro equal
  rw [← Option.some.inj equal, same] at other
  cases other

/-- A run that is not given up is taken as long as it is. -/
theorem firstResult_many {kind : Char -> Bool} (text : List Char) (next : Match -> Option Result)
    (keeps : KeepsRuns kind fun rest => next ⟨[], rest⟩) :
    (many kind).firstResult text next =
      if text.head?.any kind then next ⟨[], text.dropWhile kind⟩ else none := by
  have runs (text : List Char) : (many kind).firstResult text next =
      (behindRuns kind text).findSome? fun rest => next ⟨[], rest⟩ := by
    rw [firstResult, ways, List.findSome?_map]
    rfl
  rw [runs]
  induction text with
  | nil => rfl
  | cons char rest inductionHypothesis =>
      rw [behindRuns, List.head?_cons, Option.any_some, List.dropWhile_cons]
      cases begins : kind char with
      | false => rfl
      | true =>
          simp only [if_true]
          rw [List.findSome?_append, inductionHypothesis, List.findSome?_singleton]
          cases rest with
          | nil => rfl
          | cons second others =>
              rw [List.head?_cons, Option.any_some, List.dropWhile_cons]
              cases continues : kind second with
              | false => rfl
              | true =>
                  simp only [if_true]
                  -- The longest run comes first; the run that stops here is not needed.
                  rcases keeps with succeeds | fails
                  · exact Option.or_of_isSome (succeeds _)
                  · have stopped : next ⟨[], second :: others⟩ = none := fails second others continues
                    rw [stopped, Option.or_none]

end Pattern
end Text
end Recase
