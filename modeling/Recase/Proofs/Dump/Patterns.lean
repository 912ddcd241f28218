import Recase.Proofs.Dump.Names
import Recase.Proofs.Text.Pattern

namespace Recase
namespace Dump

/-!
# Headers and columns as patterns

The lines that matter in a dump are given by two patterns, and the readers of
headers and columns do without trying: they read every run to its end and
never return to an earlier choice, but for the two parts of a header that may
be missing.  What they find is what the patterns capture.  A run need not be
given up, because no blank is a word character, and neither is a dot or a
quote, so that nothing that may follow a run could begin within it.
-/

open Text (Pattern Match)
open Text.Pattern

def wordPattern : Pattern :=
  .many Text.isWord

def quotedPattern : Pattern :=
  (literal ['"']).andThen ((many (· != '"')).andThen (literal ['"']))

def keywordPattern (keyword : String) : Pattern :=
  (literal keyword.toList).andThen (many Text.isBlank)

/-- The name of a table, or the name of its schema, a dot and its own name:
`(?:(\w+|"[^"]+")\.)?(\w+|"[^"]+")`. -/
def qualifiedPattern : Pattern :=
  (((wordPattern.either quotedPattern).group 1).andThen (literal ['.'])).optional.andThen
    ((wordPattern.either quotedPattern).group 2)

/-- A header.  It is matched at the beginning of a line:
`^CREATE TABLE\s+(?:IF NOT EXISTS\s+)?` and a table, qualified or not. -/
def headerPattern : Pattern :=
  (keywordPattern "CREATE TABLE").andThen
    ((keywordPattern "IF NOT EXISTS").optional.andThen qualifiedPattern)

/-- A column, `^("[^"]+"|\w+)\s+`. -/
def columnPattern : Pattern :=
  ((quotedPattern.either wordPattern).group 1).andThen (many Text.isBlank)

/-- What the pattern of a header captures of the names in it. -/
def Header.captures (header : Header) : List (Nat × List Char) :=
  match header.schema with
  | some schema => [(1, schema), (2, header.name)]
  | none => [(2, header.name)]

variable {Result : Type}

/-! ## Names -/

/-- A name between quotes is matched as it is read.  Behind the opening quote
the run goes up to the next quote, which is the closing one. -/
theorem firstResult_quotedPattern (chars : List Char) (next : Match -> Option Result) :
    quotedPattern.firstResult ('"' :: chars) next =
      (quotedName? chars).bind fun read => next ⟨[], read.2⟩ := by
  have keeps : KeepsRuns (· != '"') _ :=
    keepsRuns_literal '"' [] (fun _ further => next ⟨further.groups, further.rest⟩) rfl
  simp only [quotedPattern, firstResult_andThen, firstResult_literal_cons,
    firstResult_literal_nil, List.nil_append]
  rw [firstResult_many _ _ keeps, quotedName?]
  cases chars with
  | nil => rfl
  | cons char others =>
      rw [List.head?_cons, Option.any_some, List.takeWhile_cons, List.dropWhile_cons]
      cases inside : char != '"' with
      | false => rfl
      | true =>
          cases left : others.dropWhile (· != '"') with
          | nil => rfl
          | cons quote behind =>
              have closes : quote = '"' := by
                have stopped := List.head?_dropWhile_not (· != '"') others
                rw [left] at stopped
                simpa using stopped
              rw [closes]
              simp only [if_true, firstResult_literal_cons, firstResult_literal_nil]
              rfl

theorem firstResult_quotedPattern_of_ne {text : List Char} (other : text.head? ≠ some '"')
    (next : Match -> Option Result) : quotedPattern.firstResult text next = none := by
  rw [quotedPattern, firstResult_andThen, firstResult_literal_of_ne other]

/-- The two kinds of names exclude each other, and together they are the
names that are read. -/
theorem firstResult_either_names (text : List Char) (next : Match -> Option Result)
    (keeps : KeepsRuns Text.isWord fun rest => next ⟨[], rest⟩) :
    (wordPattern.either quotedPattern).firstResult text next =
        (leadingName? text).bind (fun read => next ⟨[], read.2⟩) ∧
      (quotedPattern.either wordPattern).firstResult text next =
        (leadingName? text).bind (fun read => next ⟨[], read.2⟩) := by
  rw [firstResult_either, firstResult_either, wordPattern, firstResult_many _ _ keeps]
  cases text with
  | nil => exact ⟨rfl, rfl⟩
  | cons char chars =>
      rw [List.head?_cons, Option.any_some, List.dropWhile_cons, leadingName?]
      by_cases quote : char = '"'
      · rw [if_pos quote, quote, isWord_quote, firstResult_quotedPattern]
        exact ⟨Option.none_or, Option.or_none⟩
      · have unquoted : (char :: chars).head? ≠ some '"' := fun same => quote (Option.some.inj same)
        rw [if_neg quote, firstResult_quotedPattern_of_ne unquoted, Option.or_none, Option.none_or]
        cases Text.isWord char with
        | true => exact ⟨rfl, rfl⟩
        | false => exact ⟨rfl, rfl⟩

/-- What is kept of a name is the name itself. -/
private theorem bind_taken (number : Nat) (text : List Char) (next : Match -> Option Result) :
    ((leadingName? text).bind fun read =>
        next ⟨[(number, text.take (text.length - read.2.length))], read.2⟩) =
      (leadingName? text).bind fun read => next ⟨[(number, read.1)], read.2⟩ := by
  cases leading : leadingName? text with
  | none => rfl
  | some read =>
      have split := (spelled_of_leadingName? leading).2
      have taken : text.take (text.length - read.2.length) = read.1 := by
        rw [split, List.length_append, Nat.add_sub_cancel, List.take_left']
        rfl
      rw [Option.bind_some, Option.bind_some, taken]

theorem firstResult_name (number : Nat) (text : List Char) (next : Match -> Option Result)
    (keeps : KeepsRuns Text.isWord fun rest =>
      next ⟨[(number, text.take (text.length - rest.length))], rest⟩) :
    ((wordPattern.either quotedPattern).group number).firstResult text next =
        (leadingName? text).bind (fun read => next ⟨[(number, read.1)], read.2⟩) ∧
      ((quotedPattern.either wordPattern).group number).firstResult text next =
        (leadingName? text).bind (fun read => next ⟨[(number, read.1)], read.2⟩) := by
  have either := firstResult_either_names text
    (fun way => next ⟨(number, text.take (text.length - way.rest.length)) :: way.groups, way.rest⟩)
    keeps
  rw [firstResult_group, firstResult_group, either.1, either.2]
  exact ⟨bind_taken number text next, bind_taken number text next⟩

/-! ## Headers and columns -/

/-- A qualified name is matched as it is read. -/
theorem firstResult_qualifiedPattern (text : List Char) :
    qualifiedPattern.firstResult text (fun way => some way.groups) =
      (qualifiedName? text).map Header.captures := by
  have second (way : Match) : ((wordPattern.either quotedPattern).group 2).firstResult way.rest
      (fun further => some (way.groups ++ further.groups)) =
        (leadingName? way.rest).map fun read => way.groups ++ [(2, read.1)] := by
    rw [(firstResult_name 2 way.rest (fun further => some (way.groups ++ further.groups))
      (keepsRuns_some _ _)).1]
    exact (Option.map_eq_bind ..).symm
  have behindSchema : KeepsRuns Text.isWord _ :=
    keepsRuns_literal '.' [] (fun rest further => (leadingName? further.rest).map fun read =>
      (1, text.take (text.length - rest.length)) :: further.groups ++ [(2, read.1)]) (by decide)
  simp only [qualifiedPattern, firstResult_andThen, firstResult_optional, second]
  rw [(firstResult_name 1 text _ behindSchema).1, qualifiedName?]
  cases leading : leadingName? text with
  | none => rfl
  | some read =>
      rcases read with ⟨first, rest⟩
      simp only [Option.bind_some, Option.map_some]
      split
      · rename_i afterDot
        rw [firstResult_literal_cons, firstResult_literal_nil]
        -- A schema is matched first, and given up if no second name follows.
        cases leadingName? afterDot with
        | none => rfl
        | some read => rfl
      · rename_i undotted
        rw [firstResult_literal_of_ne]
        · rfl
        · intro dotted
          rcases List.head?_eq_some_iff.mp dotted with ⟨afterDot, same⟩
          exact undotted afterDot same

/-- A keyword is matched as it is read. -/
theorem firstResult_keywordPattern (keyword : String) (text : List Char)
    (next : Match -> Option Result)
    (keeps : KeepsRuns Text.isBlank fun rest => next ⟨[], rest⟩) :
    (keywordPattern keyword).firstResult text next =
      (afterKeyword? keyword.toList text).bind fun rest => next ⟨[], rest⟩ := by
  rw [keywordPattern, firstResult_andThen, firstResult_literal, afterKeyword?]
  split
  · refine (firstResult_many _ _ keeps).trans ?_
    cases text.drop keyword.toList.length with
    | nil => rfl
    | cons char rest =>
        simp only [List.head?_cons, Option.any_some, List.dropWhile_cons]
        cases Text.isBlank char with
        | true => rfl
        | false => rfl
  · rfl

/-- No table is named where a blank stands. -/
theorem qualifiedName?_of_isBlank {char : Char} (blank : Text.isBlank char = true)
    (rest : List Char) : qualifiedName? (char :: rest) = none := by
  have unquoted : char ≠ '"' := by
    intro same
    rw [same] at blank
    revert blank
    decide
  have none : leadingName? (char :: rest) = none := by
    rw [leadingName?, if_neg unquoted, Text.isWord_of_isBlank blank]
    rfl
  rw [qualifiedName?, none]

/-- The part of a header behind `CREATE TABLE` is matched as it is read.  What
cannot be matched behind `IF NOT EXISTS` is matched without these words. -/
theorem firstResult_declared (text : List Char) :
    ((keywordPattern "IF NOT EXISTS").optional.andThen qualifiedPattern).firstResult text
      (fun way => some way.groups) = (declaredName? text).map Header.captures := by
  rw [firstResult_andThen, firstResult_optional, firstResult_keywordPattern]
  · simp only [List.nil_append, firstResult_qualifiedPattern, declaredName?, Option.map_or,
      Option.map_bind, Function.comp_def]
  · refine Or.inr ?_
    intro char rest blank
    simp only [List.nil_append, firstResult_qualifiedPattern, qualifiedName?_of_isBlank blank,
      Option.map_none]

/-- What the pattern of a header captures are the names that are read in the
line. -/
theorem captures_headerPattern (line : List Char) :
    headerPattern.captures line = (header? line).map Header.captures := by
  rw [captures_eq_firstResult, headerPattern, firstResult_andThen, firstResult_keywordPattern]
  · simp only [List.nil_append, firstResult_declared, header?, Option.map_bind, Function.comp_def]
  · refine Or.inr ?_
    intro char rest blank
    have guarded : afterKeyword? "IF NOT EXISTS".toList (char :: rest) = none := by
      have differs : ('I' == char) = false := by
        rw [beq_eq_false_iff_ne]
        intro same
        rw [← same] at blank
        revert blank
        decide
      have words : "IF NOT EXISTS".toList = 'I' :: "F NOT EXISTS".toList := rfl
      rw [afterKeyword?, words, List.isPrefixOf_cons_cons, differs, Bool.false_and]
      exact if_neg Bool.false_ne_true
    simp only [List.nil_append, firstResult_declared, declaredName?, guarded,
      qualifiedName?_of_isBlank blank, Option.bind_none, Option.none_or, Option.map_none]

/-- What the pattern of a column captures is the column that is read in the
line. -/
theorem captures_columnPattern (line : List Char) :
    columnPattern.captures line = (column? line).map fun name => [(1, name)] := by
  have blanks (text : List Char) (groups : List (Nat × List Char)) :
      (many Text.isBlank).firstResult text (fun further => some (groups ++ further.groups)) =
        if text.head?.any Text.isBlank then some groups else none := by
    rw [firstResult_many text (fun further => some (groups ++ further.groups))
      (keepsRuns_some _ _), List.append_nil]
  have behindName : KeepsRuns Text.isWord fun rest =>
      if rest.head?.any Text.isBlank then some [(1, line.take (line.length - rest.length))]
      else none := by
    refine Or.inr ?_
    intro char rest word
    simp only [List.head?_cons, Option.any_some, Text.isBlank_of_isWord word, Bool.false_eq_true,
      if_false]
  simp only [captures_eq_firstResult, columnPattern, firstResult_andThen, blanks]
  rw [(firstResult_name 1 line _ behindName).2, column?]
  cases leading : leadingName? line with
  | none => rfl
  | some read =>
      rcases read with ⟨name, rest⟩
      cases rest with
      | nil => rfl
      | cons char others =>
          cases blank : Text.isBlank char with
          | true =>
              simp only [Option.bind_some, List.head?_cons, Option.any_some, blank, if_true,
                Option.map_some]
          | false =>
              simp only [Option.bind_some, List.head?_cons, Option.any_some, blank,
                Bool.false_eq_true, if_false, Option.map_none]

end Dump
end Recase
