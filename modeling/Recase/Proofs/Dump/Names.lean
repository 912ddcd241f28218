import Mathlib.Data.List.TakeWhile
import Recase.Proofs.Dump.Blocks
import Recase.Proofs.Text.Blank
import Recase.Proofs.Text.OneLine
import Recase.Proofs.Text.Pieces

namespace Recase
namespace Dump

/-!
# How a dump spells its names

A name is spelled as a word or between double quotes, and a spelling at the
beginning of a text is read as a whole if the text behind it could not
continue it.  Conversely, whatever is read as a name is spelled in one of the
two ways and is a part of its line.  So no name in a dump has a line feed.
-/

/-- The two ways to spell a name: as a word, and as a text between double
quotes. -/
inductive Spelled : List Char -> Prop where
  | bare {word : List Char} (nonempty : word ≠ [])
      (words : forall char, char ∈ word -> Text.isWord char = true) : Spelled word
  | quoted {inner : List Char} (nonempty : inner ≠ []) (closed : '"' ∉ inner) :
      Spelled ('"' :: inner ++ ['"'])

/-- Whether a text could not continue the word before it. -/
def endsWord : List Char -> Bool
  | [] => true
  | next :: _ => !Text.isWord next

theorem isWord_quote : Text.isWord '"' = false := by
  decide

/-! ## Reading what is spelled -/

theorem leadingName?_word {first : Char} {word rest : List Char}
    (words : forall char, char ∈ first :: word -> Text.isWord char = true)
    (ends : endsWord rest = true) :
    leadingName? (first :: word ++ rest) = some (first :: word, rest) := by
  have begins := words first List.mem_cons_self
  have continues : forall char, char ∈ word -> Text.isWord char = true :=
    fun char member => words char (List.mem_cons_of_mem _ member)
  have stopped : rest.takeWhile Text.isWord = [] ∧ rest.dropWhile Text.isWord = rest := by
    cases rest with
    | nil => exact ⟨rfl, rfl⟩
    | cons next others =>
        have other : Text.isWord next = false := by simpa [endsWord] using ends
        rw [List.takeWhile_cons, List.dropWhile_cons, other]
        exact ⟨rfl, rfl⟩
  have unquoted : first ≠ '"' := by
    intro same
    rw [same, isWord_quote] at begins
    cases begins
  rw [List.cons_append, leadingName?, if_neg unquoted, if_pos begins,
    List.takeWhile_append_of_pos continues, List.dropWhile_append_of_pos continues, stopped.1,
    stopped.2, List.append_nil]

theorem quotedName?_append {inner : List Char} (nonempty : inner ≠ []) (closed : '"' ∉ inner)
    (rest : List Char) :
    quotedName? (inner ++ '"' :: rest) = some ('"' :: inner ++ ['"'], rest) := by
  have inside : forall char, char ∈ inner -> (char != '"') = true := by
    intro char member
    exact bne_iff_ne.mpr fun same => closed (same ▸ member)
  have stopped : ('"' :: rest).takeWhile (· != '"') = [] ∧
      ('"' :: rest).dropWhile (· != '"') = '"' :: rest := ⟨rfl, rfl⟩
  unfold quotedName?
  rw [List.takeWhile_append_of_pos inside, List.dropWhile_append_of_pos inside, stopped.1,
    stopped.2, List.append_nil]
  cases inner with
  | nil => exact absurd rfl nonempty
  | cons head tail => rfl

/-- A spelled name is read as a whole. -/
theorem leadingName?_append {name rest : List Char} (spelled : Spelled name)
    (ends : endsWord rest = true) : leadingName? (name ++ rest) = some (name, rest) := by
  cases spelled with
  | bare nonempty words =>
      cases name with
      | nil => exact absurd rfl nonempty
      | cons first word => exact leadingName?_word words ends
  | quoted nonempty closed =>
      rw [List.cons_append, List.cons_append, List.append_assoc, leadingName?, if_pos rfl]
      exact quotedName?_append nonempty closed rest

/-! ## Only what is spelled is read -/

theorem spelled_of_quotedName? {chars name rest : List Char}
    (read : quotedName? chars = some (name, rest)) :
    Spelled name ∧ '"' :: chars = name ++ rest := by
  have joined := List.takeWhile_append_dropWhile (p := (· != '"')) (l := chars)
  have closed : '"' ∉ chars.takeWhile (· != '"') := by
    intro member
    have other := List.mem_takeWhile_imp member
    cases other
  unfold quotedName? at read
  cases taken : chars.takeWhile (· != '"') with
  | nil =>
      rw [taken] at read
      cases read
  | cons head tail =>
      cases left : chars.dropWhile (· != '"') with
      | nil =>
          rw [taken, left] at read
          cases read
      | cons quote others =>
          have same : quote = '"' := by
            have stopped := List.head?_dropWhile_not (· != '"') chars
            rw [left] at stopped
            simpa using stopped
          rw [taken, left] at read
          cases read
          rw [taken, left, same] at joined
          rw [taken] at closed
          refine ⟨.quoted (List.cons_ne_nil _ _) closed, ?_⟩
          rw [← joined]
          simp only [List.cons_append, List.append_assoc, List.nil_append]

/-- What is read as a name is spelled in one of the two ways, and it stands at
the beginning of the text. -/
theorem spelled_of_leadingName? {chars name rest : List Char}
    (read : leadingName? chars = some (name, rest)) : Spelled name ∧ chars = name ++ rest := by
  cases chars with
  | nil => cases read
  | cons char chars =>
      rw [leadingName?] at read
      by_cases quote : char = '"'
      · rw [if_pos quote] at read
        rw [quote]
        exact spelled_of_quotedName? read
      · rw [if_neg quote] at read
        by_cases word : Text.isWord char = true
        · rw [if_pos word] at read
          cases read
          refine ⟨.bare (List.cons_ne_nil _ _) ?_, ?_⟩
          · intro other member
            rcases List.mem_cons.mp member with here | later
            · rw [here]
              exact word
            · exact List.mem_takeWhile_imp later
          · rw [List.cons_append, List.takeWhile_append_dropWhile]
        · rw [if_neg word] at read
          cases read

/-- Whether a text is a name that is spelled somewhere in a line. -/
def SpelledIn (line name : List Char) : Prop :=
  Spelled name ∧ name <:+: line

theorem SpelledIn.mono {line longer name : List Char} (spelled : SpelledIn line name)
    (part : line <:+: longer) : SpelledIn longer name :=
  ⟨spelled.1, spelled.2.trans part⟩

theorem spelledIn_of_leadingName? {chars name rest : List Char}
    (read : leadingName? chars = some (name, rest)) : SpelledIn chars name := by
  rcases spelled_of_leadingName? read with ⟨spelled, split⟩
  refine ⟨spelled, ?_⟩
  rw [split]
  exact (List.prefix_append name rest).isInfix

theorem suffix_of_afterKeyword? {keyword line rest : List Char}
    (read : afterKeyword? keyword line = some rest) : rest <:+ line := by
  unfold afterKeyword? at read
  by_cases begins : keyword.isPrefixOf line = true
  · rw [if_pos begins] at read
    cases left : line.drop keyword.length with
    | nil =>
        rw [left] at read
        cases read
    | cons char others =>
        have behind : others <:+ line := by
          have dropped := List.drop_suffix keyword.length line
          rw [left] at dropped
          exact (List.suffix_cons char others).trans dropped
        rw [left] at read
        by_cases blank : Text.isBlank char = true
        · simp only [blank, if_true, Option.some.injEq] at read
          rw [← read]
          exact (Text.trimLeft_suffix others).trans behind
        · simp only [blank] at read
          cases read
  · rw [if_neg begins] at read
    cases read

/-! ## The names in a header -/

structure Header.SpelledIn (header : Header) (line : List Char) : Prop where
  name : Dump.SpelledIn line header.name
  schema : forall schema, header.schema = some schema -> Dump.SpelledIn line schema

theorem Header.SpelledIn.mono {header : Header} {line longer : List Char}
    (spelled : header.SpelledIn line) (part : line <:+: longer) : header.SpelledIn longer where
  name := spelled.name.mono part
  schema := fun schema given => (spelled.schema schema given).mono part

theorem spelledIn_of_qualifiedName? {chars : List Char} {header : Header}
    (read : qualifiedName? chars = some header) : header.SpelledIn chars := by
  unfold qualifiedName? at read
  cases leading : leadingName? chars with
  | none =>
      rw [leading] at read
      cases read
  | some found =>
      rcases found with ⟨first, rest⟩
      have spelled := spelledIn_of_leadingName? leading
      have alone : (Header.mk none first).SpelledIn chars :=
        { name := spelled
          schema := fun schema given => by cases given }
      rw [leading] at read
      simp only at read
      split at read
      · rename_i afterDot
        cases next : leadingName? afterDot with
        | none =>
            rw [next] at read
            cases read
            exact alone
        | some other =>
            have behind : afterDot <:+: chars := by
              rw [(spelled_of_leadingName? leading).2]
              exact ((List.suffix_cons '.' afterDot).trans (List.suffix_append _ _)).isInfix
            rw [next] at read
            cases read
            exact
              { name := (spelledIn_of_leadingName? next).mono behind
                schema := fun schema given => by
                  cases given
                  exact spelled }
      · cases read
        exact alone

theorem spelledIn_of_header? {line : List Char} {header : Header}
    (read : header? line = some header) : header.SpelledIn line := by
  rcases Option.bind_eq_some_iff.mp read with ⟨rest, keyword, declares⟩
  have behind := (suffix_of_afterKeyword? keyword).isInfix
  rcases Option.or_eq_some_iff.mp declares with guarded | ⟨_, plain⟩
  · rcases Option.bind_eq_some_iff.mp guarded with ⟨further, guard, named⟩
    exact ((spelledIn_of_qualifiedName? named).mono (suffix_of_afterKeyword? guard).isInfix).mono
      behind
  · exact (spelledIn_of_qualifiedName? plain).mono behind

theorem spelledIn_of_column? {line name : List Char} (read : column? line = some name) :
    SpelledIn line name := by
  unfold column? at read
  split at read
  · rename_i leading
    split at read
    · cases read
      exact spelledIn_of_leadingName? leading
    · cases read
  · cases read

/-! ## The tables of a dump -/

/-- Whether no name in a table has a line feed. -/
structure OneLineNames (table : Table) : Prop where
  name : OneLine table.name
  schema : forall schema, table.schema = some schema -> OneLine schema
  columns : forall column, column ∈ table.columns.toList -> OneLine column

theorem not_mem_of_mem_lines {text : String} {line : List Char} (member : line ∈ Text.lines text) :
    '\n' ∉ line := by
  rcases List.mem_map.mp member with ⟨piece, listed, trimmed⟩
  intro inside
  rw [← trimmed] at inside
  exact Text.not_mem_of_mem_pieces listed (Text.mem_of_mem_trim inside)

theorem oneLine_of_spelledIn {line name : List Char} (whole : '\n' ∉ line)
    (spelled : SpelledIn line name) : OneLine (String.ofList name) := by
  apply oneLine_ofList
  intro member
  exact whole (spelled.2.subset member)

theorem oneLineNames_declaredTable {line : List Char} {header : Header} {body : List (List Char)}
    (read : header? line = some header) (whole : '\n' ∉ line)
    (bodyWhole : forall other, other ∈ body -> '\n' ∉ other) :
    OneLineNames (declaredTable header body) := by
  have spelled := spelledIn_of_header? read
  constructor
  · exact oneLine_unquote (oneLine_of_spelledIn whole spelled.name)
  · intro schema given
    rcases Option.map_eq_some_iff.mp given with ⟨chars, written, same⟩
    rw [← same]
    exact oneLine_unquote (oneLine_of_spelledIn whole (spelled.schema chars written))
  · intro column member
    rcases List.mem_map.mp member with ⟨chars, listed, same⟩
    rcases List.mem_filterMap.mp listed with ⟨other, kept, named⟩
    rw [← same]
    exact oneLine_of_spelledIn (bodyWhole other (List.mem_of_mem_filter kept))
      (spelledIn_of_column? named)

theorem mem_of_mem_block {lines : List (List Char)} {line : List Char}
    (member : line ∈ block lines) : line ∈ lines := by
  have body : forall other, other ∈ lines.takeWhile (fun line => (header? line).isNone) ->
      other ∈ lines := fun _ inside => (List.takeWhile_prefix _).subset inside
  rcases List.mem_append.mp member with early | last
  · exact body line ((List.takeWhile_prefix _).subset early)
  · exact body line ((List.dropWhile_suffix _).subset (List.mem_of_mem_take last))

/-- A declared table is that of a header among the lines, with some of the
lines as its block. -/
theorem exists_of_mem_declared {lines : List (List Char)} {table : Table}
    (member : table ∈ declared lines) :
    Exists fun line => Exists fun header => Exists fun body =>
      line ∈ lines ∧ header? line = some header ∧ (forall other, other ∈ body -> other ∈ lines) ∧
        declaredTable header body = table := by
  rcases List.mem_filterMap.mp member with ⟨tail, suffix, here⟩
  have inside := ((List.mem_tails tail lines).mp suffix).subset
  cases tail with
  | nil => cases here
  | cons line others =>
      rcases Option.map_eq_some_iff.mp here with ⟨header, read, same⟩
      refine ⟨line, header, block others, inside List.mem_cons_self, read, ?_, same⟩
      intro other listed
      exact inside (List.mem_cons_of_mem _ (mem_of_mem_block listed))

/-- No name in a dump has a line feed. -/
theorem oneLineNames_of_mem_analyze {text : String} {table : Table}
    (member : table ∈ (analyze text).toList) : OneLineNames table := by
  rw [toList_analyze] at member
  rcases exists_of_mem_declared (Schema.mem_of_mem_latest member) with
    ⟨line, header, body, listed, read, inside, same⟩
  rw [← same]
  exact oneLineNames_declaredTable read (not_mem_of_mem_lines listed)
    fun other here => not_mem_of_mem_lines (inside other here)

end Dump
end Recase
