import Recase.Proofs.Dump.Patterns

namespace Recase
namespace Dump

/-!
# The grammar of headers and columns

What counts as a header and as a column can be said without a reader.  A text
leads with a name if it begins with word characters, and then all of them are
the name, or with a quoted name.  The names of a table are those around a dot
if there are two, and otherwise the one that the text leads with, whatever
follows it.  A keyword is followed by all that stands behind its blanks.

The readers find a header or a column exactly where the grammar has one, and
they are as good as the patterns in this.  In particular a name that is missing
behind `IF NOT EXISTS` does not make a line less of a header: the names are
then looked for where these words stand.
-/

/-- Whether a text begins with a name, and with what behind it.  A word ends
where its characters end. -/
inductive Leads : List Char -> List Char -> List Char -> Prop where
  | word {name rest : List Char} (nonempty : name ≠ [])
      (words : forall char, char ∈ name -> Text.isWord char = true)
      (ends : endsWord rest = true) : Leads (name ++ rest) name rest
  | quoted {inner rest : List Char} (nonempty : inner ≠ []) (closed : '"' ∉ inner) :
      Leads ('"' :: inner ++ '"' :: rest) ('"' :: inner ++ ['"']) rest

/-- The names of a table at the beginning of a text.  A name is that of a
schema if a dot and a second name follow. -/
inductive Names : List Char -> Header -> Prop where
  | qualified {text schema behind name rest : List Char}
      (first : Leads text schema ('.' :: behind)) (second : Leads behind name rest) :
      Names text ⟨some schema, name⟩
  | alone {text name rest : List Char} (first : Leads text name rest)
      (unqualified : forall behind other further,
        rest = '.' :: behind -> ¬ Leads behind other further) :
      Names text ⟨none, name⟩

/-- Whether a text begins with a keyword and one or more blanks, and with what
behind all of them. -/
def Follows (keyword text rest : List Char) : Prop :=
  Exists fun blanks => blanks ≠ [] ∧ (forall char, char ∈ blanks -> Text.isBlank char = true) ∧
    text = keyword ++ blanks ++ rest ∧ rest.head?.any Text.isBlank = false

def Guarded (text : List Char) (header : Header) : Prop :=
  Exists fun rest => Follows "IF NOT EXISTS".toList text rest ∧ Names rest header

/-- The names behind `CREATE TABLE`: those behind `IF NOT EXISTS` if there are
any, and otherwise those that the text itself leads with. -/
def Declares (text : List Char) (header : Header) : Prop :=
  Guarded text header ∨ Names text header ∧ forall other, ¬ Guarded text other

/-! ## What the readers find -/

theorem endsWord_dropWhile (text : List Char) : endsWord (text.dropWhile Text.isWord) = true := by
  have stopped := List.head?_dropWhile_not Text.isWord text
  cases left : text.dropWhile Text.isWord with
  | nil => rfl
  | cons next others =>
      rw [left] at stopped
      rw [endsWord, Bool.not_eq_true']
      exact stopped

/-- A name is read exactly where a text leads with one. -/
theorem leadingName?_eq_some_iff {text name rest : List Char} :
    leadingName? text = some (name, rest) ↔ Leads text name rest := by
  constructor
  · intro read
    rcases spelled_of_leadingName? read with ⟨spelled, split⟩
    cases spelled with
    | bare nonempty words =>
        cases name with
        | nil => exact absurd rfl nonempty
        | cons first others =>
            have begins := words first List.mem_cons_self
            have unquoted : first ≠ '"' := by
              intro same
              rw [same, isWord_quote] at begins
              cases begins
            rw [split, List.cons_append, leadingName?, if_neg unquoted, if_pos begins] at read
            have left : (others ++ rest).dropWhile Text.isWord = rest :=
              congrArg Prod.snd (Option.some.inj read)
            rw [split]
            refine .word nonempty words ?_
            rw [← left]
            exact endsWord_dropWhile _
    | quoted nonempty closed =>
        rw [split, List.append_assoc]
        exact .quoted nonempty closed
  · intro leads
    cases leads with
    | word nonempty words ends => exact leadingName?_append (.bare nonempty words) ends
    | quoted nonempty closed =>
        rw [List.cons_append, leadingName?, if_pos rfl]
        exact quotedName?_append nonempty closed rest

/-- The names of a table are read exactly where a text begins with them. -/
theorem qualifiedName?_eq_some_iff {text : List Char} {header : Header} :
    qualifiedName? text = some header ↔ Names text header := by
  constructor
  · intro read
    unfold qualifiedName? at read
    cases leading : leadingName? text with
    | none =>
        rw [leading] at read
        cases read
    | some found =>
        rcases found with ⟨first, rest⟩
        have leads := leadingName?_eq_some_iff.mp leading
        rw [leading] at read
        simp only at read
        split at read
        · rename_i behind
          cases next : leadingName? behind with
          | none =>
              rw [next] at read
              cases read
              refine .alone leads ?_
              intro other name further same second
              rw [(List.cons.inj same).2, leadingName?_eq_some_iff.mpr second] at next
              cases next
          | some second =>
              rw [next] at read
              cases read
              exact .qualified leads (leadingName?_eq_some_iff.mp next)
        · rename_i undotted
          cases read
          exact .alone leads fun behind _ _ same _ => undotted behind same
  · intro names
    cases names with
    | qualified first second =>
        simp only [qualifiedName?, leadingName?_eq_some_iff.mpr first,
          leadingName?_eq_some_iff.mpr second]
    | alone first unqualified =>
        simp only [qualifiedName?, leadingName?_eq_some_iff.mpr first]
        split
        · rename_i behind
          cases next : leadingName? behind with
          | none => rfl
          | some second =>
              exact absurd (leadingName?_eq_some_iff.mp next) (unqualified behind _ _ rfl)
        · rfl

/-- A keyword is read exactly where a text begins with it and a blank. -/
theorem afterKeyword?_eq_some_iff {keyword text rest : List Char} :
    afterKeyword? keyword text = some rest ↔ Follows keyword text rest := by
  constructor
  · intro read
    unfold afterKeyword? at read
    split at read
    · rename_i begins
      rcases List.isPrefixOf_iff_prefix.mp begins with ⟨behind, split⟩
      rw [← split, List.drop_left] at read
      cases behind with
      | nil => cases read
      | cons blank others =>
          simp only at read
          split at read
          · rename_i separated
            cases read
            refine ⟨blank :: others.takeWhile Text.isBlank, List.cons_ne_nil _ _, ?_, ?_, ?_⟩
            · intro char member
              rcases List.mem_cons.mp member with here | later
              · rw [here]
                exact separated
              · exact List.mem_takeWhile_imp later
            · rw [← split, List.append_assoc, List.cons_append, Text.trimLeft,
                List.takeWhile_append_dropWhile]
            · cases left : Text.trimLeft others with
              | nil => rfl
              | cons first further => exact Text.visible_of_trimLeft left
          · cases read
    · cases read
  · rintro ⟨blanks, nonempty, blank, split, visible⟩
    cases blanks with
    | nil => exact absurd rfl nonempty
    | cons first others =>
        have begins : keyword.isPrefixOf text = true := by
          rw [List.isPrefixOf_iff_prefix, split, List.append_assoc]
          exact List.prefix_append _ _
        have trimmed : Text.trimLeft (others ++ rest) = rest := by
          rw [Text.trimLeft_append_of_blank fun char member =>
            blank char (List.mem_cons_of_mem _ member)]
          cases rest with
          | nil => rfl
          | cons next further => exact Text.trimLeft_cons visible further
        rw [afterKeyword?, if_pos begins, split, List.append_assoc, List.drop_left]
        simp only [List.cons_append, blank first List.mem_cons_self, if_true, trimmed]

/-- What stands behind `IF NOT EXISTS` is read exactly if it has names. -/
theorem guardedName?_eq_some_iff {text : List Char} {header : Header} :
    (afterKeyword? "IF NOT EXISTS".toList text).bind qualifiedName? = some header ↔
      Guarded text header := by
  rw [Option.bind_eq_some_iff]
  exact exists_congr fun rest =>
    and_congr afterKeyword?_eq_some_iff qualifiedName?_eq_some_iff

theorem declaredName?_eq_some_iff {text : List Char} {header : Header} :
    declaredName? text = some header ↔ Declares text header := by
  rw [declaredName?, Option.or_eq_some_iff, guardedName?_eq_some_iff, qualifiedName?_eq_some_iff,
    Option.eq_none_iff_forall_ne_some]
  simp only [ne_eq, guardedName?_eq_some_iff]
  exact or_congr Iff.rfl and_comm

/-- Where names follow `IF NOT EXISTS`, the first of these words is a name
itself. -/
theorem names_of_follows_guard {text rest : List Char}
    (follows : Follows "IF NOT EXISTS".toList text rest) : Names text ⟨none, "IF".toList⟩ := by
  rcases follows with ⟨blanks, _, _, split, _⟩
  have words : text = "IF".toList ++ (" NOT EXISTS".toList ++ blanks ++ rest) := by
    rw [split]
    rfl
  rw [words]
  refine .alone (.word (by decide) (List.all_eq_true.mp (by decide)) rfl) ?_
  intro behind _ _ same
  cases same

theorem header?_eq_some_iff {line : List Char} {header : Header} :
    header? line = some header ↔
      Exists fun rest => Follows "CREATE TABLE".toList line rest ∧ Declares rest header := by
  rw [header?, Option.bind_eq_some_iff]
  exact exists_congr fun rest =>
    and_congr afterKeyword?_eq_some_iff declaredName?_eq_some_iff

/-- There are names to declare wherever a text begins with names. -/
theorem exists_declares_iff {text : List Char} :
    (Exists fun header => Declares text header) ↔ Exists fun header => Names text header := by
  constructor
  · rintro ⟨header, ⟨rest, follows, _⟩ | ⟨names, _⟩⟩
    · exact ⟨_, names_of_follows_guard follows⟩
    · exact ⟨header, names⟩
  · rintro ⟨header, names⟩
    by_cases guarded : Exists fun other => Guarded text other
    · rcases guarded with ⟨other, guarded⟩
      exact ⟨other, Or.inl guarded⟩
    · exact ⟨header, Or.inr ⟨names, fun other found => guarded ⟨other, found⟩⟩⟩

theorem column?_eq_some_iff {line name : List Char} :
    column? line = some name ↔
      Exists fun blank => Exists fun rest =>
        Leads line name (blank :: rest) ∧ Text.isBlank blank = true := by
  unfold column?
  constructor
  · intro read
    split at read
    · rename_i found blank rest leading
      split at read
      · rename_i separated
        cases read
        exact ⟨blank, rest, leadingName?_eq_some_iff.mp leading, separated⟩
      · cases read
    · cases read
  · rintro ⟨blank, rest, leads, separated⟩
    simp only [leadingName?_eq_some_iff.mpr leads, separated, if_true]

/-- The patterns of headers and columns capture in every line what is read in
it, and this is what the grammar says.  A line is a header if names stand
behind `CREATE TABLE`, and they are those behind `IF NOT EXISTS` if there are
any.  A line declares a column if it begins with a name and a blank. -/
theorem patterns_accept_grammar (line : List Char) :
    headerPattern.captures line = (header? line).map Header.captures ∧
      columnPattern.captures line = (column? line).map (fun name => [(1, name)]) ∧
      ((header? line).isSome = true ↔
        Exists fun rest => Exists fun header =>
          Follows "CREATE TABLE".toList line rest ∧ Names rest header) ∧
      (forall header, header? line = some header ↔
        Exists fun rest => Follows "CREATE TABLE".toList line rest ∧ Declares rest header) ∧
      forall name, column? line = some name ↔
        Exists fun blank => Exists fun rest =>
          Leads line name (blank :: rest) ∧ Text.isBlank blank = true := by
  refine ⟨captures_headerPattern line, captures_columnPattern line, ?_,
    fun header => header?_eq_some_iff, fun name => column?_eq_some_iff⟩
  rw [Option.isSome_iff_exists]
  simp only [header?_eq_some_iff]
  rw [exists_comm]
  refine exists_congr fun rest => ?_
  rw [exists_and_left, exists_and_left, exists_declares_iff]

end Dump
end Recase
