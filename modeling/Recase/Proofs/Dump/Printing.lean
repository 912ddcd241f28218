import Recase.Proofs.Dump.Names

namespace Recase
namespace Dump

/-!
# Tables that are printed and read again

A table can be printed in the usual form of a dump: the header, a line for
every column and every constraint, and the terminator.  Between the tables
there may be blank lines.  Whatever is printed in this form is read as it is
meant, with names that may be quoted and may then have blanks, dots,
parentheses or keywords in them.

The proof follows the printed form.  Every printed line is read by itself,
the lines behind a header make up its block, and the tables follow one
another.
-/

/-! ## The printed form -/

/-- A name as it is printed: a word, or a text between double quotes. -/
inductive WrittenName where
  | bare (word : List Char) (nonempty : word ≠ [])
      (words : forall char, char ∈ word -> Text.isWord char = true)
  | quoted (inner : List Char) (nonempty : inner ≠ []) (closed : '"' ∉ inner)
      (whole : '\n' ∉ inner)

namespace WrittenName

def chars : WrittenName -> List Char
  | bare word _ _ => word
  | quoted inner _ _ _ => '"' :: inner ++ ['"']

/-- The name without its quotes. -/
def plain : WrittenName -> String
  | bare word _ _ => String.ofList word
  | quoted inner _ _ _ => String.ofList inner

end WrittenName

/-- The line that declares a column of some kind. -/
def columnLine (name : WrittenName) (kind : List Char) : List Char :=
  List.replicate 4 ' ' ++ (name.chars ++ ' ' :: kind ++ [','])

/-- What stands in the body of a table.  A column must not look like a
constraint or like a check, and nothing may look like a header. -/
inductive Item where
  | column (name : WrittenName) (kind : List Char) (whole : '\n' ∉ kind)
      (unconstrained : isConstraint (columnLine name kind) = false)
      (unchecked : isCheck (columnLine name kind) = false)
      (inside : header? (Text.trim (columnLine name kind)) = none)
  | constraint (line : List Char) (whole : '\n' ∉ line) (constrains : isConstraint line = true)
      (inside : header? (Text.trim line) = none)

namespace Item

def line : Item -> List Char
  | column name kind _ _ _ _ => columnLine name kind
  | constraint line _ _ _ => line

/-- The column that is declared, with the quotes of its name. -/
def column? : Item -> Option String
  | column name _ _ _ _ _ => some (String.ofList name.chars)
  | constraint _ _ _ _ => none

def constraint? : Item -> Option String
  | column _ _ _ _ _ _ => none
  | constraint line _ _ _ => some (String.ofList (Text.trim line))

end Item

/-- A table that can be printed, and the blank lines behind it. -/
structure Declaration where
  guarded : Bool := false
  schema : Option WrittenName := none
  name : WrittenName
  items : List Item := []
  gap : List (List Char) := []
  blank : forall line, line ∈ gap -> forall char, char ∈ line ->
    Text.isBlank char = true ∧ char ≠ '\n'

namespace Declaration

variable (declaration : Declaration)

def guard : List Char :=
  if declaration.guarded then "IF NOT EXISTS".toList ++ [' '] else []

/-- The name of the table behind that of its schema. -/
def qualified : List Char :=
  (declaration.schema.elim [] fun schema => schema.chars ++ ['.']) ++ declaration.name.chars

def head : List Char :=
  "CREATE TABLE".toList ++ ' ' :: (declaration.guard ++ (declaration.qualified ++ [' ', '(']))

/-- The lines that are printed for a table. -/
def lines : List (List Char) :=
  declaration.head :: (declaration.items.map Item.line ++ terminator :: declaration.gap)

def table : Table where
  name := declaration.name.plain
  schema := declaration.schema.map WrittenName.plain
  columns := (declaration.items.filterMap Item.column?).toArray
  constraints := (declaration.items.filterMap Item.constraint?).toArray

end Declaration

/-- Tables printed one after another. -/
def printed (declarations : List Declaration) : String :=
  String.ofList (['\n'].intercalate (declarations.flatMap Declaration.lines))

/-! ## Printed names -/

namespace WrittenName

theorem spelled (name : WrittenName) : Spelled name.chars := by
  cases name with
  | bare word nonempty words => exact .bare nonempty words
  | quoted inner nonempty closed whole => exact .quoted nonempty closed

theorem whole (name : WrittenName) : '\n' ∉ name.chars := by
  cases name with
  | bare word nonempty words =>
      intro member
      have refused : Text.isWord '\n' = false := by decide
      rw [words '\n' member] at refused
      cases refused
  | quoted inner nonempty closed whole =>
      intro member
      rw [chars, List.cons_append, List.mem_cons, List.mem_append, List.mem_singleton] at member
      rcases member with opening | inside | closing
      · cases opening
      · exact whole inside
      · cases closing

theorem unquote_chars (name : WrittenName) :
    Identifier.unquote (String.ofList name.chars) = name.plain := by
  cases name with
  | bare word nonempty words =>
      apply Identifier.unquote_of_not_mem
      rw [String.toList_ofList]
      intro member
      have word := words '"' member
      rw [isWord_quote] at word
      cases word
  | quoted inner nonempty closed whole => exact Identifier.unquote_quoted inner

/-- A name begins with a visible character. -/
theorem exists_cons (name : WrittenName) :
    Exists fun first => Exists fun rest =>
      name.chars = first :: rest ∧ Text.isBlank first = false := by
  cases name with
  | bare word nonempty words =>
      cases word with
      | nil => exact absurd rfl nonempty
      | cons first rest =>
          exact ⟨first, rest, rfl, Text.isBlank_of_isWord (words first List.mem_cons_self)⟩
  | quoted inner nonempty closed whole => exact ⟨'"', inner ++ ['"'], rfl, by decide⟩

end WrittenName

/-! ## Printed headers -/

theorem afterKeyword?_append (keyword rest : List Char) :
    afterKeyword? keyword (keyword ++ ' ' :: rest) = some (Text.trimLeft rest) := by
  have begins : keyword.isPrefixOf (keyword ++ ' ' :: rest) = true :=
    List.isPrefixOf_iff_prefix.mpr (List.prefix_append _ _)
  have blank : Text.isBlank ' ' = true := by decide
  rw [afterKeyword?, if_pos begins, List.drop_left]
  exact if_pos blank

/-- A name in front of a dot, as that of a schema is, is read up to it. -/
theorem leadingName?_before_dot (name : WrittenName) (rest : List Char) :
    leadingName? (name.chars ++ '.' :: rest) = some (name.chars, '.' :: rest) := by
  apply leadingName?_append name.spelled
  rfl

/-- A name in front of the body of its table is read up to the blank. -/
theorem leadingName?_before_body (name : WrittenName) :
    leadingName? (name.chars ++ [' ', '(']) = some (name.chars, [' ', '(']) := by
  apply leadingName?_append name.spelled
  rfl

namespace Declaration

variable (declaration : Declaration)

def header : Header where
  schema := declaration.schema.map WrittenName.chars
  name := declaration.name.chars

theorem exists_cons_qualified :
    Exists fun first => Exists fun rest =>
      declaration.qualified = first :: rest ∧ Text.isBlank first = false := by
  unfold qualified
  cases declaration.schema with
  | none => exact declaration.name.exists_cons
  | some schema =>
      rcases schema.exists_cons with ⟨first, rest, begins, visible⟩
      exact ⟨first, _, by rw [Option.elim_some, begins]; rfl, visible⟩

theorem trimLeft_qualified (rest : List Char) :
    Text.trimLeft (declaration.qualified ++ rest) = declaration.qualified ++ rest := by
  rcases declaration.exists_cons_qualified with ⟨first, others, begins, visible⟩
  rw [begins]
  exact Text.trimLeft_cons visible (others ++ rest)

theorem qualifiedName?_qualified :
    qualifiedName? (declaration.qualified ++ [' ', '(']) = some declaration.header := by
  have named := leadingName?_before_body declaration.name
  unfold qualified header
  cases declaration.schema with
  | none =>
      rw [Option.elim_none, List.nil_append, qualifiedName?, named]
      rfl
  | some schema =>
      rw [Option.elim_some, List.append_assoc, List.append_assoc, List.singleton_append,
        qualifiedName?, leadingName?_before_dot]
      simp only [named]
      rfl

/-- The names are not mistaken for the words of the guard, since behind the
first name there is not a blank and another word. -/
theorem afterKeyword?_qualified :
    afterKeyword? "IF NOT EXISTS".toList (declaration.qualified ++ [' ', '(']) = none := by
  have read : Exists fun first => Exists fun rest =>
      leadingName? (declaration.qualified ++ [' ', '(']) = some (first, rest) ∧
        rest.take 2 ≠ [' ', 'N'] := by
    unfold qualified
    cases declaration.schema with
    | none => exact ⟨_, _, leadingName?_before_body declaration.name, by decide⟩
    | some schema =>
        refine ⟨schema.chars, '.' :: (declaration.name.chars ++ [' ', '(']), ?_, ?_⟩
        · rw [Option.elim_some, List.append_assoc, List.append_assoc, List.singleton_append,
            leadingName?_before_dot]
        · intro same
          cases same
  rcases read with ⟨first, rest, named, other⟩
  apply if_neg
  intro begins
  rcases List.isPrefixOf_iff_prefix.mp begins with ⟨behind, split⟩
  have words : "IF NOT EXISTS".toList =
      ['I', 'F'] ++ [' ', 'N', 'O', 'T', ' ', 'E', 'X', 'I', 'S', 'T', 'S'] := String.toList_ofList
  have guarding : leadingName?
      (['I', 'F'] ++ ([' ', 'N', 'O', 'T', ' ', 'E', 'X', 'I', 'S', 'T', 'S'] ++ behind)) =
        some (['I', 'F'], [' ', 'N', 'O', 'T', ' ', 'E', 'X', 'I', 'S', 'T', 'S'] ++ behind) :=
    leadingName?_append (.bare (by decide) (List.all_eq_true.mp (by decide))) rfl
  rw [← List.append_assoc, ← words, split, named] at guarding
  cases guarding
  exact other rfl

theorem declaredName?_guarded :
    declaredName? (declaration.guard ++ (declaration.qualified ++ [' ', '('])) =
      some declaration.header := by
  unfold guard declaredName?
  cases declaration.guarded with
  | true =>
      have guarding := afterKeyword?_append "IF NOT EXISTS".toList
        (declaration.qualified ++ [' ', '('])
      rw [trimLeft_qualified] at guarding
      rw [if_pos rfl, List.append_assoc, List.singleton_append, guarding, Option.bind_some,
        qualifiedName?_qualified, Option.some_or]
  | false =>
      rw [if_neg Bool.false_ne_true, List.nil_append, afterKeyword?_qualified, Option.bind_none,
        Option.none_or, qualifiedName?_qualified]

theorem trimLeft_guarded :
    Text.trimLeft (declaration.guard ++ (declaration.qualified ++ [' ', '('])) =
      declaration.guard ++ (declaration.qualified ++ [' ', '(']) := by
  unfold guard
  cases declaration.guarded with
  | true =>
      have words : "IF NOT EXISTS".toList =
          'I' :: ['F', ' ', 'N', 'O', 'T', ' ', 'E', 'X', 'I', 'S', 'T', 'S'] :=
        String.toList_ofList
      rw [if_pos rfl, words]
      exact Text.trimLeft_cons (by decide) _
  | false =>
      rw [if_neg Bool.false_ne_true, List.nil_append]
      exact declaration.trimLeft_qualified _

theorem header?_head : header? declaration.head = some declaration.header := by
  unfold head
  rw [header?, afterKeyword?_append, trimLeft_guarded, Option.bind_some, declaredName?_guarded]

theorem trim_head : Text.trim declaration.head = declaration.head := by
  have begins : declaration.head = 'C' :: (['R', 'E', 'A', 'T', 'E', ' ', 'T', 'A', 'B', 'L', 'E'] ++
      ' ' :: (declaration.guard ++ (declaration.qualified ++ [' ', '(']))) := by
    have words : "CREATE TABLE".toList =
        'C' :: ['R', 'E', 'A', 'T', 'E', ' ', 'T', 'A', 'B', 'L', 'E'] := String.toList_ofList
    unfold head
    rw [words, List.cons_append]
  have ends : declaration.head = ("CREATE TABLE".toList ++
      ' ' :: (declaration.guard ++ (declaration.qualified ++ [' ']))) ++ ['('] := by
    unfold head
    simp only [List.append_assoc, List.cons_append, List.nil_append]
  exact Text.trim_of_visible_ends (List.forall_mem_nil _) begins ends (by decide) (by decide)

end Declaration

/-! ## Printed items -/

/-- Without its blanks the line of a column begins with the name. -/
theorem trim_columnLine (name : WrittenName) (kind : List Char) :
    Text.trim (columnLine name kind) = name.chars ++ ' ' :: kind ++ [','] := by
  rcases name.exists_cons with ⟨first, rest, begins, visible⟩
  have margin : forall char, char ∈ List.replicate 4 ' ' -> Text.isBlank char = true :=
    List.all_eq_true.mp (by decide)
  have starts : name.chars ++ ' ' :: kind ++ [','] = first :: (rest ++ ' ' :: kind ++ [',']) := by
    rw [begins]
    rfl
  exact Text.trim_of_visible_ends margin starts rfl visible (by decide)

theorem column?_columnLine (name : WrittenName) (kind : List Char) :
    column? (Text.trim (columnLine name kind)) = some name.chars := by
  have named : leadingName? (name.chars ++ ' ' :: (kind ++ [','])) =
      some (name.chars, ' ' :: (kind ++ [','])) :=
    leadingName?_append name.spelled rfl
  have blank : Text.isBlank ' ' = true := by decide
  rw [trim_columnLine, List.append_assoc, List.cons_append, column?, named]
  exact if_pos blank

theorem isConstraint_trim (line : List Char) : isConstraint (Text.trim line) = isConstraint line :=
  Text.occursIn_trim (by decide) line

theorem isCheck_trim (line : List Char) : isCheck (Text.trim line) = isCheck line :=
  Text.occursIn_trim (by decide) line

namespace Item

variable (item : Item)

theorem whole : '\n' ∉ item.line := by
  cases item with
  | column name kind whole unconstrained unchecked inside =>
      have margin : '\n' ∉ List.replicate 4 ' ' := by decide
      simp only [line, columnLine, List.mem_append, List.mem_cons, List.not_mem_nil, or_false,
        not_or]
      exact ⟨margin, ⟨name.whole, by decide, whole⟩, by decide⟩
  | constraint line whole constrains inside => exact whole

theorem header?_trim : header? (Text.trim item.line) = none := by
  cases item with
  | column name kind whole unconstrained unchecked inside => exact inside
  | constraint line whole constrains inside => exact inside

theorem trim_ne_terminator : Text.trim item.line ≠ terminator := by
  intro same
  cases item with
  | column name kind whole unconstrained unchecked inside =>
      have declares := column?_columnLine name kind
      have none : Dump.column? terminator = none := by decide
      rw [line] at same
      rw [same, none] at declares
      cases declares
  | constraint line whole constrains inside =>
      have other : isConstraint terminator = false := by decide
      have constrains := (isConstraint_trim line).trans constrains
      rw [Item.line] at same
      rw [same, other] at constrains
      cases constrains

theorem columnsOf_trim : columnsOf [Text.trim item.line] = item.column?.toList := by
  cases item with
  | column name kind whole unconstrained unchecked inside =>
      simp only [columnsOf, line, column?, List.filter_cons, List.filter_nil, isConstraint_trim,
        isCheck_trim, unconstrained, unchecked, Bool.not_false, Bool.and_self, if_true,
        List.filterMap_cons, column?_columnLine, List.filterMap_nil, List.map_cons, List.map_nil,
        Option.toList_some]
  | constraint line whole constrains inside =>
      simp only [columnsOf, Item.line, column?, List.filter_cons, List.filter_nil,
        isConstraint_trim, constrains, Bool.not_true, Bool.false_and, Bool.false_eq_true, if_false,
        List.filterMap_nil, List.map_nil, Option.toList_none]

theorem constraintsOf_trim : constraintsOf [Text.trim item.line] = item.constraint?.toList := by
  cases item with
  | column name kind whole unconstrained unchecked inside =>
      simp only [constraintsOf, line, constraint?, List.filter_cons, List.filter_nil,
        isConstraint_trim, unconstrained, Bool.false_eq_true, if_false, List.map_nil,
        Option.toList_none]
  | constraint line whole constrains inside =>
      simp only [constraintsOf, Item.line, constraint?, List.filter_cons, List.filter_nil,
        isConstraint_trim, constrains, if_true, List.map_cons, List.map_nil, Option.toList_some]

end Item

/-! ## Printed tables -/

def itemLines (items : List Item) : List (List Char) :=
  items.map fun item => Text.trim item.line

/-- The block of a printed table consists of its items and the terminator. -/
theorem block_itemLines (items : List Item) (rest : List (List Char)) :
    block (itemLines items ++ terminator :: rest) = itemLines items ++ [terminator] := by
  induction items with
  | nil => exact block_of_terminator rest
  | cons item items inductionHypothesis =>
      rw [itemLines, List.map_cons, List.cons_append, List.cons_append,
        block_of_body item.header?_trim item.trim_ne_terminator]
      exact congrArg _ inductionHypothesis

/-- What is collected from a block line by line is what is picked from its
items one by one. -/
theorem collect_itemLines {collect : List (List Char) -> List String}
    {pick : Item -> Option String}
    (additive : forall first second, collect (first ++ second) = collect first ++ collect second)
    (picked : forall item : Item, collect [Text.trim item.line] = (pick item).toList)
    (terminated : collect [terminator] = []) (items : List Item) :
    collect (itemLines items ++ [terminator]) = items.filterMap pick := by
  induction items with
  | nil => exact terminated
  | cons item items inductionHypothesis =>
      have split : itemLines (item :: items) ++ [terminator] =
          [Text.trim item.line] ++ (itemLines items ++ [terminator]) := rfl
      rw [split, additive, inductionHypothesis, picked]
      cases found : pick item with
      | none => rw [List.filterMap_cons_none found, Option.toList_none, List.nil_append]
      | some text => rw [List.filterMap_cons_some found, Option.toList_some, List.singleton_append]

/-- Lines without a header among them declare nothing. -/
theorem declared_append_of_others {lines : List (List Char)}
    (others : forall line, line ∈ lines -> header? line = none) (rest : List (List Char)) :
    declared (lines ++ rest) = declared rest := by
  induction lines with
  | nil => rfl
  | cons line lines inductionHypothesis =>
      rw [List.cons_append, declared_of_other (others line List.mem_cons_self)]
      exact inductionHypothesis fun other member => others other (List.mem_cons_of_mem _ member)

namespace Declaration

variable (declaration : Declaration)

theorem declaredTable_header :
    declaredTable declaration.header (itemLines declaration.items ++ [terminator]) =
      declaration.table := by
  have schema : declaration.header.schema.map
      (fun schema => Identifier.unquote (String.ofList schema)) =
        declaration.schema.map WrittenName.plain := by
    rw [header, Option.map_map]
    apply Option.map_congr
    intro name _
    exact name.unquote_chars
  have columns : columnsOf (itemLines declaration.items ++ [terminator]) =
      declaration.items.filterMap Item.column? :=
    collect_itemLines columnsOf_append Item.columnsOf_trim (by decide) declaration.items
  have constraints : constraintsOf (itemLines declaration.items ++ [terminator]) =
      declaration.items.filterMap Item.constraint? :=
    collect_itemLines constraintsOf_append Item.constraintsOf_trim (by decide) declaration.items
  rw [declaredTable, schema, columns, constraints, header, declaration.name.unquote_chars]
  rfl

/-- A printed table is read as it is meant, whatever follows it. -/
theorem declared_lines (rest : List (List Char)) :
    declared (declaration.lines.map Text.trim ++ rest) = declaration.table :: declared rest := by
  have terminated : Text.trim terminator = terminator := by decide
  have read : declaration.lines.map Text.trim ++ rest = declaration.head ::
      (itemLines declaration.items ++ terminator :: (declaration.gap.map Text.trim ++ rest)) := by
    rw [lines, List.map_cons, List.map_append, List.map_cons, trim_head, terminated, List.map_map,
      List.cons_append, List.append_assoc]
    rfl
  have others : forall line,
      line ∈ itemLines declaration.items ++ terminator :: declaration.gap.map Text.trim ->
        header? line = none := by
    intro line member
    rcases List.mem_append.mp member with item | behind
    · rcases List.mem_map.mp item with ⟨item, _, same⟩
      rw [← same]
      exact item.header?_trim
    · rcases List.mem_cons.mp behind with last | blank
      · rw [last]
        exact header?_terminator
      · rcases List.mem_map.mp blank with ⟨line, listed, same⟩
        rw [← same, Text.trim_of_blank fun char inside =>
          (declaration.blank line listed char inside).1]
        rfl
  rw [read, declared_of_header declaration.header?_head, block_itemLines, declaredTable_header,
    ← List.cons_append, ← List.append_assoc, declared_append_of_others others]

theorem whole_head : '\n' ∉ declaration.head := by
  have words : OneLine "CREATE TABLE" := oneLine_ofList (by decide)
  have guard : '\n' ∉ declaration.guard := by
    have words : OneLine "IF NOT EXISTS" := oneLine_ofList (by decide)
    unfold guard
    cases declaration.guarded with
    | true =>
        rw [if_pos rfl, List.mem_append, not_or]
        exact ⟨words, by decide⟩
    | false => exact List.not_mem_nil
  have qualified : '\n' ∉ declaration.qualified := by
    unfold qualified
    cases declaration.schema with
    | none => exact declaration.name.whole
    | some schema =>
        rw [Option.elim_some, List.mem_append, List.mem_append, not_or, not_or]
        exact ⟨⟨schema.whole, by decide⟩, declaration.name.whole⟩
  unfold head
  rw [List.mem_append, List.mem_cons, List.mem_append, List.mem_append, not_or, not_or, not_or,
    not_or]
  exact ⟨words, by decide, guard, qualified, by decide⟩

theorem whole_of_mem_lines {line : List Char} (member : line ∈ declaration.lines) :
    '\n' ∉ line := by
  rcases List.mem_cons.mp member with head | behind
  · rw [head]
    exact declaration.whole_head
  · rcases List.mem_append.mp behind with item | closing
    · rcases List.mem_map.mp item with ⟨item, _, same⟩
      rw [← same]
      exact item.whole
    · rcases List.mem_cons.mp closing with last | gap
      · rw [last]
        decide
      · intro inside
        exact (declaration.blank line gap _ inside).2 rfl

end Declaration

/-- Printed tables are declared one after another. -/
theorem declared_printed (declarations : List Declaration) :
    declared (Text.lines (printed declarations)) = declarations.map Declaration.table := by
  have declares : declared ((declarations.flatMap Declaration.lines).map Text.trim) =
      declarations.map Declaration.table := by
    induction declarations with
    | nil => rfl
    | cons declaration declarations inductionHypothesis =>
        rw [List.flatMap_cons, List.map_append, declaration.declared_lines, inductionHypothesis,
          List.map_cons]
  cases declarations with
  | nil =>
      rw [printed, Text.lines, String.toList_ofList]
      rfl
  | cons declaration declarations =>
      have nonempty : (declaration :: declarations).flatMap Declaration.lines ≠ [] := by
        rw [List.flatMap_cons]
        exact List.append_ne_nil_of_left_ne_nil (List.cons_ne_nil _ _) _
      have whole : forall line, line ∈ (declaration :: declarations).flatMap Declaration.lines ->
          '\n' ∉ line := by
        intro line member
        rcases List.mem_flatMap.mp member with ⟨other, _, here⟩
        exact other.whole_of_mem_lines here
      rw [printed, Text.lines_intercalate nonempty whole, declares]

/-- Tables of different names that are printed and read again are the same
tables in the same order. -/
theorem analyze_printed {declarations : List Declaration}
    (distinct : (declarations.map fun declaration => declaration.name.plain).Nodup) :
    (analyze (printed declarations)).toList = declarations.map Declaration.table := by
  have names : ((declarations.map Declaration.table).map Table.name).Nodup := by
    rw [List.map_map]
    exact distinct
  rw [toList_analyze, declared_printed, Schema.latest_eq_self names]

/-- A name with a dot and a parenthesis in it, in a schema that is named like
a header, and below a blank line a table without items. -/
theorem analyze_printed_rooms :
    (["Room (no.)", "été"] : List String).Nodup ∧
      (analyze ("CREATE TABLE IF NOT EXISTS \"CREATE TABLE x\".\"Room (no.)\" (\n" ++
        "    bed_size INTEGER DEFAULT 2,\n\tCONSTRAINT one CHECK (bed_size > 0)\n" ++
        "    \"Key Card\" TEXT,\n);\n \nCREATE TABLE été (\n);")).toList =
        [{ name := "Room (no.)"
           schema := some "CREATE TABLE x"
           columns := #["bed_size", "\"Key Card\""]
           constraints := #["CONSTRAINT one CHECK (bed_size > 0)"] },
         { name := "été", schema := none }] := by
  let rooms : Declaration :=
    { guarded := true
      schema := some (.quoted "CREATE TABLE x".toList (by decide) (by decide) (by decide))
      name := .quoted "Room (no.)".toList (by decide) (by decide) (by decide)
      items :=
        [.column (.bare "bed_size".toList (by decide) (List.all_eq_true.mp (by decide)))
          "INTEGER DEFAULT 2".toList (by decide) (by decide) (by decide) (by decide),
         .constraint "\tCONSTRAINT one CHECK (bed_size > 0)".toList (by decide) (by decide)
          (by decide),
         .column (.quoted "Key Card".toList (by decide) (by decide) (by decide)) "TEXT".toList
          (by decide) (by decide) (by decide) (by decide)]
      gap := [[' ']]
      blank := by
        intro line listed char inside
        rw [List.mem_singleton.mp listed] at inside
        rw [List.mem_singleton.mp inside]
        decide }
  let summer : Declaration :=
    { name := .bare "été".toList (by decide) (List.all_eq_true.mp (by decide))
      blank := List.forall_mem_nil _ }
  have text : printed [rooms, summer] =
      "CREATE TABLE IF NOT EXISTS \"CREATE TABLE x\".\"Room (no.)\" (\n" ++
        "    bed_size INTEGER DEFAULT 2,\n\tCONSTRAINT one CHECK (bed_size > 0)\n" ++
        "    \"Key Card\" TEXT,\n);\n \nCREATE TABLE été (\n);" := by
    decide +kernel
  have distinct : (["Room (no.)", "été"] : List String).Nodup := by decide
  have read : (analyze (printed [rooms, summer])).toList = [rooms.table, summer.table] :=
    analyze_printed (by decide +kernel)
  rw [text] at read
  refine ⟨distinct, ?_⟩
  rw [read]
  decide +kernel

end Dump
end Recase
