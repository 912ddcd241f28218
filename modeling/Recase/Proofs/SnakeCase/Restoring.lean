import Mathlib.Computability.Language
import Recase.Proofs.Schema.Latest
import Recase.Proofs.SnakeCase

namespace Recase

/-!
# Snake case restored from camel case

A name in snake case consists of words of small letters and digits, each of
which begins with a letter, and of single underscores between them.  Camel
case can be undone on these names: every capital is the first letter of a
word, since the name had no capitals before, and every underscore has left
such a capital behind.  Of the bare names that begin with a small letter they
are the only ones that come back.  If an underscore is doubled, stands at the
end or stands before a digit, it is lost, and a capital that was there from
the beginning is taken for the head of a word.
-/

open scoped Computability

/-! ## The language of snake case -/

def oneOf (kind : Char -> Bool) : Language Char :=
  {chars | Exists fun char => kind char = true ∧ chars = [char]}

def continuesWord (char : Char) : Bool :=
  char.isLower || char.isDigit

/-- The words of snake case, `[a-z][a-z0-9]*`. -/
def snakeWords : Language Char :=
  oneOf Char.isLower * (oneOf continuesWord)∗

/-- The names in snake case, `[a-z][a-z0-9]*(_[a-z][a-z0-9]*)*`. -/
def snakeNames : Language Char :=
  snakeWords * (oneOf (· == '_') * snakeWords)∗

def InSnakeCase (name : String) : Prop :=
  name.toList ∈ snakeNames

/-- A name with an underscore and the small letter in the place of each of its
capitals. -/
def snakeCase (name : String) : String :=
  String.ofList (snakeChars name.toList)

def beginsSmall (chars : List Char) : Bool :=
  chars.head?.any Char.isLower

theorem mem_kstar_oneOf_iff {kind : Char -> Bool} {chars : List Char} :
    chars ∈ (oneOf kind)∗ ↔ forall char, char ∈ chars -> kind char = true := by
  rw [Language.mem_kstar]
  constructor
  · rintro ⟨texts, rfl, single⟩ char member
    rcases List.mem_flatten.mp member with ⟨text, listed, inside⟩
    rcases single text listed with ⟨only, allowed, rfl⟩
    rw [List.mem_singleton.mp inside]
    exact allowed
  · intro allowed
    refine ⟨chars.map fun char => [char], ?_, ?_⟩
    · rw [← List.flatMap_def, List.flatMap_singleton']
    · intro text listed
      rcases List.mem_map.mp listed with ⟨char, member, rfl⟩
      exact ⟨char, allowed char member, rfl⟩

theorem mem_snakeWords_iff {word : List Char} :
    word ∈ snakeWords ↔
      beginsSmall word = true ∧ forall char, char ∈ word -> continuesWord char = true := by
  rw [snakeWords, Language.mem_mul]
  constructor
  · rintro ⟨_, ⟨head, small, rfl⟩, tail, allowed, rfl⟩
    refine ⟨small, fun char member => ?_⟩
    rcases List.mem_cons.mp member with first | later
    · rw [first, continuesWord, small, Bool.true_or]
    · exact mem_kstar_oneOf_iff.mp allowed char later
  · rintro ⟨small, allowed⟩
    cases word with
    | nil => cases small
    | cons head tail =>
        exact ⟨[head], ⟨head, small, rfl⟩, tail, mem_kstar_oneOf_iff.mpr fun char member =>
          allowed char (List.mem_cons_of_mem _ member), rfl⟩

/-! ## Snake case among the regular names -/

theorem isUpper_of_continuesWord {char : Char} (allowed : continuesWord char = true) :
    char.isUpper = false := by
  rcases Bool.or_eq_true_iff.mp allowed with small | digit
  · exact isUpper_of_isLower small
  · have range : 48 ≤ char.toNat ∧ char.toNat ≤ 57 := Char.isDigit_iff_toNat.mp digit
    apply Bool.eq_false_iff.mpr
    intro capital
    have other := isUpper_iff.mp capital
    omega

theorem ne_underscore_of_continuesWord {char : Char} (allowed : continuesWord char = true) :
    char ≠ '_' := by
  rintro rfl
  cases allowed

/-- A word in front of a text makes no difference to whether it is regular. -/
theorem regularChars_append {word : List Char}
    (allowed : forall char, char ∈ word -> continuesWord char = true) (rest : List Char) :
    regularChars (word ++ rest) = regularChars rest := by
  induction word with
  | nil => rfl
  | cons char word inductionHypothesis =>
      have here := allowed char List.mem_cons_self
      rw [List.cons_append, regularChars, isUpper_of_continuesWord here,
        inductionHypothesis fun other member => allowed other (List.mem_cons_of_mem _ member),
        bne_iff_ne.mpr (ne_underscore_of_continuesWord here)]
      rfl

/-- An underscore in front of a text asks for a small letter behind it. -/
theorem regularChars_underscore_cons (chars : List Char) :
    regularChars ('_' :: chars) = (beginsSmall chars && regularChars chars) := by
  rw [regularChars, beginsSmall]
  rfl

theorem beginsSmall_append {word : List Char} (small : beginsSmall word = true)
    (rest : List Char) : beginsSmall (word ++ rest) = true := by
  cases word with
  | nil => cases small
  | cons head tail => exact small

/-- Words behind underscores are regular, and they are made of the characters
of words and of underscores. -/
theorem regularChars_of_mem_kstar {chars : List Char}
    (member : chars ∈ (oneOf (· == '_') * snakeWords)∗) :
    regularChars chars = true ∧
      forall char, char ∈ chars -> continuesWord char = true ∨ char = '_' := by
  rcases Language.mem_kstar.mp member with ⟨texts, rfl, each⟩
  clear member
  induction texts with
  | nil => exact ⟨rfl, fun _ member => by cases member⟩
  | cons text texts inductionHypothesis =>
      rcases inductionHypothesis fun other listed => each other (List.mem_cons_of_mem _ listed) with
        ⟨regular, allowed⟩
      rcases Language.mem_mul.mp (each text List.mem_cons_self) with
        ⟨_, ⟨underscore, same, rfl⟩, word, inWords, rfl⟩
      rcases mem_snakeWords_iff.mp inWords with ⟨small, continues⟩
      obtain rfl : underscore = '_' := beq_iff_eq.mp same
      rw [List.flatten_cons, List.append_assoc, List.singleton_append]
      constructor
      · rw [regularChars_underscore_cons, beginsSmall_append small,
          regularChars_append continues, regular]
        rfl
      · intro char member
        rcases List.mem_cons.mp member with first | later
        · exact Or.inr first
        · rcases List.mem_append.mp later with inside | behind
          · exact Or.inl (continues char inside)
          · exact allowed char behind

/-- What is left of a name in snake case when its beginning has been read: the
rest of a word, and words behind underscores. -/
def snakeRests : Language Char :=
  (oneOf continuesWord)∗ * (oneOf (· == '_') * snakeWords)∗

theorem cons_mem_snakeRests {char : Char} (allowed : continuesWord char = true) {rest : List Char}
    (member : rest ∈ snakeRests) : char :: rest ∈ snakeRests := by
  rcases Language.mem_mul.mp member with ⟨word, inWord, others, inOthers, rfl⟩
  refine Language.mem_mul.mpr ⟨char :: word, ?_, others, inOthers, rfl⟩
  apply mem_kstar_oneOf_iff.mpr
  intro other listed
  rcases List.mem_cons.mp listed with first | later
  · rw [first]
    exact allowed
  · exact mem_kstar_oneOf_iff.mp inWord other later

/-- An underscore and the letter behind it begin a new word. -/
theorem underscore_cons_mem_snakeRests {head : Char} (small : head.isLower = true)
    {rest : List Char} (member : rest ∈ snakeRests) : '_' :: head :: rest ∈ snakeRests := by
  rcases Language.mem_mul.mp member with ⟨word, inWord, others, inOthers, rfl⟩
  rcases Language.mem_kstar.mp inOthers with ⟨texts, rfl, each⟩
  have mark : ['_'] ∈ oneOf (· == '_') := ⟨'_', rfl, rfl⟩
  have letter : [head] ∈ oneOf Char.isLower := ⟨head, small, rfl⟩
  have begun : '_' :: head :: word ∈ oneOf (· == '_') * snakeWords :=
    Language.append_mem_mul mark (Language.append_mem_mul letter inWord)
  refine Language.mem_mul.mpr ⟨[], Language.nil_mem_kstar _, _,
    Language.join_mem_kstar (L := ('_' :: head :: word) :: texts) ?_, rfl⟩
  intro text listed
  rcases List.mem_cons.mp listed with first | later
  · rw [first]
    exact begun
  · exact each text later

/-- The regular texts of these characters are such rests. -/
theorem mem_snakeRests_of_regularChars {chars : List Char} (regular : regularChars chars = true)
    (allowed : forall char, char ∈ chars -> continuesWord char = true ∨ char = '_') :
    chars ∈ snakeRests := by
  -- The recursion goes over two characters, because an underscore is read with what follows it.
  induction chars using List.twoStepInduction with
  | nil => exact ⟨[], Language.nil_mem_kstar _, [], Language.nil_mem_kstar _, rfl⟩
  | singleton char =>
      rcases allowed char List.mem_cons_self with continues | rfl
      · exact cons_mem_snakeRests continues
          ⟨[], Language.nil_mem_kstar _, [], Language.nil_mem_kstar _, rfl⟩
      · cases regular
  | cons_cons first second rest behindSecond behindFirst =>
      have later := fun char member => allowed char (List.mem_cons_of_mem first member)
      rcases allowed first List.mem_cons_self with continues | rfl
      · have tail : regularChars (second :: rest) = true := by
          rw [regularChars] at regular
          exact (Bool.and_eq_true_iff.mp regular).2
        exact cons_mem_snakeRests continues (behindFirst second tail later)
      · rw [regularChars_underscore_cons, Bool.and_eq_true, regularChars] at regular
        exact underscore_cons_mem_snakeRests regular.1
          (behindSecond (Bool.and_eq_true_iff.mp regular.2).2 fun char member =>
            later char (List.mem_cons_of_mem second member))

theorem isUpper_of_regularChars {chars : List Char} (regular : regularChars chars = true)
    {char : Char} (member : char ∈ chars) : char.isUpper = false := by
  induction chars with
  | nil => cases member
  | cons head chars inductionHypothesis =>
      simp only [regularChars, Bool.and_eq_true, Bool.not_eq_true'] at regular
      rcases List.mem_cons.mp member with first | later
      · rw [first]
        exact regular.1.1
      · exact inductionHypothesis regular.2 later

/-- Without capitals, bare identifiers have the characters of snake case. -/
theorem isTail_iff {char : Char} (small : char.isUpper = false) :
    Identifier.isTail char = true ↔ continuesWord char = true ∨ char = '_' := by
  simp [Identifier.isTail_eq, continuesWord, small]

theorem isPlain_of_beginsSmall {name : String} (small : beginsSmall name.toList = true)
    (allowed : forall char, char ∈ name.toList -> Identifier.isTail char = true) :
    Identifier.isPlain name = true := by
  rw [Identifier.isPlain_eq_any_head? allowed]
  rcases (Option.any_eq_true ..).mp small with ⟨head, found, letter⟩
  rw [found, Option.any_some, Identifier.isHead_eq, letter, Bool.or_true, Bool.true_or]

/-- The names in snake case are the bare ones that begin with a small letter
and are regular. -/
theorem inSnakeCase_iff {name : String} :
    InSnakeCase name ↔
      Identifier.isPlain name = true ∧ beginsSmall name.toList = true ∧ isRegular name = true := by
  constructor
  · intro member
    rcases Language.mem_mul.mp member with ⟨word, inWords, others, behind, split⟩
    rcases mem_snakeWords_iff.mp inWords with ⟨small, continues⟩
    rcases regularChars_of_mem_kstar behind with ⟨regular, allowed⟩
    have begins : beginsSmall name.toList = true := by
      rw [← split]
      exact beginsSmall_append small others
    have isRegular : isRegular name = true := by
      rw [Recase.isRegular, ← split, regularChars_append continues]
      exact regular
    refine ⟨isPlain_of_beginsSmall begins fun char member => ?_, begins, isRegular⟩
    apply (isTail_iff (isUpper_of_regularChars isRegular member)).mpr
    rw [← split] at member
    rcases List.mem_append.mp member with inside | later
    · exact Or.inl (continues char inside)
    · exact allowed char later
  · rintro ⟨plain, small, regular⟩
    rcases Identifier.exists_cons_of_isPlain plain with ⟨head, tail, chars, _, continued⟩
    rw [isRegular, chars, regularChars, Bool.and_eq_true] at regular
    rw [chars] at small
    have rests : tail ∈ snakeRests := by
      apply mem_snakeRests_of_regularChars regular.2
      intro char member
      exact (isTail_iff (isUpper_of_regularChars regular.2 member)).mp (continued char member)
    have letter : [head] ∈ oneOf Char.isLower := ⟨head, small, rfl⟩
    rw [InSnakeCase, chars, snakeNames, snakeWords, mul_assoc]
    exact Language.append_mem_mul letter rests

instance (name : String) : Decidable (InSnakeCase name) :=
  decidable_of_iff' _ inSnakeCase_iff

/-! ## Names that come back -/

/-- The regular form of a name is what its camel case is restored to. -/
theorem snakeCase_camelCase (name : String) : snakeCase (camelCase name) = regularForm name := by
  rw [snakeCase, camelCase, String.toList_ofList]
  rfl

theorem injOn_camelCase : Set.InjOn camelCase {name | InSnakeCase name} := by
  intro first inSnake second alsoInSnake same
  exact eq_of_camelCase_eq (inSnakeCase_iff.mp inSnake).2.2 (inSnakeCase_iff.mp alsoInSnake).2.2 same

/-- Tables with names in snake case have different names after the
migration. -/
theorem nodup_tableName_ofList {tables : List Table}
    (inSnake : forall table, table ∈ (Schema.ofList tables).toList -> InSnakeCase table.name) :
    ((Schema.ofList tables).toList.map fun table => tableName table.name).Nodup := by
  have renamed : ((Schema.ofList tables).toList.map fun table => tableName table.name) =
      ((Schema.ofList tables).toList.map Table.name).map camelCase := by
    rw [List.map_map]
    exact List.map_congr_left fun table _ => tableName_eq_camelCase table.name
  rw [renamed]
  apply List.Nodup.map_on _ (Schema.nodup_names_ofList tables)
  intro first here second there same
  rcases List.mem_map.mp here with ⟨table, listed, rfl⟩
  rcases List.mem_map.mp there with ⟨other, otherListed, rfl⟩
  exact injOn_camelCase (inSnake table listed) (inSnake other otherListed) same

/-- The names in snake case are restored from their camel case by putting an
underscore and the small letter in the place of each capital, and they are the
only bare names that begin with a small letter and are restored.  So camel
case tells them apart, and so the tables of a schema have different names
after the migration if they all had names in snake case before. -/
theorem snake_case_restored :
    (forall name : String, InSnakeCase name ↔
      Identifier.isPlain name = true ∧ beginsSmall name.toList = true ∧
        snakeCase (camelCase name) = name) ∧
      Set.InjOn camelCase {name | InSnakeCase name} ∧
      forall tables : List Table,
        (forall table, table ∈ (Schema.ofList tables).toList -> InSnakeCase table.name) ->
          ((Schema.ofList tables).toList.map fun table => tableName table.name).Nodup := by
  refine ⟨fun name => ?_, injOn_camelCase, fun tables => nodup_tableName_ofList⟩
  rw [inSnakeCase_iff, snakeCase_camelCase, regularForm_eq_self_iff]

/-- A table that is declared twice still has its name for itself. -/
theorem snake_case_restored_in_hotel :
    let tables : List Table := ["room_types2", "rooms", "room_types2", "room_types"].map
      fun name => { name := name, schema := none }
    InSnakeCase "room_types2" ∧ snakeCase (camelCase "room_types2") = "room_types2" ∧
      (forall table, table ∈ (Schema.ofList tables).toList -> InSnakeCase table.name) ∧
      ((Schema.ofList tables).toList.map fun table => tableName table.name).Nodup := by
  intro tables
  have inSnake : InSnakeCase "room_types2" := by decide +kernel
  have all : forall table, table ∈ (Schema.ofList tables).toList -> InSnakeCase table.name := by
    rw [Schema.toList_ofList]
    decide +kernel
  rcases snake_case_restored with ⟨restored, _, distinct⟩
  exact ⟨inSnake, ((restored "room_types2").mp inSnake).2.2, all, distinct tables all⟩

/-- A digit behind an underscore leaves no capital that could lead back. -/
example : ¬ InSnakeCase "room_2" ∧ snakeCase (camelCase "room_2") = "room2" := by
  decide +kernel

end Recase
