import Recase.Proofs.CamelCase.Joining
import Recase.Proofs.Identifier
import Recase.Proofs.SnakeCase

namespace Recase

/-!
# Bare names in camel case

A name that can be written bare need not be so in camel case.  The underscores
at its beginning go, and what stands behind them comes first.  If this is a
letter, its capital begins a bare name; if it is a digit, the name has to be
quoted from now on; and if there is nothing, the name is empty and no name at
all.  Nothing else in the name matters, since letters and digits go to letters
and digits.
-/

/-- The first character of a name that is not an underscore. -/
def leading? (name : String) : Option Char :=
  name.toList.find? (· != '_')

/-! ## Upper case of bare names -/

theorem toNat_lt_of_isTail {char : Char} (allowed : Identifier.isTail char = true) :
    char.toNat < 128 := by
  simp only [Identifier.isTail_eq, Bool.or_eq_true, beq_iff_eq, isUpper_iff, isLower_iff,
    Char.isDigit_iff_toNat] at allowed
  rcases allowed with ((capital | small) | digit) | rfl
  · omega
  · omega
  · have last : '9'.toNat = 57 := rfl
    omega
  · decide

/-- What holds of the ASCII characters that may stand in a bare name holds of
all characters that may. -/
private theorem of_isTail {P : Char -> Prop}
    (all : forall point, point < 128 -> Identifier.isTail (Char.ofNat point) = true ->
      P (Char.ofNat point)) {char : Char} (allowed : Identifier.isTail char = true) : P char := by
  have here := all char.toNat (toNat_lt_of_isTail allowed)
  rw [Char.ofNat_toNat] at here
  exact here allowed

/-- A character of a bare name is raised to one character of the same kind. -/
theorem upper_of_isTail {char : Char} (allowed : Identifier.isTail char = true) :
    Text.upper char = [char.toUpper] ∧ Identifier.isTail char.toUpper = true ∧
      Identifier.isHead char.toUpper = Identifier.isHead char :=
  of_isTail (P := fun char => Text.upper char = [char.toUpper] ∧
    Identifier.isTail char.toUpper = true ∧
      Identifier.isHead char.toUpper = Identifier.isHead char) (by decide +kernel) allowed

/-- A character of a bare name that is not an underscore is a letter, with
which a name may begin, or a digit, with which it may not. -/
theorem isHead_of_isTail {char : Char} (allowed : Identifier.isTail char = true)
    (other : char ≠ '_') :
    Identifier.isHead char = char.isAlpha ∧ char.isAlpha = !char.isDigit :=
  of_isTail (P := fun char => char ≠ '_' -> Identifier.isHead char = char.isAlpha ∧
    char.isAlpha = !char.isDigit) (by decide +kernel) allowed other

theorem camelChars_underscore (chars : List Char) :
    camelChars ('_' :: chars) = capitalize (camelChars chars) :=
  camelChars_append_underscore [] chars

theorem isTail_of_mem_capitalize {segment : List Char}
    (allowed : forall char, char ∈ segment -> Identifier.isTail char = true) {char : Char}
    (member : char ∈ capitalize segment) : Identifier.isTail char = true := by
  cases segment with
  | nil => cases member
  | cons head tail =>
      rcases upper_of_isTail (allowed head List.mem_cons_self) with ⟨raised, kept, _⟩
      rw [capitalize, raised, List.singleton_append] at member
      rcases List.mem_cons.mp member with first | later
      · rw [first]
        exact kept
      · exact allowed char (List.mem_cons_of_mem head later)

theorem isTail_of_mem_camelChars {chars : List Char}
    (allowed : forall char, char ∈ chars -> Identifier.isTail char = true) :
    forall char, char ∈ camelChars chars -> Identifier.isTail char = true := by
  induction chars with
  | nil => exact allowed
  | cons head chars inductionHypothesis =>
      have later := inductionHypothesis fun char member =>
        allowed char (List.mem_cons_of_mem head member)
      intro char member
      by_cases underscore : head = '_'
      · rw [underscore, camelChars_underscore] at member
        exact isTail_of_mem_capitalize later member
      · rw [camelChars_cons underscore] at member
        rcases List.mem_cons.mp member with first | behind
        · rw [first]
          exact allowed head List.mem_cons_self
        · exact later char behind

/-! ## What comes first in camel case -/

section

variable {kind : Char -> Bool}
  (kept : forall char, Identifier.isTail char = true -> kind char.toUpper = kind char)

include kept

theorem any_head?_capitalize {segment : List Char}
    (allowed : forall char, char ∈ segment -> Identifier.isTail char = true) :
    (capitalize segment).head?.any kind = segment.head?.any kind := by
  cases segment with
  | nil => rfl
  | cons head tail =>
      have here := allowed head List.mem_cons_self
      rw [capitalize, (upper_of_isTail here).1]
      exact kept head here

/-- The first character in camel case is of the same kind as the first one
that is not an underscore. -/
theorem any_head?_camelChars {chars : List Char}
    (allowed : forall char, char ∈ chars -> Identifier.isTail char = true) :
    (camelChars chars).head?.any kind = (chars.find? (· != '_')).any kind := by
  induction chars with
  | nil => rfl
  | cons head chars inductionHypothesis =>
      have later := fun char member => allowed char (List.mem_cons_of_mem head member)
      by_cases underscore : head = '_'
      · rw [underscore, camelChars_underscore,
          any_head?_capitalize kept (isTail_of_mem_camelChars later), inductionHypothesis later]
        rfl
      · rw [camelChars_cons underscore, List.find?_cons, bne_iff_ne.mpr underscore]
        rfl

end

/-! ## Three kinds of bare names -/

theorem leading?_eq_none_iff {name : String} :
    leading? name = none ↔ forall char, char ∈ name.toList -> char = '_' := by
  rw [leading?, List.find?_eq_none]
  simp only [bne_iff_ne, Decidable.not_not]

theorem mem_and_ne_of_leading? {name : String} {char : Char}
    (found : leading? name = some char) : char ∈ name.toList ∧ char ≠ '_' := by
  have other := List.find?_some found
  exact ⟨List.mem_of_find?_eq_some found, bne_iff_ne.mp other⟩

section

variable {name : String} (plain : Identifier.isPlain name = true)

include plain

theorem isTail_of_mem_camelCase {char : Char} (member : char ∈ (camelCase name).toList) :
    Identifier.isTail char = true := by
  rw [camelCase, String.toList_ofList] at member
  exact isTail_of_mem_camelChars
    (fun _ inside => Identifier.isTail_of_mem_of_isPlain plain inside) char member

theorem any_head?_camelCase {kind : Char -> Bool}
    (kept : forall char, Identifier.isTail char = true -> kind char.toUpper = kind char) :
    (camelCase name).toList.head?.any kind = (leading? name).any kind := by
  rw [camelCase, String.toList_ofList]
  exact any_head?_camelChars kept fun _ inside => Identifier.isTail_of_mem_of_isPlain plain inside

theorem camelCase_eq_empty_iff : camelCase name = "" ↔ leading? name = none := by
  have first : (camelCase name).toList.head?.any (fun _ => true) =
      (leading? name).any fun _ => true := any_head?_camelCase plain fun _ _ => rfl
  rw [Option.any_true, Option.any_true] at first
  rw [← String.toList_eq_nil_iff, ← List.head?_eq_none_iff, ← Option.isNone_iff_eq_none,
    ← Option.isNone_iff_eq_none, ← Option.isSome_eq_false_iff, ← Option.isSome_eq_false_iff, first]

theorem isPlain_camelCase :
    Identifier.isPlain (camelCase name) = (leading? name).any Identifier.isHead := by
  rw [Identifier.isPlain_eq_any_head? fun _ member => isTail_of_mem_camelCase plain member]
  exact any_head?_camelCase plain fun _ allowed => (upper_of_isTail allowed).2.2

/-- A name is bare in camel case if it has a letter where another one has a
digit. -/
theorem isPlain_camelCase_of_leading? {char : Char} (found : leading? name = some char) :
    Identifier.isPlain (camelCase name) = char.isAlpha ∧ char.isAlpha = !char.isDigit := by
  rcases mem_and_ne_of_leading? found with ⟨member, other⟩
  rcases isHead_of_isTail (Identifier.isTail_of_mem_of_isPlain plain member) other with
    ⟨begins, kinds⟩
  rw [isPlain_camelCase plain, found, Option.any_some]
  exact ⟨begins, kinds⟩

theorem written_camelCase (refused : Identifier.isPlain (camelCase name) = false) :
    Identifier.written (camelCase name) = "\"" ++ camelCase name ++ "\"" := by
  have noQuote : '"' ∉ (camelCase name).toList := by
    intro member
    cases isTail_of_mem_camelCase plain member
  rw [Identifier.written, refused, if_neg Bool.false_ne_true, ← String.toList_inj,
    Identifier.toList_quote_of_not_mem noQuote, String.toList_append, String.toList_append]
  rfl

end

/-- A bare name is bare in camel case exactly if its first character besides
the underscores is a letter.  It is empty in camel case exactly if it has only
underscores.  Otherwise this character is a digit, and the name has to be
written between quotes, which stand around it without changing anything. -/
theorem camelCase_plain_cases {name : String} (plain : Identifier.isPlain name = true) :
    (Identifier.isPlain (camelCase name) = true ↔
        Exists fun char => leading? name = some char ∧ char.isAlpha = true) ∧
      (camelCase name = "" ↔ forall char, char ∈ name.toList -> char = '_') ∧
      ((Exists fun char => leading? name = some char ∧ char.isDigit = true) ↔
        Identifier.isPlain (camelCase name) = false ∧ camelCase name ≠ "" ∧
          Identifier.written (camelCase name) = "\"" ++ camelCase name ++ "\"") := by
  have kinds (char : Char) (found : leading? name = some char) :=
    isPlain_camelCase_of_leading? plain found
  have empty := camelCase_eq_empty_iff plain
  refine ⟨?_, empty.trans leading?_eq_none_iff, ?_⟩
  · constructor
    · intro bare
      cases found : leading? name with
      | none =>
          rw [isPlain_camelCase plain, found] at bare
          cases bare
      | some char =>
          rw [(kinds char found).1] at bare
          exact ⟨char, rfl, bare⟩
    · rintro ⟨char, found, letter⟩
      rw [(kinds char found).1]
      exact letter
  · constructor
    · rintro ⟨char, found, digit⟩
      have refused : Identifier.isPlain (camelCase name) = false := by
        rw [(kinds char found).1, (kinds char found).2, digit]
        rfl
      refine ⟨refused, ?_, written_camelCase plain refused⟩
      intro gone
      rw [empty.mp gone] at found
      cases found
    · rintro ⟨refused, some, _⟩
      cases found : leading? name with
      | none => exact absurd (empty.mpr found) some
      | some char =>
          rw [(kinds char found).1, (kinds char found).2, Bool.not_eq_false'] at refused
          exact ⟨char, rfl, refused⟩

/-- The digit of a name can be hidden behind underscores. -/
theorem camelCase_plain_cases_of_hidden_digit :
    Identifier.isPlain "__2fa_codes" = true ∧
      Identifier.written (camelCase "__2fa_codes") = "\"2faCodes\"" := by
  have plain : Identifier.isPlain "__2fa_codes" = true := by decide
  have leading : leading? "__2fa_codes" = some '2' := by decide
  have cases := (camelCase_plain_cases plain).2.2.mp ⟨'2', leading, by decide⟩
  have camel : camelCase "__2fa_codes" = "2faCodes" := by decide +kernel
  refine ⟨plain, ?_⟩
  rw [cases.2.2, camel]
  decide

end Recase
