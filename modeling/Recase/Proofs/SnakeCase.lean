import Recase.Proofs.CamelCase

namespace Recase

/-!
# Names that camel case tells apart

Camel case forgets where the underscores were, and it cannot forget nothing:
`a_b`, `a__b` and `aB` all become `aB`.  What can be got back from a name in
camel case is one name for each, in which every capital is taken for the head
of a segment.  These are the regular names: they have no capitals, and each of
their underscores stands before a small letter.

Every name has the camel case of exactly one regular name, its regular form.
So camel case tells regular names apart, and it gives two names one camel case
exactly if they have one regular form.  Capitals and small letters are those
of ASCII here, because beyond it several letters can share a capital.
-/

/-! ## Small letters and capitals -/

theorem isLower_iff {char : Char} : char.isLower = true ↔ 97 ≤ char.toNat ∧ char.toNat ≤ 122 := by
  have range : char.isLower = (decide ('a'.val ≤ char.val) && decide (char.val ≤ 'z'.val)) := rfl
  rw [range, Bool.and_eq_true, decide_eq_true_iff, decide_eq_true_iff, UInt32.le_iff_toNat_le,
    UInt32.le_iff_toNat_le]
  exact Iff.rfl

theorem isUpper_iff {char : Char} : char.isUpper = true ↔ 65 ≤ char.toNat ∧ char.toNat ≤ 90 := by
  have range : char.isUpper = decide ('A'.val ≤ char.val ∧ char.val ≤ 'Z'.val) := rfl
  rw [range, decide_eq_true_iff, UInt32.le_iff_toNat_le, UInt32.le_iff_toNat_le]
  exact Iff.rfl

/-- What holds of the code points in a range holds of the characters in it. -/
private theorem of_toNat_range {P : Char -> Prop} {first last : Nat}
    (all : forall offset, offset < last - first + 1 -> P (Char.ofNat (first + offset))) {char : Char}
    (lower : first ≤ char.toNat) (upper : char.toNat ≤ last) : P char := by
  have here := all (char.toNat - first) (by omega)
  rwa [Nat.add_sub_cancel' lower, Char.ofNat_toNat] at here

/-- A small letter is raised to its capital, which leads back to it. -/
theorem upper_of_isLower {char : Char} (small : char.isLower = true) :
    Text.upper char = [char.toUpper] ∧ char.toUpper.isUpper = true ∧
      char.toUpper.toLower = char := by
  have range := isLower_iff.mp small
  exact of_toNat_range (P := fun char => Text.upper char = [char.toUpper] ∧
    char.toUpper.isUpper = true ∧ char.toUpper.toLower = char) (by decide +kernel) range.1 range.2

/-- A capital comes from its small letter. -/
theorem upper_toLower_of_isUpper {char : Char} (capital : char.isUpper = true) :
    char.toLower.isLower = true ∧ Text.upper char.toLower = [char] := by
  have range := isUpper_iff.mp capital
  exact of_toNat_range (P := fun char => char.toLower.isLower = true ∧
    Text.upper char.toLower = [char]) (by decide +kernel) range.1 range.2

/-! ## Regular names -/

/-- Put an underscore and the small letter in the place of a capital. -/
def lowered (char : Char) : List Char :=
  if char.isUpper then ['_', char.toLower] else [char]

/-- A text with all capitals taken for heads of segments. -/
def snakeChars (chars : List Char) : List Char :=
  chars.flatMap lowered

/-- Whether a text has no capitals, and a small letter behind each of its
underscores. -/
def regularChars : List Char -> Bool
  | [] => true
  | char :: rest =>
      !char.isUpper && (char != '_' || rest.head?.any Char.isLower) && regularChars rest

theorem snakeChars_cons (char : Char) (chars : List Char) :
    snakeChars (char :: chars) = lowered char ++ snakeChars chars :=
  List.flatMap_cons

theorem underscore_ne_of_isLower {char : Char} (small : char.isLower = true) : char ≠ '_' := by
  rintro rfl
  cases small

theorem isUpper_of_isLower {char : Char} (small : char.isLower = true) : char.isUpper = false := by
  have range := isLower_iff.mp small
  apply Bool.eq_false_iff.mpr
  intro capital
  have other := isUpper_iff.mp capital
  omega

/-- What camel case makes of a regular text can be undone.  A capital in it
comes from behind an underscore, since the text has no other. -/
theorem snakeChars_camelChars {chars : List Char} (regular : regularChars chars = true) :
    snakeChars (camelChars chars) = chars := by
  -- An underscore goes together with the letter behind it, so the steps are of one or two.
  induction length : chars.length using Nat.strongRecOn generalizing chars with
  | ind length shorter =>
      cases chars with
      | nil => rfl
      | cons char rest =>
          simp only [regularChars, Bool.and_eq_true, Bool.or_eq_true, Bool.not_eq_true',
            bne_iff_ne] at regular
          rcases regular with ⟨⟨small, behind⟩, regular⟩
          by_cases underscore : char = '_'
          · subst underscore
            cases rest with
            | nil => simp at behind
            | cons next others =>
                have letter : next.isLower = true := by simpa using behind
                have regularOthers : regularChars others = true := by
                  simp only [regularChars, Bool.and_eq_true] at regular
                  exact regular.2
                rcases upper_of_isLower letter with ⟨raised, capital, back⟩
                rw [camelChars_underscore_cons (underscore_ne_of_isLower letter), raised,
                  List.singleton_append, snakeChars_cons, lowered, if_pos capital, back,
                  shorter others.length (by simp at length; omega) regularOthers rfl]
                rfl
          · rw [camelChars_cons underscore, snakeChars_cons, lowered, small,
              shorter rest.length (by simp at length; omega) regular rfl]
            rfl

theorem regularChars_snakeChars {chars : List Char} (plain : '_' ∉ chars) :
    regularChars (snakeChars chars) = true := by
  induction chars with
  | nil => rfl
  | cons char chars inductionHypothesis =>
      have here : char ≠ '_' := Ne.symm (List.ne_of_not_mem_cons plain)
      have regular := inductionHypothesis (List.not_mem_of_not_mem_cons plain)
      rw [snakeChars_cons, lowered]
      cases capital : char.isUpper with
      | true =>
          have small := (upper_toLower_of_isUpper capital).1
          simp [regularChars, small, isUpper_of_isLower small, underscore_ne_of_isLower small,
            regular]
      | false => simp [regularChars, capital, here, regular]

theorem camelChars_snakeChars {chars : List Char} (plain : '_' ∉ chars) :
    camelChars (snakeChars chars) = chars := by
  induction chars with
  | nil => rfl
  | cons char chars inductionHypothesis =>
      have here : char ≠ '_' := Ne.symm (List.ne_of_not_mem_cons plain)
      have restored := inductionHypothesis (List.not_mem_of_not_mem_cons plain)
      rw [snakeChars_cons, lowered]
      cases capital : char.isUpper with
      | true =>
          rcases upper_toLower_of_isUpper capital with ⟨small, raised⟩
          rw [if_pos rfl, List.cons_append, List.singleton_append,
            camelChars_underscore_cons (underscore_ne_of_isLower small), raised, restored]
          rfl
      | false =>
          rw [if_neg Bool.false_ne_true, List.singleton_append, camelChars_cons here, restored]

/-! ## The regular form of a name -/

/-- Whether a name has no capitals, and a small letter behind each of its
underscores. -/
def isRegular (name : String) : Bool :=
  regularChars name.toList

/-- The regular name with the same camel case. -/
def regularForm (name : String) : String :=
  String.ofList (snakeChars (camelChars name.toList))

theorem isRegular_regularForm (name : String) : isRegular (regularForm name) = true := by
  rw [isRegular, regularForm, String.toList_ofList]
  exact regularChars_snakeChars (underscore_not_mem_camelChars name.toList)

theorem camelCase_regularForm (name : String) : camelCase (regularForm name) = camelCase name := by
  rw [camelCase, regularForm, String.toList_ofList,
    camelChars_snakeChars (underscore_not_mem_camelChars name.toList)]
  rfl

/-- The regular names are those that are their own regular form. -/
theorem regularForm_eq_self_iff {name : String} : regularForm name = name ↔ isRegular name = true := by
  constructor
  · intro same
    rw [← same]
    exact isRegular_regularForm name
  · intro regular
    rw [regularForm, snakeChars_camelChars regular, String.ofList_toList]

/-- Two names have one camel case exactly if they have one regular form. -/
theorem camelCase_eq_iff {first second : String} :
    camelCase first = camelCase second ↔ regularForm first = regularForm second := by
  constructor
  · intro same
    have chars := String.ofList_injective same
    rw [regularForm, regularForm, chars]
  · intro same
    rw [← camelCase_regularForm first, same, camelCase_regularForm]

/-- Camel case tells regular names apart. -/
theorem eq_of_camelCase_eq {first second : String} (regular : isRegular first = true)
    (alsoRegular : isRegular second = true) (same : camelCase first = camelCase second) :
    first = second := by
  rw [← regularForm_eq_self_iff.mpr regular, ← regularForm_eq_self_iff.mpr alsoRegular]
  exact camelCase_eq_iff.mp same

end Recase
