import Mathlib.Data.List.Lex
import Mathlib.Data.String.Basic
import Mathlib.Tactic.SplitIfs

namespace Recase
namespace Text

/-!
# The order of texts in UTF-8

Texts may be compared by their bytes or by their code points, and this is the
same comparison.  Of two characters with the same number of bytes the greater
one has the greater byte at the first place where they differ, because the
bytes are its digits from the highest down.  A character with more bytes has a
greater first byte.  In neither case does one of the two end before the place,
so what follows them does not matter.
-/

def bytes (text : String) : List Nat :=
  text.toUTF8.data.toList.map UInt8.toNat

def codePoints (text : String) : List Nat :=
  text.toList.map Char.toNat

/-- The bytes of a character in UTF-8, as numbers. -/
def bytesOf (char : Char) : List Nat :=
  (String.utf8EncodeChar char).map UInt8.toNat

theorem bytes_eq_flatMap (text : String) : bytes text = text.toList.flatMap bytesOf := by
  rw [bytes, String.toUTF8, ← String.utf8Encode_toList, List.utf8Encode,
    List.toList_data_toByteArray, List.map_flatMap]
  rfl

/-! ## Characters -/

theorem toNat_lt (char : Char) : char.toNat < 1114112 := by
  rcases char.valid with low | ⟨_, high⟩
  · exact low.trans (by decide)
  · exact high

/-- The bytes of a character are its digits to the base 64, with marks that
tell how many of them there are. -/
theorem bytesOf_eq (char : Char) :
    bytesOf char =
      if char.toNat ≤ 127 then [char.toNat]
      else if char.toNat ≤ 2047 then [char.toNat / 64 + 192, char.toNat % 64 + 128]
      else if char.toNat ≤ 65535 then
        [char.toNat / 4096 + 224, char.toNat / 64 % 64 + 128, char.toNat % 64 + 128]
      else
        [char.toNat / 262144 + 240, char.toNat / 4096 % 64 + 128, char.toNat / 64 % 64 + 128,
          char.toNat % 64 + 128] := by
  have bound := toNat_lt char
  have same : char.val.toNat = char.toNat := rfl
  rw [bytesOf, String.utf8EncodeChar, same]
  split_ifs
  all_goals
    simp only [List.map_cons, List.map_nil, UInt8.toNat_ofNat', List.cons.injEq, and_true]
    omega

theorem bytesOf_ne_nil (char : Char) : bytesOf char ≠ [] := by
  intro empty
  exact String.utf8EncodeChar_ne_nil (List.map_eq_nil_iff.mp empty)

/-- Whether two lists have a place at which they differ first, and the number
there is smaller in the first list. -/
def Below : List Nat -> List Nat -> Prop
  | first :: others, second :: rest => first < second ∨ first = second ∧ Below others rest
  | _, _ => False

theorem below_bytesOf {first second : Char} (less : first < second) :
    Below (bytesOf first) (bytesOf second) := by
  have smaller : first.toNat < second.toNat := less
  have bound := toNat_lt second
  rw [bytesOf_eq, bytesOf_eq]
  -- One case for each two numbers of bytes; the smaller character cannot have more of them.
  split_ifs
  all_goals
    simp only [Below]
    omega

/-- What follows behind the place does not matter. -/
theorem append_lt_append_of_below {first second : List Nat} (below : Below first second)
    (left right : List Nat) : first ++ left < second ++ right := by
  induction first generalizing second with
  | nil => cases below
  | cons head others inductionHypothesis =>
      cases second with
      | nil => cases below
      | cons other rest =>
          apply List.cons_lt_cons_iff.mpr
          rcases below with less | ⟨same, later⟩
          · exact Or.inl less
          · exact Or.inr ⟨same, inductionHypothesis later⟩

/-! ## Texts -/

theorem flatMap_bytesOf_lt {first second : List Char} (less : first < second) :
    first.flatMap bytesOf < second.flatMap bytesOf := by
  induction less with
  | @nil char chars =>
      rw [List.flatMap_nil, List.flatMap_cons]
      cases encoded : bytesOf char with
      | nil => exact absurd encoded (bytesOf_ne_nil char)
      | cons byte others => exact List.nil_lt_cons ..
  | rel smaller => exact append_lt_append_of_below (below_bytesOf smaller) _ _
  | cons _ inductionHypothesis => exact List.append_left_lt inductionHypothesis

theorem strictMono_bytes : StrictMono bytes := by
  intro first second less
  rw [bytes_eq_flatMap, bytes_eq_flatMap]
  exact flatMap_bytesOf_lt (String.lt_iff_toList_lt.mp less)

theorem strictMono_codePoints : StrictMono codePoints := by
  intro first second less
  exact List.map_lt (fun _ _ smaller => smaller) (String.lt_iff_toList_lt.mp less)

/-- Comparing bytes is comparing code points. -/
theorem bytes_lt_bytes_iff {first second : String} :
    bytes first < bytes second ↔ codePoints first < codePoints second :=
  strictMono_bytes.lt_iff_lt.trans strictMono_codePoints.lt_iff_lt.symm

end Text
end Recase
