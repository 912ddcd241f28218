import Mathlib.Data.List.Infix
import Recase.Text.Pieces
import Recase.Text.Word

namespace Recase
namespace Text

/-!
# What trimming takes away

Trimming takes away the blanks at the two ends of a text and nothing else.
What is left is an infix of the text, and a word without blanks occurs in it
exactly if it occurs in the whole text.  No blank is a word character, so a
text that begins with a name loses nothing at its beginning.  This is found
out from the ranges of both, where a character lies if the search that stops
early finds it.
-/

/-! ## Characters in ranges -/

theorem lt_of_isIncreasing {range : Nat × Nat} {others : List (Nat × Nat)}
    (increasing : isIncreasing (range :: others) = true) :
    range.1 ≤ range.2 ∧ forall other, other ∈ others -> range.2 < other.1 := by
  induction others generalizing range with
  | nil =>
      refine ⟨of_decide_eq_true increasing, ?_⟩
      intro other listed
      cases listed
  | cons next others inductionHypothesis =>
      rw [isIncreasing, Bool.and_eq_true, Bool.and_eq_true, decide_eq_true_iff,
        decide_eq_true_iff] at increasing
      rcases increasing with ⟨⟨full, gap⟩, behind⟩
      rcases inductionHypothesis behind with ⟨nextFull, beyond⟩
      refine ⟨full, ?_⟩
      intro other listed
      rcases List.mem_cons.mp listed with same | later
      · rw [same]
        exact Nat.lt_of_succ_lt gap
      · have far := beyond other later
        omega

theorem isIncreasing_tail {range : Nat × Nat} {others : List (Nat × Nat)}
    (increasing : isIncreasing (range :: others) = true) : isIncreasing others = true := by
  cases others with
  | nil => rfl
  | cons next others =>
      rw [isIncreasing, Bool.and_eq_true] at increasing
      exact increasing.2

/-- A search that stops early misses no range, because those behind the stop
begin beyond the point as well. -/
theorem reaches_iff {ranges : List (Nat × Nat)} (increasing : isIncreasing ranges = true)
    (point : Nat) :
    reaches ranges point = true ↔
      Exists fun range => range ∈ ranges ∧ range.1 ≤ point ∧ point ≤ range.2 := by
  induction ranges with
  | nil => simp [reaches]
  | cons range others inductionHypothesis =>
      have inOthers := inductionHypothesis (isIncreasing_tail increasing)
      rcases lt_of_isIncreasing increasing with ⟨full, beyond⟩
      rw [reaches]
      by_cases before : point < range.1
      · rw [if_pos before]
        constructor
        · intro found
          cases found
        · rintro ⟨other, listed, lower, upper⟩
          rcases List.mem_cons.mp listed with same | later
          · rw [same] at lower
            omega
          · have far := beyond other later
            omega
      rw [if_neg before]
      by_cases inside : point ≤ range.2
      · rw [if_pos inside]
        refine ⟨fun _ => ⟨range, List.mem_cons_self, ?_, inside⟩, fun _ => rfl⟩
        exact Nat.le_of_not_lt before
      · rw [if_neg inside, inOthers]
        constructor
        · rintro ⟨other, later, bounds⟩
          exact ⟨other, List.mem_cons_of_mem _ later, bounds⟩
        · rintro ⟨other, listed, bounds⟩
          rcases List.mem_cons.mp listed with same | later
          · rw [same] at bounds
            exact absurd bounds.2 inside
          · exact ⟨other, later, bounds⟩

theorem Ranges.covers_iff (ranges : Ranges) (point : Nat) :
    ranges.covers point = true ↔
      Exists fun range => range ∈ ranges.list ∧ range.1 ≤ point ∧ point ≤ range.2 :=
  reaches_iff ranges.increasing point

/-! ## Blanks are not word characters -/

theorem isWord_of_isBlank {char : Char} (blank : isBlank char = true) : isWord char = false := by
  -- The blanks are few, and each of them is looked for among the word characters.
  have apart : (blankRanges.list.all fun range =>
      (List.range' range.1 (range.2 + 1 - range.1)).all fun point =>
        !wordRanges.covers point) = true := by
    decide +kernel
  rcases (blankRanges.covers_iff char.toNat).mp blank with ⟨range, listed, lower, upper⟩
  have inside : char.toNat ∈ List.range' range.1 (range.2 + 1 - range.1) := by
    rw [List.mem_range'_1]
    omega
  have refused := List.all_eq_true.mp (List.all_eq_true.mp apart range listed) char.toNat inside
  rw [Bool.not_eq_true'] at refused
  exact refused

theorem isBlank_of_isWord {char : Char} (word : isWord char = true) : isBlank char = false := by
  apply Bool.eq_false_iff.mpr
  intro blank
  rw [isWord_of_isBlank blank] at word
  cases word

/-! ## Texts with visible ends -/

theorem trimLeft_append_of_blank {blanks : List Char}
    (blank : forall char, char ∈ blanks -> isBlank char = true) (rest : List Char) :
    trimLeft (blanks ++ rest) = trimLeft rest :=
  List.dropWhile_append_of_pos blank

theorem trimLeft_cons {first : Char} (visible : isBlank first = false) (rest : List Char) :
    trimLeft (first :: rest) = first :: rest := by
  rw [trimLeft, List.dropWhile_cons, visible]
  rfl

theorem trimRight_concat {last : Char} (visible : isBlank last = false) (rest : List Char) :
    trimRight (rest ++ [last]) = rest ++ [last] := by
  rw [trimRight, List.reverse_append, List.reverse_singleton, List.singleton_append,
    trimLeft_cons visible, List.reverse_cons, List.reverse_reverse]

/-- A text that neither begins nor ends with a blank is all that is left of
it when blanks stand before it. -/
theorem trim_of_visible_ends {blanks : List Char}
    (blank : forall char, char ∈ blanks -> isBlank char = true) {text rest before : List Char}
    {first last : Char} (begins : text = first :: rest) (ends : text = before ++ [last])
    (firstVisible : isBlank first = false) (lastVisible : isBlank last = false) :
    trim (blanks ++ text) = text := by
  rw [trim, trimLeft_append_of_blank blank, begins, trimLeft_cons firstVisible, ← begins, ends,
    trimRight_concat lastVisible]

theorem trim_of_blank {blanks : List Char}
    (blank : forall char, char ∈ blanks -> isBlank char = true) : trim blanks = [] := by
  have nothing := trimLeft_append_of_blank blank []
  rw [List.append_nil] at nothing
  rw [trim, nothing]
  rfl

theorem trimLeft_suffix (text : List Char) : trimLeft text <:+ text :=
  List.dropWhile_suffix isBlank

theorem trimRight_isPrefix (text : List Char) : trimRight text <+: text := by
  have shorter := List.reverse_prefix.mpr (trimLeft_suffix text.reverse)
  rw [List.reverse_reverse] at shorter
  exact shorter

theorem trim_isInfix (text : List Char) : trim text <:+: text :=
  (trimRight_isPrefix _).isInfix.trans (trimLeft_suffix text).isInfix

theorem mem_of_mem_trim {text : List Char} {char : Char} (member : char ∈ trim text) :
    char ∈ text :=
  (trim_isInfix text).subset member

/-! ## Nothing is left to trim -/

theorem visible_of_trimLeft {text rest : List Char} {first : Char}
    (left : trimLeft text = first :: rest) : isBlank first = false := by
  have stopped := List.head?_dropWhile_not isBlank text
  rw [← trimLeft, left] at stopped
  exact stopped

theorem trimLeft_trimLeft (text : List Char) : trimLeft (trimLeft text) = trimLeft text := by
  cases left : trimLeft text with
  | nil => rfl
  | cons first rest => exact trimLeft_cons (visible_of_trimLeft left) rest

/-- A trimmed text begins and ends with visible characters, so there is
nothing more to trim. -/
theorem trim_trim (text : List Char) : trim (trim text) = trim text := by
  have left : trimLeft (trim text) = trim text := by
    rcases trimRight_isPrefix (trimLeft text) with ⟨behind, split⟩
    cases trimmed : trim text with
    | nil => rfl
    | cons first rest =>
        rw [← trim, trimmed, List.cons_append] at split
        exact trimLeft_cons (visible_of_trimLeft split.symm) rest
  rw [trim, left, trim, trimRight, trimRight, List.reverse_reverse, trimLeft_trimLeft]

theorem trimRight_append_of_blank {blanks : List Char}
    (blank : forall char, char ∈ blanks -> isBlank char = true) (text : List Char) :
    trimRight (text ++ blanks) = trimRight text := by
  rw [trimRight, List.reverse_append, trimLeft_append_of_blank, ← trimRight]
  intro char member
  exact blank char (List.mem_reverse.mp member)

/-- Blanks that are added at the two ends of a text are trimmed together with
those that it has there. -/
theorem trim_append_of_blank {before after : List Char}
    (blankBefore : forall char, char ∈ before -> isBlank char = true)
    (blankAfter : forall char, char ∈ after -> isBlank char = true) (text : List Char) :
    trim (before ++ text ++ after) = trim text := by
  rw [List.append_assoc, trim, trimLeft_append_of_blank blankBefore, trim, trimLeft,
    List.dropWhile_append, ← trimLeft]
  cases left : trimLeft text with
  | nil => exact trim_of_blank blankAfter
  | cons first rest => exact trimRight_append_of_blank blankAfter _

/-! ## Words in a trimmed text -/

theorem occursIn_iff_isInfix (word text : List Char) :
    occursIn word text = true ↔ word <:+: text := by
  induction text with
  | nil => rw [occursIn, List.isEmpty_iff, List.infix_nil]
  | cons char rest inductionHypothesis =>
      rw [occursIn, Bool.or_eq_true_iff, List.isPrefixOf_iff_prefix, inductionHypothesis,
        List.infix_cons_iff]

/-- A word that begins with a visible character is not touched at the left
end. -/
theorem infix_trimLeft {word text : List Char} (occurs : word <:+: text)
    (visible : word.any isBlank = false) : word <:+: trimLeft text := by
  rcases occurs with ⟨before, after, split⟩
  cases word with
  | nil => exact List.nil_infix
  | cons first word =>
      have begins : isBlank first = false := (Bool.or_eq_false_iff.mp visible).1
      have stays : (first :: word ++ after).dropWhile isBlank = first :: word ++ after :=
        trimLeft_cons begins (word ++ after)
      rw [← split, List.append_assoc, trimLeft, List.dropWhile_append]
      split
      · rw [stays]
        exact (List.prefix_append (first :: word) after).isInfix
      · rw [← List.append_assoc]
        exact List.infix_append _ _ _

theorem infix_trim {word text : List Char} (occurs : word <:+: text)
    (visible : word.any isBlank = false) : word <:+: trim text := by
  have visibleReverse : word.reverse.any isBlank = false := by
    rw [List.any_reverse]
    exact visible
  have left := infix_trimLeft occurs visible
  have right := infix_trimLeft (List.reverse_infix.mpr left) visibleReverse
  rw [← List.reverse_infix, List.reverse_reverse] at right
  exact right

/-- Whether a word without blanks occurs does not depend on the blanks at the
ends. -/
theorem occursIn_trim {word : List Char} (visible : word.any isBlank = false)
    (text : List Char) : occursIn word (trim text) = occursIn word text := by
  rw [Bool.eq_iff_iff, occursIn_iff_isInfix, occursIn_iff_isInfix]
  constructor
  · intro occurs
    exact occurs.trans (trim_isInfix text)
  · intro occurs
    exact infix_trim occurs visible

end Text
end Recase
