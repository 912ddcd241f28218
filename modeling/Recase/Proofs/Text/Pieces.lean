import Recase.Text.Pieces

namespace Recase
namespace Text

/-!
# Cutting a text and joining it again

A text without the separator is a single piece, and no piece has the
separator in it.  Texts that are joined with the separator between them are
cut at the joints, and at no other place unless they have separators of their
own.
-/

variable {separator : Char}

/-- A text without the separator is not cut. -/
theorem pieces_of_not_mem {chars : List Char} (whole : separator ∉ chars) :
    pieces separator chars = [chars] := by
  induction chars with
  | nil => rfl
  | cons char chars inductionHypothesis =>
      have differs := List.ne_of_not_mem_cons whole
      rw [pieces_cons, inductionHypothesis (List.not_mem_of_not_mem_cons whole), extendPieces,
        if_neg (Ne.symm differs)]

/-- The characters of a piece are those of the text, and none of them is the
separator. -/
theorem mem_and_ne_of_mem_pieces {chars piece : List Char} {char : Char}
    (member : piece ∈ pieces separator chars) (inside : char ∈ piece) :
    char ∈ chars ∧ char ≠ separator := by
  induction chars generalizing piece with
  | nil =>
      rw [pieces_nil, List.mem_singleton] at member
      rw [member] at inside
      cases inside
  | cons head chars inductionHypothesis =>
      have later {other : List Char} (listed : other ∈ pieces separator chars)
          (here : char ∈ other) : char ∈ head :: chars ∧ char ≠ separator := by
        rcases inductionHypothesis listed here with ⟨present, differs⟩
        exact ⟨List.mem_cons_of_mem _ present, differs⟩
      rw [pieces_cons] at member
      cases cut : pieces separator chars with
      | nil => exact absurd cut (pieces_ne_nil separator chars)
      | cons first others =>
          rw [cut] at later
          rw [cut, extendPieces] at member
          by_cases same : head = separator
          · rw [if_pos same] at member
            rcases List.mem_cons.mp member with empty | listed
            · rw [empty] at inside
              cases inside
            · exact later listed inside
          · rw [if_neg same] at member
            rcases List.mem_cons.mp member with longer | listed
            · rw [longer] at inside
              rcases List.mem_cons.mp inside with here | behind
              · rw [here]
                exact ⟨List.mem_cons_self, same⟩
              · exact later List.mem_cons_self behind
            · exact later (List.mem_cons_of_mem _ listed) inside

theorem not_mem_of_mem_pieces {chars piece : List Char} (member : piece ∈ pieces separator chars) :
    separator ∉ piece :=
  fun inside => (mem_and_ne_of_mem_pieces member inside).2 rfl

/-- The pieces together are the text without the separators. -/
theorem flatten_pieces (separator : Char) (chars : List Char) :
    (pieces separator chars).flatten = chars.filter (· != separator) := by
  induction chars with
  | nil => rfl
  | cons char chars inductionHypothesis =>
      rw [pieces_cons, List.filter_cons, ← inductionHypothesis]
      cases cut : pieces separator chars with
      | nil => exact absurd cut (pieces_ne_nil separator chars)
      | cons piece others =>
          rw [extendPieces]
          by_cases same : char = separator
          · simp [same]
          · simp [same]

/-- What stands before the first separator is the beginning of the first
piece. -/
theorem pieces_append {start : List Char} (whole : separator ∉ start)
    {chars first : List Char} {others : List (List Char)}
    (cut : pieces separator chars = first :: others) :
    pieces separator (start ++ chars) = (start ++ first) :: others := by
  induction start with
  | nil => exact cut
  | cons char start inductionHypothesis =>
      have differs := List.ne_of_not_mem_cons whole
      rw [List.cons_append, pieces_cons,
        inductionHypothesis (List.not_mem_of_not_mem_cons whole), extendPieces,
        if_neg (Ne.symm differs), List.cons_append]

/-- The pieces behind the first separator do not depend on what stands before
it. -/
theorem tail_pieces_append {start : List Char} (whole : separator ∉ start) (chars : List Char) :
    (pieces separator (start ++ chars)).tail = (pieces separator chars).tail := by
  cases cut : pieces separator chars with
  | nil => exact absurd cut (pieces_ne_nil separator chars)
  | cons first others => rw [pieces_append whole cut, List.tail_cons, List.tail_cons]

/-- Joined texts are cut at the joints and where they are cut themselves. -/
theorem pieces_intercalate {texts : List (List Char)} (some : texts ≠ []) :
    pieces separator ([separator].intercalate texts) = texts.flatMap (pieces separator) := by
  induction texts with
  | nil => exact absurd rfl some
  | cons first others inductionHypothesis =>
      cases others with
      | nil => rw [List.intercalate_singleton, List.flatMap_cons, List.flatMap_nil, List.append_nil]
      | cons second others =>
          rw [List.intercalate_cons_cons, List.append_assoc, List.singleton_append,
            pieces_append_separator, inductionHypothesis (List.cons_ne_nil _ _)]
          exact List.flatMap_cons.symm

/-- Joined lines are read as they are, but for the blanks at their ends. -/
theorem lines_intercalate {lines : List (List Char)} (nonempty : lines ≠ [])
    (whole : forall line, line ∈ lines -> '\n' ∉ line) :
    Text.lines (String.ofList (['\n'].intercalate lines)) = lines.map trim := by
  have cut : lines.flatMap (pieces '\n') = lines := by
    rw [List.flatMap_def,
      List.map_congr_left fun line member => pieces_of_not_mem (whole line member),
      ← List.flatMap_def, List.flatMap_singleton']
  rw [Text.lines, String.toList_ofList, pieces_intercalate nonempty, cut]

end Text
end Recase
