import Recase.Json.Quoted
import Recase.Json.Value

namespace Recase
namespace Json

/-!
# Spellings of a string

Within quotes a character can be spelled in several ways: as it is, by the
letter of a short escape, by one unit of the sixteen bit encoding or by two.
A string is read from each of its spellings, and what the writer chooses is
one of them.

The readers return what is left of a text together with a proof that it is
shorter.  The statements below leave this proof open, since any two of them are
equal.
-/

/-- The spellings of a character within quotes. -/
inductive SpelledChar : Char -> List Char -> Prop where
  | raw (char : Char) (notQuote : char ≠ '"') (notBackslash : char ≠ '\\')
      (notControl : 0x20 <= char.toNat) : SpelledChar char [char]
  | short (letter char : Char) (known : shortEscape? letter = some char) :
      SpelledChar char ['\\', letter]
  | unit (first second third fourth : Char) (unit : Nat)
      (digits : hexUnit? first second third fourth = some unit)
      (notFirst : isFirstHalf unit = false) (notSecond : isSecondHalf unit = false) :
      SpelledChar (Char.ofNat unit) ['\\', 'u', first, second, third, fourth]
  | halves (first second third fourth fifth sixth seventh eighth : Char) (front back : Nat)
      (frontDigits : hexUnit? first second third fourth = some front)
      (isFirst : isFirstHalf front = true)
      (backDigits : hexUnit? fifth sixth seventh eighth = some back)
      (isSecond : isSecondHalf back = true) :
      SpelledChar (joinHalves front back)
        ['\\', 'u', first, second, third, fourth, '\\', 'u', fifth, sixth, seventh, eighth]

/-- The spellings of a string within quotes, one character after the other. -/
inductive Spelled : List Char -> List Char -> Prop where
  | nil : Spelled [] []
  | cons {char : Char} {chars spelling others : List Char} (head : SpelledChar char spelling)
      (tail : Spelled chars others) : Spelled (char :: chars) (spelling ++ others)

/-! ## Reading a spelling -/

theorem isSecondHalf_of_isFirstHalf {unit : Nat} (isFirst : isFirstHalf unit = true) :
    isSecondHalf unit = false := by
  simp only [isFirstHalf, Bool.and_eq_true, decide_eq_true_eq] at isFirst
  simp only [isSecondHalf, Bool.and_eq_false_iff, decide_eq_false_iff_not]
  omega

theorem readUnit_digits {first second third fourth : Char} {unit : Nat}
    (digits : hexUnit? first second third fourth = some unit) (rest : List Char) :
    Exists fun shorter =>
      readUnit (first :: second :: third :: fourth :: rest) = .ok (unit, ⟨rest, shorter⟩) := by
  rw [readUnit, digits]
  exact ⟨_, rfl⟩

theorem secondHalf_digits (front : Nat) {first second third fourth : Char} {back : Nat}
    (digits : hexUnit? first second third fourth = some back)
    (isSecond : isSecondHalf back = true) (rest : List Char) :
    Exists fun shorter =>
      secondHalf front ('\\' :: 'u' :: first :: second :: third :: fourth :: rest) =
        .ok (joinHalves front back, ⟨rest, shorter⟩) := by
  rcases readUnit_digits digits rest with ⟨shorter, unitRead⟩
  refine ⟨?_, ?_⟩
  · simp only [List.length_cons]
    omega
  · simp [secondHalf, expectInPair, Shorter.tail, bind, Except.bind, unitRead, isSecond,
      Shorter.within, pure, Except.pure]

theorem escapedUnits_unit {first second third fourth : Char} {unit : Nat}
    (digits : hexUnit? first second third fourth = some unit)
    (notFirst : isFirstHalf unit = false) (notSecond : isSecondHalf unit = false)
    (rest : List Char) :
    Exists fun shorter =>
      escapedUnits (first :: second :: third :: fourth :: rest) =
        .ok (Char.ofNat unit, ⟨rest, shorter⟩) := by
  rcases readUnit_digits digits rest with ⟨shorter, unitRead⟩
  refine ⟨shorter, ?_⟩
  simp [escapedUnits, unitRead, bind, Except.bind, notFirst, notSecond, pure, Except.pure]

theorem escapedUnits_halves {first second third fourth fifth sixth seventh eighth : Char}
    {front back : Nat} (frontDigits : hexUnit? first second third fourth = some front)
    (isFirst : isFirstHalf front = true)
    (backDigits : hexUnit? fifth sixth seventh eighth = some back)
    (isSecond : isSecondHalf back = true) (rest : List Char) :
    Exists fun shorter =>
      escapedUnits (first :: second :: third :: fourth ::
          '\\' :: 'u' :: fifth :: sixth :: seventh :: eighth :: rest) =
        .ok (joinHalves front back, ⟨rest, shorter⟩) := by
  rcases readUnit_digits frontDigits
    ('\\' :: 'u' :: fifth :: sixth :: seventh :: eighth :: rest) with ⟨shorter, unitRead⟩
  rcases secondHalf_digits front backDigits isSecond rest with ⟨nearer, halfRead⟩
  refine ⟨Nat.lt_trans nearer shorter, ?_⟩
  have notSecond : isSecondHalf front = false := isSecondHalf_of_isFirstHalf isFirst
  simp [escapedUnits, unitRead, halfRead, bind, Except.bind, isFirst, notSecond, Shorter.within,
    pure, Except.pure]

/-- The character of an escape is read behind the backslash. -/
theorem escaped_spelledChar {char : Char} {spelling : List Char}
    (spelled : SpelledChar char ('\\' :: spelling)) (rest : List Char) :
    Exists fun shorter => escaped (spelling ++ rest) = .ok (char, ⟨rest, shorter⟩) := by
  cases spelled with
  | raw _ _ notBackslash => exact absurd rfl notBackslash
  | short letter _ known =>
      refine ⟨Nat.lt_succ_self _, ?_⟩
      simp [escaped, known, Shorter.tail]
  | unit first second third fourth unit digits notFirst notSecond =>
      rcases escapedUnits_unit digits notFirst notSecond rest with ⟨shorter, unitsRead⟩
      refine ⟨Nat.lt_succ_of_lt shorter, ?_⟩
      simp [escaped, shortEscape?, unitsRead, Shorter.within]
  | halves first second third fourth fifth sixth seventh eighth front back frontDigits isFirst
      backDigits isSecond =>
      rcases escapedUnits_halves frontDigits isFirst backDigits isSecond rest with
        ⟨shorter, unitsRead⟩
      refine ⟨Nat.lt_succ_of_lt shorter, ?_⟩
      simp [escaped, shortEscape?, unitsRead, Shorter.within]

theorem SpelledChar.raw_or_escape {char : Char} {spelling : List Char}
    (spelled : SpelledChar char spelling) :
    (spelling = [char] ∧ char ≠ '"' ∧ char ≠ '\\' ∧ ¬ char.toNat < 0x20) ∨
      Exists fun tail => spelling = '\\' :: tail := by
  cases spelled with
  | raw _ notQuote notBackslash notControl =>
      exact Or.inl ⟨rfl, notQuote, notBackslash, Nat.not_lt.mpr notControl⟩
  | short => exact Or.inr ⟨_, rfl⟩
  | unit => exact Or.inr ⟨_, rfl⟩
  | halves => exact Or.inr ⟨_, rfl⟩

/-- One spelled character is read, and the reading goes on behind it. -/
theorem quotedFrom_spelledChar {outer : List Char} {char : Char} {spelling : List Char}
    (spelled : SpelledChar char spelling) (reversed rest : List Char)
    (shorter : (spelling ++ rest).length < outer.length) :
    Exists fun nearer : rest.length < outer.length =>
      @quotedFrom outer reversed ⟨spelling ++ rest, shorter⟩ =
        quotedFrom (char :: reversed) ⟨rest, nearer⟩ := by
  have nearer : rest.length < outer.length := by
    rw [List.length_append] at shorter
    omega
  refine ⟨nearer, ?_⟩
  rcases spelled.raw_or_escape with ⟨rfl, notQuote, notBackslash, notControl⟩ | ⟨tail, rfl⟩
  · simp only [List.cons_append, List.nil_append]
    rw [quotedFrom, if_neg notQuote, if_neg notBackslash, if_neg notControl]
  · rcases escaped_spelledChar spelled rest with ⟨left, escapeRead⟩
    simp only [List.cons_append]
    rw [quotedFrom, if_neg (by decide), if_pos rfl, escapeRead]
    rfl

/-- A string is read from any of its spellings, up to the quote behind it. -/
theorem quotedFrom_spelled {chars spelling : List Char} (spelled : Spelled chars spelling)
    {outer : List Char} (reversed rest : List Char)
    (shorter : (spelling ++ '"' :: rest).length < outer.length) :
    Exists fun nearer : rest.length < outer.length =>
      @quotedFrom outer reversed ⟨spelling ++ '"' :: rest, shorter⟩ =
        .ok (String.ofList (reversed.reverse ++ chars), ⟨rest, nearer⟩) := by
  induction spelled generalizing reversed with
  | nil =>
      refine ⟨Nat.lt_trans (Nat.lt_succ_self _) shorter, ?_⟩
      simp only [List.nil_append, List.append_nil]
      rw [quotedFrom, if_pos rfl]
  | @cons char chars spelling others head tail inductionHypothesis =>
      simp only [List.append_assoc] at shorter ⊢
      rcases quotedFrom_spelledChar head reversed _ shorter with ⟨nearer, headRead⟩
      rcases inductionHypothesis (char :: reversed) nearer with ⟨left, tailRead⟩
      refine ⟨left, ?_⟩
      rw [headRead, tailRead, List.reverse_cons, List.append_assoc, List.singleton_append]

/-! ## The spelling that is written -/

/-- The four digits of a control name its number. -/
theorem fourDigits_of_control {number : Nat} (control : number < 0x20) :
    fourDigits number = ['0', '0', Nat.digitChar (number / 16), Nat.digitChar (number % 16)] ∧
      hexUnit? '0' '0' (Nat.digitChar (number / 16)) (Nat.digitChar (number % 16)) =
        some number := by
  revert number
  decide

/-- A control below U+0020 is never half of a character beyond U+FFFF. -/
theorem spelledChar_fourDigits {char : Char} (control : char.toNat < 0x20) :
    SpelledChar char ('\\' :: 'u' :: fourDigits char.toNat) := by
  rcases fourDigits_of_control control with ⟨digits, unit⟩
  have notFirst : isFirstHalf char.toNat = false := by
    simp only [isFirstHalf, Bool.and_eq_false_iff, decide_eq_false_iff_not]
    omega
  have notSecond : isSecondHalf char.toNat = false := by
    simp only [isSecondHalf, Bool.and_eq_false_iff, decide_eq_false_iff_not]
    omega
  have spelled := SpelledChar.unit _ _ _ _ char.toNat unit notFirst notSecond
  rw [Char.ofNat_toNat] at spelled
  rw [digits]
  exact spelled

theorem spelledChar_escape (char : Char) : SpelledChar char (escape char) := by
  unfold escape
  split
  case h_8 notQuote notBackslash _ _ _ _ _ =>
    by_cases control : char.toNat < 0x20
    · rw [if_pos control]
      exact spelledChar_fourDigits control
    · rw [if_neg control]
      exact .raw char notQuote notBackslash (Nat.not_lt.mp control)
  -- All others have a letter of their own.
  all_goals exact .short _ _ rfl

/-- A string is written in one of its spellings. -/
theorem spelled_escape (chars : List Char) : Spelled chars (chars.flatMap escape) := by
  induction chars with
  | nil => exact .nil
  | cons char chars inductionHypothesis => exact .cons (spelledChar_escape char) inductionHypothesis

end Json
end Recase
