import Recase.Proofs.Json.Reading
import Recase.Proofs.Json.Wellformed

namespace Recase
namespace Json

/-!
# Passing over a well-formed value

A value of no interest is passed over by a machine that keeps the open brackets
in a list.  Every well-formed value is passed over, however deep it nests, and
the machine then stands exactly behind it.

A value within brackets is passed over in the same way as one outside of all
brackets, as long as it does not matter which brackets these are.  The
statements below are therefore about any list of open brackets, and the
induction is on how the text is formed.
-/

/-! ## Strings -/

theorem hexValue?_of_isHexDigit {char : Char} (digit : isHexDigit char = true) :
    (hexValue? char).isSome = true := by
  simp only [isHexDigit, Bool.or_eq_true, Bool.and_eq_true, decide_eq_true_eq] at digit
  unfold hexValue?
  split
  · rfl
  · split
    · rfl
    · split
      · rfl
      · rename_i notDecimal notSmall notCapital
        rcases digit with (decimal | small) | capital
        · exact absurd decimal notDecimal
        · exact absurd small notSmall
        · exact absurd capital notCapital

theorem readUnit_hexDigits {first second third fourth : Char}
    (digits : [first, second, third, fourth].all isHexDigit = true) (rest : List Char) :
    Exists fun unit => Exists fun shorter =>
      readUnit (first :: second :: third :: fourth :: rest) = .ok (unit, ⟨rest, shorter⟩) := by
  simp only [List.all_cons, List.all_nil, Bool.and_true, Bool.and_eq_true] at digits
  rcases Option.isSome_iff_exists.mp (hexValue?_of_isHexDigit digits.1) with ⟨one, firstValue⟩
  rcases Option.isSome_iff_exists.mp (hexValue?_of_isHexDigit digits.2.1) with ⟨two, secondValue⟩
  rcases Option.isSome_iff_exists.mp (hexValue?_of_isHexDigit digits.2.2.1) with
    ⟨three, thirdValue⟩
  rcases Option.isSome_iff_exists.mp (hexValue?_of_isHexDigit digits.2.2.2) with
    ⟨four, fourthValue⟩
  have unit : hexUnit? first second third fourth =
      some (((one * 16 + two) * 16 + three) * 16 + four) := by
    simp [hexUnit?, firstValue, secondValue, thirdValue, fourthValue]
  rcases readUnit_digits unit rest with ⟨shorter, read⟩
  exact ⟨_, shorter, read⟩

theorem shortEscape?_of_mem {letter : Char}
    (known : letter ∈ ['"', '\\', '/', 'b', 'f', 'n', 'r', 't']) :
    (shortEscape? letter).isSome = true := by
  simp only [List.mem_cons, List.not_mem_nil, or_false] at known
  rcases known with rfl | rfl | rfl | rfl | rfl | rfl | rfl | rfl <;> rfl

/-- One character within quotes is passed over. -/
theorem skipQuoted_quotedChar {outer : List Char} {spelling : List Char}
    (quoted : QuotedChar spelling) (rest : List Char)
    (shorter : (spelling ++ rest).length < outer.length) :
    Exists fun nearer : rest.length < outer.length =>
      @skipQuoted outer ⟨spelling ++ rest, shorter⟩ = skipQuoted ⟨rest, nearer⟩ := by
  have nearer : rest.length < outer.length := by
    rw [List.length_append] at shorter
    omega
  refine ⟨nearer, ?_⟩
  cases quoted with
  | raw char notQuote notBackslash notControl =>
      simp only [List.cons_append, List.nil_append]
      rw [skipQuoted, if_neg notQuote, if_neg notBackslash, if_neg (Nat.not_lt.mpr notControl)]
  | short letter known =>
      rcases Option.isSome_iff_exists.mp (shortEscape?_of_mem known) with ⟨char, escape⟩
      simp only [List.cons_append, List.nil_append]
      rw [skipQuoted, if_neg (by decide), if_pos rfl]
      simp [skipEscaped, escape, Shorter.tail, Shorter.within]
  | unit first second third fourth digits =>
      rcases readUnit_hexDigits digits rest with ⟨unit, behind, read⟩
      simp only [List.cons_append, List.nil_append]
      rw [skipQuoted, if_neg (by decide), if_pos rfl]
      simp [skipEscaped, shortEscape?, read, Shorter.within]

theorem skipQuoted_quotedChars {spelling : List Char} (quoted : QuotedChars spelling)
    {outer : List Char} (rest : List Char)
    (shorter : (spelling ++ '"' :: rest).length < outer.length) :
    Exists fun nearer : rest.length < outer.length =>
      @skipQuoted outer ⟨spelling ++ '"' :: rest, shorter⟩ = .ok ⟨rest, nearer⟩ := by
  induction quoted with
  | nil =>
      refine ⟨Nat.lt_trans (Nat.lt_succ_self _) shorter, ?_⟩
      simp only [List.nil_append]
      rw [skipQuoted, if_pos rfl]
  | cons head tail inductionHypothesis =>
      simp only [List.append_assoc] at shorter ⊢
      rcases skipQuoted_quotedChar head _ shorter with ⟨nearer, headSkipped⟩
      rcases inductionHypothesis nearer with ⟨left, tailSkipped⟩
      exact ⟨left, headSkipped.trans tailSkipped⟩

/-- The characters of a string are passed over behind its opening quote. -/
theorem QuotedText.skip {text : List Char} (quoted : QuotedText text) (rest : List Char) :
    Exists fun behind : Shorter (text ++ rest) => Exists fun shorter =>
      token? (text ++ rest) = some ('"', behind) ∧ skipQuoted behind = .ok ⟨rest, shorter⟩ := by
  cases quoted with
  | @mk opening chars token quoted =>
      rw [List.append_assoc, List.append_assoc, List.singleton_append]
      rcases token?_append token rfl (chars ++ '"' :: rest) with ⟨shorter, next⟩
      rcases skipQuoted_quotedChars quoted rest shorter with ⟨nearer, skipped⟩
      exact ⟨_, nearer, next, skipped⟩

/-! ## Numbers -/

def endsDigits : List Char -> Bool
  | [] => true
  | next :: _ => !next.isDigit

theorem endsDigits_of_endsNumber {text : List Char} (ends : endsNumber text = true) :
    endsDigits text = true := by
  cases text with
  | nil => rfl
  | cons next rest =>
      simp only [endsNumber, Bool.not_eq_true', Bool.or_eq_false_iff] at ends
      simp only [endsDigits, Bool.not_eq_true']
      exact ends.1.1

theorem dropWhile_digits {digits rest : List Char} (isDigits : IsDigits digits)
    (ends : endsDigits rest = true) : (digits ++ rest).dropWhile Char.isDigit = rest := by
  rw [List.dropWhile_append_of_pos isDigits.2]
  cases rest with
  | nil => rfl
  | cons next rest =>
      rw [List.dropWhile_cons_of_neg]
      simpa only [endsDigits, Bool.not_eq_true', Bool.not_eq_true] using ends

theorem skipDigits_append {digits rest : List Char} (isDigits : IsDigits digits)
    (ends : endsDigits rest = true) :
    Exists fun shorter => skipDigits (digits ++ rest) = .ok ⟨rest, shorter⟩ := by
  have left := dropWhile_digits isDigits ends
  cases digits with
  | nil => exact absurd rfl isDigits.1
  | cons first others =>
      have digit : first.isDigit = true := isDigits.2 first List.mem_cons_self
      rw [List.cons_append, List.dropWhile_cons_of_pos digit] at left
      refine ⟨by simp only [List.length_append, List.length_cons]; omega, ?_⟩
      simp [skipDigits, digit, left]

theorem skipIntegral_of_ne {first : Char} (notZero : first ≠ '0') (others : List Char) :
    skipIntegral (first :: others) = skipDigits (first :: others) := by
  rw [skipIntegral]
  intro next rest same
  exact notZero (List.cons.inj same).1

theorem skipIntegral_append {integral rest : List Char} (front : Integral integral)
    (ends : endsDigits rest = true) :
    Exists fun shorter => skipIntegral (integral ++ rest) = .ok ⟨rest, shorter⟩ := by
  cases front with
  | zero =>
      refine ⟨Nat.lt_succ_self _, ?_⟩
      cases rest with
      | nil => rfl
      | cons next rest =>
          have stops : next.isDigit = false := by
            simpa only [endsDigits, Bool.not_eq_true'] using ends
          simp [skipIntegral, stops, Shorter.tail]
  | @digits first others isDigits notZero =>
      rcases skipDigits_append isDigits ends with ⟨shorter, skipped⟩
      exact ⟨shorter, (skipIntegral_of_ne notZero _).trans skipped⟩

theorem skipSigned_of_isDigit {first : Char} (digit : first.isDigit = true)
    (others : List Char) : skipSigned (first :: others) = skipDigits (first :: others) := by
  have unsigned : first ≠ '+' ∧ first ≠ '-' := by
    constructor <;> rintro rfl <;> cases digit
  simp [skipSigned, unsigned]

theorem skipSigned_append {sign digits rest : List Char}
    (isSign : sign = [] ∨ sign = ['+'] ∨ sign = ['-']) (isDigits : IsDigits digits)
    (ends : endsDigits rest = true) :
    Exists fun shorter => skipSigned (sign ++ (digits ++ rest)) = .ok ⟨rest, shorter⟩ := by
  rcases skipDigits_append isDigits ends with ⟨shorter, skipped⟩
  rcases isSign with rfl | rfl | rfl
  · cases digits with
    | nil => exact absurd rfl isDigits.1
    | cons first others =>
        have digit : first.isDigit = true := isDigits.2 first List.mem_cons_self
        exact ⟨shorter, (skipSigned_of_isDigit digit _).trans skipped⟩
  all_goals
    refine ⟨Nat.lt_succ_of_lt shorter, ?_⟩
    simp [skipSigned, skipped, Except.map, Shorter.within]

theorem skipExponent_append {exponent rest : List Char} (back : Exponent exponent)
    (ends : endsNumber rest = true) :
    Exists fun noLonger => skipExponent (exponent ++ rest) = .ok ⟨rest, noLonger⟩ := by
  cases back with
  | none =>
      refine ⟨Nat.le_refl _, ?_⟩
      cases rest with
      | nil => rfl
      | cons next rest =>
          simp only [endsNumber, Bool.not_eq_true', Bool.or_eq_false_iff] at ends
          simp [skipExponent, ends.2]
  | @some mark sign digits isMark isSign isDigits =>
      rcases skipSigned_append isSign isDigits (endsDigits_of_endsNumber ends) with
        ⟨shorter, skipped⟩
      have marks : isExponentMark mark = true := by
        rcases isMark with rfl | rfl <;> rfl
      rw [List.cons_append, List.append_assoc]
      refine ⟨Nat.le_succ_of_le (Nat.le_of_lt shorter), ?_⟩
      simp [skipExponent, marks, skipped, Except.map]

theorem endsDigits_exponent {exponent rest : List Char} (back : Exponent exponent)
    (ends : endsNumber rest = true) : endsDigits (exponent ++ rest) = true := by
  cases back with
  | none => exact endsDigits_of_endsNumber ends
  | some isMark _ _ => rcases isMark with rfl | rfl <;> rfl

/-- Without a fraction there is no point: neither an exponent begins with one nor
what follows a number. -/
theorem skipFraction_exponent {exponent rest : List Char} (back : Exponent exponent)
    (ends : endsNumber rest = true) :
    skipFraction (exponent ++ rest) = skipExponent (exponent ++ rest) := by
  rw [skipFraction]
  intro behind point
  cases back with
  | none =>
      rw [List.nil_append] at point
      rw [point] at ends
      cases ends
  | some isMark _ _ =>
      have same := (List.cons.inj point).1
      rcases isMark with rfl | rfl <;> cases same

theorem skipFraction_append {fraction exponent rest : List Char} (middle : Fraction fraction)
    (back : Exponent exponent) (ends : endsNumber rest = true) :
    Exists fun noLonger =>
      skipFraction (fraction ++ (exponent ++ rest)) = .ok ⟨rest, noLonger⟩ := by
  rcases skipExponent_append back ends with ⟨noLonger, skipped⟩
  cases middle with
  | none => exact ⟨noLonger, (skipFraction_exponent back ends).trans skipped⟩
  | some isDigits =>
      rcases skipDigits_append isDigits (endsDigits_exponent back ends) with ⟨shorter, digits⟩
      refine ⟨Nat.le_succ_of_le (Nat.le_of_lt (Nat.lt_of_le_of_lt noLonger shorter)), ?_⟩
      simp [skipFraction, digits, skipped, Except.map]

theorem endsDigits_fraction {fraction exponent rest : List Char} (middle : Fraction fraction)
    (back : Exponent exponent) (ends : endsNumber rest = true) :
    endsDigits (fraction ++ (exponent ++ rest)) = true := by
  cases middle with
  | none =>
      rw [List.nil_append]
      exact endsDigits_exponent back ends
  | some _ => rfl

theorem skipNumber_append {text rest : List Char} (unsigned : Unsigned text)
    (ends : endsNumber rest = true) :
    Exists fun shorter => skipNumber (text ++ rest) = .ok ⟨rest, shorter⟩ := by
  cases unsigned with
  | mk front middle back =>
      rw [List.append_assoc, List.append_assoc]
      rcases skipIntegral_append front (endsDigits_fraction middle back ends) with
        ⟨shorter, integral⟩
      rcases skipFraction_append middle back ends with ⟨noLonger, skipped⟩
      refine ⟨Nat.lt_of_le_of_lt noLonger shorter, ?_⟩
      simp [skipNumber, integral, skipped, Except.map, Shorter.upTo]

/-! ## Places -/

/-- The machine goes from one place to another, at least by one step, and takes
what stands between two points of a text. -/
inductive Passes : Place -> List Char -> Option Place -> List Char -> Prop where
  | last {place : Place} {text rest : List Char} {next : Option Place}
      {shorter : rest.length < text.length}
      (step : skipStep place text = .ok (next, ⟨rest, shorter⟩)) : Passes place text next rest
  | more {place middle : Place} {text between rest : List Char} {next : Option Place}
      {shorter : between.length < text.length}
      (step : skipStep place text = .ok (some middle, ⟨between, shorter⟩))
      (others : Passes middle between next rest) : Passes place text next rest

namespace Passes

variable {place middle : Place} {text between rest : List Char} {next : Option Place}

theorem trans (first : Passes place text (some middle) between)
    (second : Passes middle between next rest) : Passes place text next rest := by
  generalize target : some middle = reached at first
  induction first with
  | last step =>
      subst target
      exact .more step second
  | more step _ inductionHypothesis => exact .more step (inductionHypothesis second target)

/-- Only the first step depends on where the machine begins. -/
theorem congr {other : Place} (same : skipStep other text = skipStep place text)
    (passes : Passes place text next rest) : Passes other text next rest := by
  cases passes with
  | last step => exact .last (same.trans step)
  | more step others => exact .more (same.trans step) others

/-- The machine comes to its end. -/
theorem skipFrom_eq (passes : Passes place text none rest) {outer : List Char}
    (shorter : text.length < outer.length) :
    Exists fun nearer => @skipFrom outer place ⟨text, shorter⟩ = .ok ⟨rest, nearer⟩ := by
  generalize target : (none : Option Place) = reached at passes
  induction passes with
  | @last place text rest next behind step =>
      subst target
      refine ⟨Nat.lt_trans behind shorter, ?_⟩
      rw [skipFrom]
      simp only [step]
      rfl
  | @more place middle text between rest next behind step others inductionHypothesis =>
      rcases inductionHypothesis (Nat.lt_trans behind shorter) target with ⟨nearer, skipped⟩
      refine ⟨nearer, ?_⟩
      rw [skipFrom]
      simp only [step]
      exact skipped

theorem skipValue_eq (passes : Passes (.value []) text none rest) :
    Exists fun shorter => skipValue text = .ok ⟨rest, shorter⟩ := by
  cases passes with
  | @last _ _ _ _ shorter step =>
      refine ⟨shorter, ?_⟩
      rw [skipValue, step]
  | more step others =>
      rcases others.skipFrom_eq _ with ⟨shorter, skipped⟩
      refine ⟨shorter, ?_⟩
      rw [skipValue, step]
      exact skipped

end Passes

/-! ## Values without brackets -/

theorem word_append (letters rest : List Char) :
    Exists fun noLonger => word letters (letters ++ rest) = .ok ⟨rest, noLonger⟩ := by
  induction letters with
  | nil => exact ⟨Nat.le_refl _, rfl⟩
  | cons letter letters inductionHypothesis =>
      rcases inductionHypothesis with ⟨noLonger, read⟩
      refine ⟨Nat.le_succ_of_le noLonger, ?_⟩
      simp [word, read]

/-- A value that begins with a token is passed over according to this token. -/
theorem skipStep_token {char : Char} {opening : List Char} (token : Token char opening)
    (visible : isSpace char = false) (outer : List Bracket) (behind : List Char) :
    Exists fun shorter : behind.length < (opening ++ behind).length =>
      skipStep (.value outer) (opening ++ behind) = skipHead outer char ⟨behind, shorter⟩ := by
  rcases token?_append token visible behind with ⟨shorter, next⟩
  refine ⟨shorter, ?_⟩
  simp [skipStep, next]

theorem skipHead_word {first : Char} {others : List Char} (known : IsWord first others)
    (outer : List Bracket) (rest : List Char) {text : List Char}
    (shorter : (others ++ rest).length < text.length) :
    Exists fun nearer => skipHead outer first (⟨others ++ rest, shorter⟩ : Shorter text) =
      .ok (Place.behind? outer, ⟨rest, nearer⟩) := by
  rcases word_append others rest with ⟨noLonger, read⟩
  refine ⟨Nat.lt_of_le_of_lt noLonger shorter, ?_⟩
  cases known <;> simp only [skipHead, Char.reduceEq, if_true, if_false, read] <;> rfl

theorem skipHead_negative {number : List Char} (unsigned : Unsigned number)
    (outer : List Bracket) {rest : List Char} (ends : endsNumber rest = true) {text : List Char}
    (shorter : (number ++ rest).length < text.length) :
    Exists fun nearer => skipHead outer '-' (⟨number ++ rest, shorter⟩ : Shorter text) =
      .ok (Place.behind? outer, ⟨rest, nearer⟩) := by
  rcases skipNumber_append unsigned ends with ⟨nearer, skipped⟩
  refine ⟨Nat.lt_trans nearer shorter, ?_⟩
  simp only [skipHead, Char.reduceEq, if_true, if_false, skipped]
  rfl

theorem skipHead_digit {digit : Char} (isDigit : digit.isDigit = true) {others rest : List Char}
    (unsigned : Unsigned (digit :: others)) (outer : List Bracket)
    (ends : endsNumber rest = true) {text : List Char}
    (shorter : (others ++ rest).length < text.length) :
    Exists fun nearer => skipHead outer digit (⟨others ++ rest, shorter⟩ : Shorter text) =
      .ok (Place.behind? outer, ⟨rest, nearer⟩) := by
  rcases skipNumber_append unsigned ends with ⟨nearer, skipped⟩
  have apart : digit ≠ 'n' ∧ digit ≠ 't' ∧ digit ≠ 'f' ∧ digit ≠ '-' ∧ digit ≠ '"' ∧
      digit ≠ '[' ∧ digit ≠ '\x7b' := by
    refine ⟨?_, ?_, ?_, ?_, ?_, ?_, ?_⟩ <;> rintro rfl <;> cases isDigit
  refine ⟨Nat.lt_of_le_of_lt (Nat.le_of_lt_succ nearer) shorter, ?_⟩
  simp only [List.cons_append] at skipped
  simp [skipHead, apart, isDigit, skipped, Except.map, Shorter.upTo]

/-! ## Values within brackets -/

/-- Where the machine stands within a bracket, before or behind the first
element. -/
def Place.within (bracket : Bracket) (outer : List Bracket) (first : Bool) : Place :=
  if first then .opened bracket outer else .complete bracket outer

theorem skipStep_close {bracket : Bracket} {closing : List Char}
    (token : Token bracket.closing closing) (outer : List Bracket) (first : Bool)
    (rest : List Char) :
    Exists fun shorter => skipStep (Place.within bracket outer first) (closing ++ rest) =
      .ok (Place.behind? outer, ⟨rest, shorter⟩) := by
  have visible : isSpace bracket.closing = false := by
    cases bracket <;> rfl
  rcases token?_append token visible rest with ⟨shorter, next⟩
  refine ⟨shorter, ?_⟩
  cases first <;> simp [Place.within, skipStep, next]

/-- All elements up to the closing bracket are passed over if each of them is,
behind the opening bracket or behind a comma. -/
theorem passes_joined (bracket : Bracket) {outer : List Bracket} {elements : List (List Char)}
    (each : forall element, element ∈ elements -> forall first comma rest,
      Comma first comma -> endsNumber rest = true ->
        Passes (Place.within bracket outer first) (comma ++ (element ++ rest))
          (some (.complete bracket outer)) rest)
    {first : Bool} {inner : List Char} (joined : Joined bracket.closing first elements inner)
    (rest : List Char) :
    Passes (Place.within bracket outer first) (inner ++ rest) (Place.behind? outer) rest := by
  have ends (behind : List Char) : endsNumber (bracket.closing :: behind) = true := by
    cases bracket <;> rfl
  induction joined with
  | @close first text token =>
      rcases skipStep_close token outer first rest with ⟨shorter, step⟩
      exact .last step
  | @next first comma inner others separator element tail inductionHypothesis =>
      rw [List.append_assoc, List.append_assoc]
      have head := each element List.mem_cons_self first comma (inner ++ rest) separator
        (endsNumber_joined tail ends rest)
      exact head.trans (inductionHypothesis fun other member =>
        each other (List.mem_cons_of_mem _ member))

theorem skipKey_append {key colon : List Char} (quoted : QuotedText key) (token : Token ':' colon)
    (rest : List Char) :
    Exists fun shorter => skipKey (key ++ (colon ++ rest)) = .ok ⟨rest, shorter⟩ := by
  rcases quoted.skip (colon ++ rest) with ⟨behind, shorter, next, skipped⟩
  rcases colon_append token rest with ⟨nearer, read⟩
  refine ⟨Nat.lt_trans nearer shorter, ?_⟩
  simp [skipKey, next, skipped, read, Except.map, Shorter.within]

/-- Every value can be an item of a list. -/
theorem Wellformed.starts {text : List Char} (wellformed : Wellformed text) : Starts text := by
  cases wellformed with
  | word token known => cases known <;> exact .mk token rfl (by decide) _
  | @number gap number blank numeral =>
      cases numeral with
      | positive unsigned =>
          rcases unsigned.exists_cons with ⟨digit, others, rfl, isDigit⟩
          rw [← List.singleton_append, ← List.append_assoc]
          refine .mk (.mk blank) (isSpace_of_isDigit isDigit) ?_ others
          rintro rfl
          cases isDigit
      | @negative text _ =>
          rw [← List.singleton_append, ← List.append_assoc]
          exact .mk (.mk blank) rfl (by decide) text
  | string quoted =>
      cases quoted with
      | mk token _ => exact .mk token rfl (by decide) _
  | list token _ _ => exact .mk token rfl (by decide) _
  | object token _ _ _ _ => exact .mk token rfl (by decide) _

/-- An item is passed over like any other value, since it does not begin with
the bracket that closes the list. -/
theorem skipStep_item {item : List Char} (starts : Starts item) (outer : List Bracket)
    (rest : List Char) :
    skipStep (.opened .list outer) (item ++ rest) =
      skipStep (.value (.list :: outer)) (item ++ rest) := by
  cases starts with
  | @mk char opening token visible notClosing behind =>
      rw [List.append_assoc]
      rcases token?_append token visible (behind ++ rest) with ⟨shorter, next⟩
      simp [skipStep, next, Bracket.closing, notClosing]

/-- A comma in a list is passed over. -/
theorem skipStep_comma {comma : List Char} (token : Token ',' comma) (outer : List Bracket)
    (rest : List Char) :
    Exists fun shorter => skipStep (.complete .list outer) (comma ++ rest) =
      .ok (some (.value (.list :: outer)), ⟨rest, shorter⟩) := by
  rcases token?_append token rfl rest with ⟨shorter, next⟩
  refine ⟨shorter, ?_⟩
  simp [skipStep, next, Bracket.closing]

/-- A key is passed over with the comma in front of it, if there is one, and
with the colon behind it. -/
theorem skipStep_key {first : Bool} {comma key colon : List Char} (separator : Comma first comma)
    (quoted : QuotedText key) (token : Token ':' colon) (outer : List Bracket)
    (rest : List Char) :
    Exists fun shorter =>
      skipStep (Place.within .object outer first) (comma ++ (key ++ (colon ++ rest))) =
        .ok (some (.value (.object :: outer)), ⟨rest, shorter⟩) := by
  rcases skipKey_append quoted token rest with ⟨shorter, skipped⟩
  cases separator with
  | none =>
      rcases quoted.skip (colon ++ rest) with ⟨behind, _, next, _⟩
      refine ⟨shorter, ?_⟩
      simp [Place.within, skipStep, next, Bracket.closing, skipped, Except.map]
  | some separator =>
      rcases token?_append separator rfl (key ++ (colon ++ rest)) with ⟨nearer, separated⟩
      refine ⟨Nat.lt_trans shorter nearer, ?_⟩
      simp [Place.within, skipStep, separated, Bracket.closing, skipped, Except.map,
        Shorter.within]

/-- Every well-formed value is passed over, whatever brackets are open. -/
theorem Wellformed.passes {text : List Char} (wellformed : Wellformed text)
    (outer : List Bracket) {rest : List Char} (ends : endsNumber rest = true) :
    Passes (.value outer) (text ++ rest) (Place.behind? outer) rest := by
  induction wellformed generalizing outer rest with
  | @word first opening others token known =>
      have visible : isSpace first = false := by
        cases known <;> rfl
      rw [List.append_assoc]
      rcases skipStep_token token visible outer (others ++ rest) with ⟨shorter, step⟩
      rcases skipHead_word known outer rest shorter with ⟨nearer, skipped⟩
      exact .last (step.trans skipped)
  | @number gap number blank numeral =>
      cases numeral with
      | positive unsigned =>
          rcases unsigned.exists_cons with ⟨digit, others, rfl, isDigit⟩
          rw [← List.singleton_append, ← List.append_assoc, List.append_assoc]
          rcases skipStep_token (.mk blank) (isSpace_of_isDigit isDigit) outer (others ++ rest) with
            ⟨shorter, step⟩
          rcases skipHead_digit isDigit unsigned outer ends shorter with ⟨nearer, skipped⟩
          exact .last (step.trans skipped)
      | @negative text unsigned =>
          rw [← List.singleton_append, ← List.append_assoc, List.append_assoc]
          have minus : Token '-' (gap ++ ['-']) := .mk blank
          rcases skipStep_token minus rfl outer (text ++ rest) with ⟨shorter, step⟩
          rcases skipHead_negative unsigned outer ends shorter with ⟨nearer, skipped⟩
          exact .last (step.trans skipped)
  | @string text quoted =>
      rcases quoted.skip rest with ⟨behind, shorter, next, skipped⟩
      have step : skipStep (.value outer) (text ++ rest) =
          .ok (Place.behind? outer, ⟨rest, shorter⟩) := by
        simp [skipStep, next, skipHead, skipped, Except.map]
      exact .last step
  | @list opening inner items token wellformed joined inductionHypothesis =>
      rw [List.append_assoc]
      rcases skipStep_token token rfl outer (inner ++ rest) with ⟨shorter, opened⟩
      refine .more (opened.trans rfl) ?_
      refine passes_joined .list ?_ joined rest
      intro item member first comma behind separator follows
      have passes := inductionHypothesis item member (.list :: outer) follows
      cases separator with
      | none => exact passes.congr (skipStep_item (wellformed item member).starts outer behind)
      | some separator =>
          rcases skipStep_comma separator outer (item ++ behind) with ⟨nearer, step⟩
          exact .more step passes
  | @object opening inner members token quoted colons wellformed joined inductionHypothesis =>
      rw [List.append_assoc]
      rcases skipStep_token token rfl outer (inner ++ rest) with ⟨shorter, opened⟩
      refine .more (opened.trans rfl) ?_
      refine passes_joined .object ?_ joined rest
      intro element listed first comma behind separator follows
      rcases List.mem_map.mp listed with ⟨member, among, rfl⟩
      have passes := inductionHypothesis member among (.object :: outer) follows
      rw [MemberText.whole, List.append_assoc, List.append_assoc]
      rcases skipStep_key separator (quoted member among) (colons member among) outer
        (member.value ++ behind) with ⟨nearer, step⟩
      exact .more step passes

/-- A well-formed value is passed over in front of everything that may follow
it. -/
theorem skipValue_append {text rest : List Char} (wellformed : Wellformed text)
    (ends : endsNumber rest = true) :
    Exists fun shorter => skipValue (text ++ rest) = .ok ⟨rest, shorter⟩ :=
  (wellformed.passes [] ends).skipValue_eq

/-- A member is passed over if its value is. -/
theorem Wellformed.skip {σ : Type} {member : MemberReader σ} {key : String}
    {colon text : List Char} (wellformed : Wellformed text) (token : Token ':' colon) {state : σ}
    (skips : forall text, member state key text =
      (skipField text).map fun rest => (state, rest)) :
    ReadsBefore (member state key) (colon ++ text) state := by
  intro rest ends
  rw [List.append_assoc]
  rcases colon_append token (text ++ rest) with ⟨shorter, next⟩
  rcases skipValue_append wellformed ends with ⟨nearer, skipped⟩
  refine ⟨Nat.lt_trans nearer shorter, ?_⟩
  simp [skips, skipField, next, skipped, Except.map, Shorter.within]

end Json
end Recase
