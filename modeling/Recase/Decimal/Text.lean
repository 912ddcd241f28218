import Recase.Decimal.Shortest

namespace Recase
namespace Decimal

/-!
# The text of a double precision number

A number is shown by its shortest decimal.  The decimal point is written
where it belongs if that takes at most sixteen digits before it, or at most
four zeros directly behind it, and there is always a digit on either side of
it.  Otherwise the point follows the first digit, if there is a second one,
and the power of ten is given with its sign.
-/

/-- The characters of a power of ten behind its mark. -/
def powerChars (power : Int) : List Char :=
  (if power < 0 then '-' else '+') :: Nat.toDigits 10 power.natAbs

def chars (decimal : Decimal) : List Char :=
  let digits := Nat.toDigits 10 decimal.digits
  let point := decimal.exponent + digits.length
  if 0 <= decimal.exponent ∧ point <= 16 then
    digits ++ List.replicate decimal.exponent.toNat '0' ++ ['.', '0']
  else if 0 < point ∧ point <= 16 then
    digits.take point.toNat ++ '.' :: digits.drop point.toNat
  else if -5 < point ∧ point <= 0 then
    '0' :: '.' :: List.replicate (-point).toNat '0' ++ digits
  else
    digits.take 1 ++ (if digits.length = 1 then [] else '.' :: digits.drop 1) ++
      'e' :: powerChars (point - 1)

/-- The text of a finite number, from the bits that represent it: the sign,
eleven bits of the exponent and fifty-two of the mantissa.  The least exponent
is that of the numbers without a leading one in the mantissa. -/
def ofBits (bits : Nat) : String :=
  let fraction := bits % Nat.pow 2 52
  let exponent := bits / Nat.pow 2 52 % Nat.pow 2 11
  let sign := if bits / Nat.pow 2 63 % 2 = 1 then ['-'] else []
  let mantissa := if exponent = 0 then fraction else fraction + Nat.pow 2 52
  let scale : Int := Int.ofNat (if exponent = 0 then 1 else exponent) - 1075
  String.ofList <| sign ++
    if mantissa = 0 then ['0', '.', '0']
    else (shortest mantissa scale (fraction == 0 && decide (1 < exponent))).chars

def text (value : Float) : String :=
  ofBits value.toBits.toNat

end Decimal
end Recase
