-- SUMMARY: Decimal text of floating-point numbers, written and read.
import RelMap.Number.Shortest
import RelMap.Text.Digits

/-!
# Decimal text of floating-point numbers

`Binary.text` writes the shortest decimal in positional notation, without an
exponent and without a fraction where there is none. `Binary.literalText` always
shows a fraction or an exponent. `Binary64.ofText?` reads an optional sign and
then a decimal with an optional exponent, an infinity or a NaN.
-/
namespace RelMap

namespace Decimal

/-- Positional notation, with at least `places` digits after the point. -/
def positional (d : Decimal) (places : Nat) : List Char :=
  let digits := Digits.ofNat d.digits
  let point : Int := digits.length + d.exponent
  if point ≤ 0 then
    '0' :: '.' :: List.replicate (-point).toNat '0' ++ digits
  else if 0 ≤ d.exponent then
    digits ++ List.replicate d.exponent.toNat '0' ++
      if places = 0 then [] else '.' :: List.replicate places '0'
  else
    digits.take point.toNat ++ '.' :: digits.drop point.toNat

/-- Scientific notation: one digit before the point. -/
def scientific (d : Decimal) : List Char :=
  let digits := Digits.ofNat d.digits
  let exponent := Digits.ofInt (digits.length - 1 + d.exponent)
  match digits with
  | [] => []
  | [c] => c :: 'e' :: exponent
  | c :: cs => c :: '.' :: cs ++ 'e' :: exponent

/-- Literals from `10 ^ 16` on, and those below `10 ^ -4`, are scientific. -/
def isScientific (d : Decimal) : Bool :=
  let point : Int := (Digits.ofNat d.digits).length + d.exponent
  point > 16 || point < -3

end Decimal

namespace Binary

variable {f : BinaryFormat}

/-- Write a sign before an unsigned text. -/
def withSign (negative : Bool) (cs : List Char) : List Char := if negative then '-' :: cs else cs

/-- Write the text of a magnitude, `finite` writing those between zero and
infinity. -/
def textWith (zero : List Char) (finite : Decimal → List Char) : Binary f → List Char
  | .nan => "NaN".toList
  | .signed neg k _ =>
    withSign neg <|
      if k = 0 then zero
      else if k = f.infinity then "inf".toList
      else finite (f.shortest k)

/-- Positional text: the fewest digits that read back, never an exponent. -/
def text (x : Binary f) : List Char := x.textWith ['0'] (·.positional 0)

/-- The text as a literal: a fraction or an exponent is always shown. -/
def literalText (x : Binary f) : List Char :=
  x.textWith ['0', '.', '0'] fun d => if d.isScientific then d.scientific else d.positional 1

end Binary

/-! ## Reading -/

namespace Decimal

/-- Read the exponent part: `e` or `E` and a signed run of digits, or nothing. -/
def exponent? : List Char → Option Int
  | [] => some 0
  | c :: cs => if c = 'e' ∨ c = 'E' then Digits.toInt? true cs else none

/-- Read an unsigned decimal: digits with a point somewhere before, in or after
them, and an optional exponent. At least one digit is needed. -/
def ofText? (cs : List Char) : Option Decimal :=
  let whole := cs.takeWhile Char.isDigit
  let rest := cs.dropWhile Char.isDigit
  let (fraction, tail) := match rest with
    | '.' :: after => (after.takeWhile Char.isDigit, after.dropWhile Char.isDigit)
    | other => ([], other)
  match Digits.toNat? (whole ++ fraction), exponent? tail with
  | some digits, some exponent => some ⟨digits, exponent - fraction.length⟩
  | _, _ => none

/-- The number of digits of a positive natural number. -/
def digitCount (n : Nat) : Nat := (Digits.ofNat n).length

/-- The 64-bit number nearest to a decimal. Decimals beyond every finite number,
and those below half the least one, are settled by their magnitude alone. -/
def toBinary64 (negative : Bool) (d : Decimal) : Binary64 :=
  let top := digitCount d.digits + d.exponent
  if d.digits = 0 ∨ top < -400 then .ofRatio negative 0 1
  else if top > 400 then .infinite negative
  else .ofRatio negative (d.digits * tenTo d.exponent) (tenTo (-d.exponent))

end Decimal

namespace Binary64

/-- Read an unsigned number: a decimal, or `inf`, `infinity` or `nan` in any case. -/
def unsignedOfText? (negative : Bool) (cs : List Char) : Option Binary64 :=
  match Decimal.ofText? cs with
  | some d => some (d.toBinary64 negative)
  | none =>
    let word := String.ofList (cs.map Char.toLower)
    if word = "inf" ∨ word = "infinity" then some (.infinite negative)
    else if word = "nan" then some .nan
    else none

/-- Read a number with an optional sign. -/
def ofText? : List Char → Option Binary64
  | '+' :: cs => unsignedOfText? false cs
  | '-' :: cs => unsignedOfText? true cs
  | cs => unsignedOfText? false cs

end Binary64

end RelMap
