-- SUMMARY: The shortest decimal that a floating-point magnitude is the nearest to.
import RelMap.Number.Binary

/-!
# Shortest decimals

`BinaryFormat.shortest` finds the fewest significant digits that read back as a
given magnitude. On each decimal grid, from one digit upwards, it looks at the
two neighbours of the exact value: the first grid with a neighbour that rounds
to the magnitude wins, of two such neighbours the nearer, and of two equally
near ones the greater.
-/
namespace RelMap

/-- The decimal `digits` times ten to the power `exponent`. -/
structure Decimal where
  digits : Nat
  exponent : Int
  deriving DecidableEq, Repr

/-- Ten to an exponent; one if the exponent is negative. -/
def Decimal.tenTo (exponent : Int) : Nat := Nat.pow 10 exponent.toNat

namespace BinaryFormat

variable (f : BinaryFormat)

/-- Twice the magnitude number `k`, in units. -/
def twice (k : Nat) : Nat := 2 * f.units k

/-- Twice the value midway to the magnitude below. -/
def lowEnd (k : Nat) : Nat := f.units (k - 1) + f.units k

/-- Twice the value midway to the magnitude above. -/
def highEnd (k : Nat) : Nat := f.units k + f.units (k + 1)

/-- Whether `num / den`, twice a value in units, rounds to magnitude `k`. The two
ends do when the significand is even. -/
def roundsTo (k num den : Nat) : Bool :=
  if f.significand k % 2 = 0 then f.lowEnd k * den ≤ num ∧ num ≤ f.highEnd k * den
  else f.lowEnd k * den < num ∧ num < f.highEnd k * den

/-- The exponent `e` with `10 ^ e ≤ num / den < 10 ^ (e + 1)`, found from `guess`
upwards in at most `fuel` steps. -/
def decade (num den : Nat) : Nat → Int → Int
  | 0, guess => guess
  | fuel + 1, guess =>
    let next := guess + 1
    if num * Decimal.tenTo (-next) < den * Decimal.tenTo next then guess
    else decade num den fuel next

/-- A guess for `decade` that is never too high and at most two too low. -/
def decadeGuess (num den : Nat) : Int :=
  let bits : Int := Nat.log2 num - Nat.log2 den - 1
  bits * 1233 / 4096 - 1

/-- The two neighbours of magnitude `k` on the grid of the multiples of
`10 ^ exponent`, tested as the module says. -/
def onGrid? (k : Nat) (exponent : Int) : Option Decimal :=
  let up := Decimal.tenTo exponent
  let down := Decimal.tenTo (-exponent)
  -- twice the value, in steps of the grid, is `num / den`
  let num := f.twice k * down
  let den := up <<< f.fraction
  let below := num / (2 * den)
  let admits (n : Nat) := f.roundsTo k (2 * n * den) down
  match admits below, admits (below + 1) with
  | true, false => some ⟨below, exponent⟩
  | false, true => some ⟨below + 1, exponent⟩
  | true, true =>
    some ⟨if num < (2 * below + 1) * den then below else below + 1, exponent⟩
  | false, false => none

/-- Try grids that are finer by one digit each time. -/
def finer (k : Nat) : Nat → Int → Decimal
  | 0, exponent => ⟨(f.twice k * Decimal.tenTo (-exponent)) >>> (f.fraction + 1), exponent⟩
  | fuel + 1, exponent =>
    match f.onGrid? k exponent with
    | some d => d
    | none => finer k fuel (exponent - 1)

/-- Move trailing zeros from the digits into the exponent. -/
def stripZeros : Nat → Decimal → Decimal
  | 0, d => d
  | fuel + 1, d =>
    if d.digits ≠ 0 ∧ d.digits % 10 = 0 then stripZeros fuel ⟨d.digits / 10, d.exponent + 1⟩
    else d

/-- The shortest decimal that reads back as the positive finite magnitude `k`. -/
def shortest (k : Nat) : Decimal :=
  let num := f.units k
  let den := 1 <<< f.fraction
  let top := decade num den 4 (decadeGuess num den)
  stripZeros 18 (f.finer k 17 top)

end BinaryFormat

end RelMap
