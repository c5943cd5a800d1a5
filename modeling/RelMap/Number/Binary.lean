-- SUMMARY: Binary floating-point numbers and the rounding of rationals to them.
import RelMap.Number.IntType

/-!
# Binary floating point

A `BinaryFormat` fixes how many bits a significand has and the weight of the
least bit. A `Binary` number of the format is NaN or a sign with a magnitude.
Magnitudes are numbered in ascending order from zero to infinity: number `k`
counts the steps from zero, which is also the bit pattern without the sign.

`BinaryFormat.round` rounds a quotient of naturals to the nearest magnitude, a
tie to the even one. Every conversion here is one such rounding.
-/
namespace RelMap

/-- A binary interchange format. -/
structure BinaryFormat where
  /-- Bits of a normal significand, the leading one included. -/
  precision : Nat
  /-- The least positive magnitude is two to the minus `fraction`. -/
  fraction : Nat
  /-- The number of the infinite magnitude. -/
  infinity : Nat
  deriving DecidableEq

namespace BinaryFormat

/-- The format on 32 bits. -/
def single : BinaryFormat := ⟨24, 149, 0x7F800000⟩

/-- The format on 64 bits. -/
def double : BinaryFormat := ⟨53, 1074, 0x7FF0000000000000⟩

/-- The finite magnitude number `k` is `significand k` times two to the power
`shift k`, counted in units of the least positive magnitude. -/
def significand (f : BinaryFormat) (k : Nat) : Nat :=
  let unit := 1 <<< (f.precision - 1)
  if k < unit then k else unit + k % unit

/-- See `significand`. -/
def shift (f : BinaryFormat) (k : Nat) : Nat := (k >>> (f.precision - 1)) - 1

/-- The magnitude number `k` in units of the least positive magnitude. -/
def units (f : BinaryFormat) (k : Nat) : Nat := f.significand k <<< f.shift k

/-- The quotient rounded to the nearest natural number, a tie to the even one. -/
def divEven (num den : Nat) : Nat :=
  let q := num / den
  let twice := 2 * (num % den)
  if twice < den then q
  else if den < twice then q + 1
  else if q % 2 = 0 then q else q + 1

/-- The least shift that brings `num / den` below two to the `precision`. -/
def shiftFor (f : BinaryFormat) (num den : Nat) : Nat :=
  let guess := Nat.log2 num - Nat.log2 den - f.precision
  if num < den <<< (f.precision + guess) then guess else guess + 1

/-- The number of the magnitude nearest to `num / den`, which is counted in
units of the least positive magnitude. -/
def roundUnits (f : BinaryFormat) (num den : Nat) : Nat :=
  let s := f.shiftFor num den
  Nat.min f.infinity ((s <<< (f.precision - 1)) + divEven num (den <<< s))

/-- The number of the magnitude nearest to `num / den`. -/
def round (f : BinaryFormat) (num den : Nat) : Nat := f.roundUnits (num <<< f.fraction) den

theorem roundUnits_le (f : BinaryFormat) (num den : Nat) : f.roundUnits num den ≤ f.infinity :=
  Nat.min_le_left ..

end BinaryFormat

/-- A floating-point number. All NaNs are one. -/
inductive Binary (f : BinaryFormat) where
  | nan
  | signed (negative : Bool) (magnitude : Nat) (le : magnitude ≤ f.infinity)
  deriving DecidableEq

abbrev Binary32 := Binary .single
abbrev Binary64 := Binary .double

namespace Binary

variable {f : BinaryFormat}

/-- Positive zero. -/
def zero : Binary f := .signed false 0 (Nat.zero_le _)

/-- An infinity. -/
def infinite (negative : Bool) : Binary f := .signed negative f.infinity (Nat.le_refl _)

/-- The number nearest to `num / den`, with the given sign. -/
def ofRatio (negative : Bool) (num den : Nat) : Binary f :=
  .signed negative (f.round num den) (f.roundUnits_le ..)

/-- The number nearest to an integer. -/
def ofInt (n : Int) : Binary f := ofRatio (decide (n < 0)) n.natAbs 1

/-- Both zeros are zero, and nothing else is. -/
def isZero : Binary f → Bool
  | .nan => false
  | .signed _ k _ => k == 0

/-- The integer that the number equals. -/
def integer? : Binary f → Option Int
  | .nan => none
  | .signed neg k _ =>
    let n := f.units k >>> f.fraction
    if k < f.infinity ∧ n <<< f.fraction = f.units k then some (if neg then -n else n) else none

/-- The number of format `g` nearest to a number of format `f`. -/
def convert (g : BinaryFormat) : Binary f → Binary g
  | .nan => .nan
  | .signed neg k _ =>
    if k = f.infinity then infinite neg
    else .signed neg (g.roundUnits (f.units k <<< g.fraction) (1 <<< f.fraction))
      (g.roundUnits_le ..)

/-- A 32-bit number on 64 bits. -/
def widen : Binary32 → Binary64 := convert .double

/-- A 64-bit number rounded to 32 bits. -/
def narrow : Binary64 → Binary32 := convert .single

/-! ## Bit patterns -/

/-- The number with the given sign bit and remaining bits: past infinity there
are only NaNs. -/
def ofMagnitude (negative : Bool) (k : Nat) : Binary f :=
  if h : k ≤ f.infinity then .signed negative k h else .nan

end Binary

namespace Binary32

/-- Decode a bit pattern. -/
def ofBits (b : UInt32) : Binary32 :=
  Binary.ofMagnitude (decide (b.toNat ≥ 0x80000000)) (b.toNat % 0x80000000)

/-- The bit pattern; a NaN is positive and quiet. -/
def toBits : Binary32 → UInt32
  | .nan => 0x7FC00000
  | .signed neg k _ => UInt32.ofNat (k + if neg then 0x80000000 else 0)

end Binary32

namespace Binary64

/-- Decode a bit pattern. -/
def ofBits (b : UInt64) : Binary64 :=
  Binary.ofMagnitude (decide (b.toNat ≥ 0x8000000000000000))
    (b.toNat % 0x8000000000000000)

/-- The bit pattern; a NaN is positive and quiet. -/
def toBits : Binary64 → UInt64
  | .nan => 0x7FF8000000000000
  | .signed neg k _ => UInt64.ofNat (k + if neg then 0x8000000000000000 else 0)

end Binary64

end RelMap
