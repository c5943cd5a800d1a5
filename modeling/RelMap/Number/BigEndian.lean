-- SUMMARY: Integers as a fixed number of bytes, the highest first.

/-!
# Big-endian integers

`ofNat` writes the low bytes of a natural number and `ofInt` those of an integer
in two's complement. `toNat` reads them back: what is kept is the residue modulo
the number of all such bytes.
-/
namespace RelMap.BigEndian

/-- The lowest `width` bytes of a natural number, the highest first. -/
def ofNat : Nat → Nat → List UInt8
  | 0, _ => []
  | width + 1, n => ofNat width (n / 256) ++ [UInt8.ofNat n]

/-- The natural number that bytes are the digits of. -/
def toNat (b : List UInt8) : Nat := b.foldl (fun n d => n * 256 + d.toNat) 0

/-- How many numbers have `width` bytes. -/
def count : Nat → Nat
  | 0 => 1
  | width + 1 => 256 * count width

/-- The lowest `width` bytes of an integer in two's complement. -/
def ofInt (width : Nat) (n : Int) : List UInt8 := ofNat width (n % count width).toNat

/-! ## Laws -/

theorem count_pos (width : Nat) : 0 < count width := by
  induction width with
  | zero => decide
  | succ width ih => rw [count]; omega

@[simp] theorem length_ofNat (width n : Nat) : (ofNat width n).length = width := by
  induction width generalizing n with
  | zero => rfl
  | succ width ih => simp [ofNat, ih]

@[simp] theorem length_ofInt (width : Nat) (n : Int) : (ofInt width n).length = width :=
  length_ofNat ..

@[simp] theorem toNat_append_singleton (b : List UInt8) (d : UInt8) :
    toNat (b ++ [d]) = toNat b * 256 + d.toNat := by
  simp [toNat]

@[simp] theorem toNat_ofNat (width n : Nat) : toNat (ofNat width n) = n % count width := by
  induction width generalizing n with
  | zero => simp [ofNat, toNat, count, Nat.mod_one]
  | succ width ih =>
    rw [ofNat, toNat_append_singleton, ih, UInt8.toNat_ofNat', count, Nat.mod_mul]
    omega

/-- What is read back of an integer is its residue. -/
@[simp] theorem toNat_ofInt (width : Nat) (n : Int) :
    (toNat (ofInt width n) : Int) = n % count width := by
  have hpos := count_pos width
  have hlow := Int.emod_nonneg n (show (count width : Int) ≠ 0 by omega)
  have hhigh := Int.emod_lt_of_pos n (show (0 : Int) < count width by omega)
  rw [ofInt, toNat_ofNat, Nat.mod_eq_of_lt (by omega), Int.toNat_of_nonneg hlow]

end RelMap.BigEndian
