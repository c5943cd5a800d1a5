-- SUMMARY: Decimal notation of natural numbers and of integers.

/-!
# Decimal notation

`ofNat` writes a natural number without leading zeros, `toNat?` reads any
non-empty run of ASCII digits. `toInt?` adds the sign that a signed or unsigned
reader admits. Main statement: what is written is read back.
-/
namespace RelMap.Digits

/-- The decimal digits of a natural number, most significant first. -/
def ofNat (n : Nat) : List Char := Nat.toDigits 10 n

/-- The decimal digits of an integer, a negative one after a minus sign. -/
def ofInt : Int → List Char
  | .ofNat n => ofNat n
  | .negSucc n => '-' :: ofNat (n + 1)

/-- `ofNat` as a string. -/
def natText (n : Nat) : String := String.ofList (ofNat n)

/-- `ofInt` as a string. -/
def intText (n : Int) : String := String.ofList (ofInt n)

/-- Read a non-empty run of ASCII digits, leading zeros allowed. -/
def toNat? (cs : List Char) : Option Nat :=
  if cs ≠ [] ∧ cs.all Char.isDigit then some (Nat.ofDigitChars 10 cs 0) else none

/-- Read a run of digits after an optional plus sign, or, where `signed` allows
it, after a minus sign. -/
def toInt? (signed : Bool) : List Char → Option Int
  | '+' :: cs => (toNat? cs).map Int.ofNat
  | '-' :: cs => if signed then (toNat? cs).map (fun n => -Int.ofNat n) else none
  | cs => (toNat? cs).map Int.ofNat

/-- The digits of `n` on exactly `width` places, for `n < 10 ^ width`. -/
def padded (width n : Nat) : List Char :=
  List.replicate (width - (ofNat n).length) '0' ++ ofNat n

/-! ## Reading back -/

theorem ofNat_ne_nil (n : Nat) : ofNat n ≠ [] := by
  unfold ofNat
  rcases Nat.lt_or_ge n 10 with h | h
  · simp [Nat.toDigits_of_lt_base h]
  · simp [Nat.toDigits_of_base_le (by decide : 1 < 10) h]

theorem isDigit_of_mem_ofNat {n : Nat} {c : Char} (h : c ∈ ofNat n) : c.isDigit = true :=
  Nat.isDigit_of_mem_toDigits (by decide) (by decide) h

@[simp] theorem toNat?_ofNat (n : Nat) : toNat? (ofNat n) = some n := by
  have hall : (ofNat n).all Char.isDigit = true :=
    List.all_eq_true.2 fun _ h => isDigit_of_mem_ofNat h
  rw [toNat?, if_pos ⟨ofNat_ne_nil n, hall⟩]
  simp [ofNat]

theorem toInt?_of_digit {signed : Bool} {c : Char} {cs : List Char} (h : c.isDigit = true) :
    toInt? signed (c :: cs) = (toNat? (c :: cs)).map Int.ofNat := by
  unfold toInt?
  split
  · next heq => cases heq; exact absurd h (by decide)
  · next heq => cases heq; exact absurd h (by decide)
  · rfl

theorem toInt?_ofNat (signed : Bool) (n : Nat) : toInt? signed (ofNat n) = some (n : Int) := by
  obtain ⟨c, cs, hcs⟩ := List.exists_cons_of_ne_nil (ofNat_ne_nil n)
  have hc : c.isDigit = true := isDigit_of_mem_ofNat (n := n) (by simp [hcs])
  rw [hcs, toInt?_of_digit hc, ← hcs, toNat?_ofNat]
  rfl

/-- A signed reader reads back every integer. -/
theorem toInt?_ofInt (n : Int) : toInt? true (ofInt n) = some n := by
  cases n with
  | ofNat n => exact toInt?_ofNat true n
  | negSucc n =>
    simp only [ofInt, toInt?, if_true, toNat?_ofNat, Option.map_some]
    rfl

end RelMap.Digits
