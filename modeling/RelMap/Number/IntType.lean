-- SUMMARY: The eight fixed-width integer types and the integers they hold.

/-!
# Fixed-width integers

An `IntType` is a width and a signedness, and holds the integers between its
`min` and its `max`. A `FixedInt` is an integer together with a type that holds
it, so that no arithmetic on it can wrap unseen.
-/
namespace RelMap

/-- A signed or unsigned integer type of 8, 16, 32 or 64 bits. -/
inductive IntType where
  | i8 | i16 | i32 | i64 | u8 | u16 | u32 | u64
  deriving DecidableEq, Repr

namespace IntType

/-- The number of bits. -/
def bits : IntType → Nat
  | .i8 | .u8 => 8
  | .i16 | .u16 => 16
  | .i32 | .u32 => 32
  | .i64 | .u64 => 64

/-- Whether the type has negative integers. -/
def signed : IntType → Bool
  | .i8 | .i16 | .i32 | .i64 => true
  | .u8 | .u16 | .u32 | .u64 => false

/-- The least integer of the type. -/
def min : IntType → Int
  | .i8 => -0x80
  | .i16 => -0x8000
  | .i32 => -0x80000000
  | .i64 => -0x8000000000000000
  | .u8 | .u16 | .u32 | .u64 => 0

/-- The greatest integer of the type. -/
def max : IntType → Int
  | .i8 => 0x7F
  | .i16 => 0x7FFF
  | .i32 => 0x7FFFFFFF
  | .i64 => 0x7FFFFFFFFFFFFFFF
  | .u8 => 0xFF
  | .u16 => 0xFFFF
  | .u32 => 0xFFFFFFFF
  | .u64 => 0xFFFFFFFFFFFFFFFF

/-- How many integers the type has. -/
def count : IntType → Int
  | .i8 | .u8 => 0x100
  | .i16 | .u16 => 0x10000
  | .i32 | .u32 => 0x100000000
  | .i64 | .u64 => 0x10000000000000000

/-- The type holds the integers of its range. -/
def Holds (t : IntType) (n : Int) : Prop := t.min ≤ n ∧ n ≤ t.max

instance (t : IntType) (n : Int) : Decidable (t.Holds n) :=
  inferInstanceAs (Decidable (_ ∧ _))

/-- The name of the type: `i8` and so on. -/
def name : IntType → String
  | .i8 => "i8" | .i16 => "i16" | .i32 => "i32" | .i64 => "i64"
  | .u8 => "u8" | .u16 => "u16" | .u32 => "u32" | .u64 => "u64"

/-- The name with a capital letter, as values of the type are labelled. -/
def label : IntType → String
  | .i8 => "I8" | .i16 => "I16" | .i32 => "I32" | .i64 => "I64"
  | .u8 => "U8" | .u16 => "U16" | .u32 => "U32" | .u64 => "U64"

theorem holds_zero (t : IntType) : t.Holds 0 := by cases t <;> decide

end IntType

/-- An integer of one of the fixed-width types. -/
structure FixedInt where
  type : IntType
  val : Int
  holds : type.Holds val
  deriving DecidableEq

namespace FixedInt

/-- The integer `n` at type `t`, if `t` holds it. -/
def ofInt? (t : IntType) (n : Int) : Option FixedInt :=
  if h : t.Holds n then some ⟨t, n, h⟩ else none

/-- The zero of a type. -/
def zero (t : IntType) : FixedInt := ⟨t, 0, t.holds_zero⟩

/-- The integer of a type that equals `n` modulo the number of its integers. -/
def wrap (t : IntType) (n : Int) : FixedInt :=
  ⟨t, t.min + (n - t.min) % t.count, by
    cases t <;> simp only [IntType.Holds, IntType.min, IntType.max, IntType.count] <;> omega⟩

/-- A natural number that is given as a 64-bit word. -/
def ofWord (n : UInt64) : FixedInt :=
  ⟨.u64, n.toNat, by
    have := n.toNat_lt
    simp only [IntType.Holds, IntType.min, IntType.max]
    omega⟩

/-- An integer that is given as a 64-bit word with a sign. -/
def ofInt64 (n : Int64) : FixedInt :=
  ⟨.i64, n.toInt, by
    have := n.le_toInt
    have := n.toInt_lt
    simp only [IntType.Holds, IntType.min, IntType.max]
    omega⟩

theorem ofInt?_eq_some_iff {t : IntType} {n : Int} {x : FixedInt} :
    ofInt? t n = some x ↔ x.type = t ∧ x.val = n := by
  unfold ofInt?
  split
  · next h =>
    constructor
    · rintro ⟨⟩; exact ⟨rfl, rfl⟩
    · rintro ⟨rfl, rfl⟩; rfl
  · next h =>
    simp only [reduceCtorEq, false_iff, not_and]
    rintro rfl rfl
    exact h x.holds

theorem ofInt?_eq_none_iff {t : IntType} {n : Int} : ofInt? t n = none ↔ ¬ t.Holds n := by
  unfold ofInt?
  split <;> simp_all

/-- An integer that the type holds is not changed. -/
theorem wrap_val_of_holds {t : IntType} {n : Int} (h : t.Holds n) : (wrap t n).val = n := by
  revert h
  cases t <;> simp only [IntType.Holds, IntType.min, IntType.max, IntType.count, wrap] <;> omega

@[simp] theorem ofInt?_val (x : FixedInt) : ofInt? x.type x.val = some x :=
  ofInt?_eq_some_iff.2 ⟨rfl, rfl⟩

end FixedInt

end RelMap
