-- SUMMARY: Decimal numerals with signs: which texts are read as an integer, and digit by digit.
import Mathlib.Algebra.Order.Ring.Int
import Mathlib.Tactic.Ring
import RelMap.Proofs.Text.Padding
import RelMap.Number.IntType

/-!
# Numerals

A numeral is a run of digits of any length, after a sign if there is one. Main statements: the
texts that are read as an integer are its numerals, and a reader that takes in one digit after
the other at the width of a type, each step checked, reads a numeral exactly if the type holds
its integer.
-/
namespace RelMap

namespace Digits

/-- The number that a digit stands for. -/
def digit (c : Char) : Nat := c.toNat - '0'.toNat

/-- The number that a run of digits stands for, every digit at its place. -/
def value : List Char → Nat
  | [] => 0
  | c :: cs => digit c * 10 ^ cs.length + value cs

/-- One digit or more and nothing else. -/
structure IsRun (cs : List Char) : Prop where
  ne_nil : cs ≠ []
  isDigit : ∀ c ∈ cs, c.isDigit = true

/-- The texts that spell an integer, in a notation with a minus sign or without one. -/
inductive Numeral (signed : Bool) : List Char → Int → Prop where
  | bare {ds : List Char} (run : IsRun ds) : Numeral signed ds (value ds)
  | plus {ds : List Char} (run : IsRun ds) : Numeral signed ('+' :: ds) (value ds)
  | minus {ds : List Char} (hsigned : signed = true) (run : IsRun ds) :
    Numeral signed ('-' :: ds) (-value ds)

variable {signed negative : Bool} {c : Char} {cs ds : List Char} {n : Nat} {m : Int}

/-! ## Runs of digits -/

theorem ofDigitChars_eq (cs : List Char) (n : Nat) :
    Nat.ofDigitChars 10 cs n = n * 10 ^ cs.length + value cs := by
  induction cs generalizing n with
  | nil => simp [value]
  | cons c cs ih =>
    rw [Nat.ofDigitChars_cons, ih, value, digit, List.length_cons, Nat.pow_succ]
    ring

theorem isRun_iff : IsRun cs ↔ cs ≠ [] ∧ cs.all Char.isDigit = true :=
  ⟨fun h => ⟨h.ne_nil, List.all_eq_true.mpr h.isDigit⟩,
    fun h => ⟨h.1, List.all_eq_true.mp h.2⟩⟩

theorem toNat?_eq_some_iff : toNat? cs = some n ↔ IsRun cs ∧ value cs = n := by
  rw [toNat?, isRun_iff, ofDigitChars_eq, Nat.zero_mul, Nat.zero_add]
  split
  · next h => simp [h]
  · next h => exact iff_of_false (Option.some_ne_none n).symm fun hrun => h hrun.1

theorem IsRun.toNat? (h : IsRun cs) : toNat? cs = some (value cs) :=
  toNat?_eq_some_iff.mpr ⟨h, rfl⟩

theorem isRun_ofNat (n : Nat) : IsRun (ofNat n) :=
  ⟨ofNat_ne_nil n, fun _ h => isDigit_of_mem_ofNat h⟩

theorem isRun_padded (width n : Nat) : IsRun (padded width n) :=
  ⟨padded_ne_nil width n, fun _ h => isDigit_of_mem_padded h⟩

theorem value_padded (width n : Nat) : value (padded width n) = n :=
  (toNat?_eq_some_iff.mp (toNat?_padded width n)).2

theorem IsRun.head_isDigit (h : IsRun (c :: cs)) : c.isDigit = true := h.isDigit c (.head _)

theorem digit_lt (h : c.isDigit = true) : digit c < 10 := by
  simp only [Char.isDigit, Bool.and_eq_true, decide_eq_true_eq] at h
  have hhigh : c.toNat ≤ 57 := h.2
  have hzero : '0'.toNat = 48 := rfl
  rw [digit, hzero]
  omega

/-- A run of digits stands for a number of as many places. -/
theorem value_lt (h : ∀ c ∈ cs, c.isDigit = true) : value cs < 10 ^ cs.length := by
  induction cs with
  | nil => exact Nat.one_pos
  | cons c cs ih =>
    have hrest := ih fun d hd => h d (.tail _ hd)
    have hfirst := Nat.mul_le_mul_right (10 ^ cs.length) (Nat.le_of_lt_succ (digit_lt (h c (.head _))))
    rw [value, List.length_cons, Nat.pow_succ]
    omega

/-- A digit is no sign. -/
theorem ne_sign_of_isDigit (h : c.isDigit = true) : c ≠ '+' ∧ c ≠ '-' :=
  ⟨by rintro rfl; exact absurd h (by decide), by rintro rfl; exact absurd h (by decide)⟩

/-! ## Numerals -/

/-- The texts that are read as an integer are its numerals. -/
theorem toInt?_eq_some_iff : toInt? signed cs = some m ↔ Numeral signed cs m := by
  constructor
  · intro h
    unfold toInt? at h
    split at h
    · obtain ⟨n, hn, rfl⟩ := Option.map_eq_some_iff.mp h
      obtain ⟨hrun, rfl⟩ := toNat?_eq_some_iff.mp hn
      exact .plus hrun
    · split at h
      · next hsigned =>
        obtain ⟨n, hn, rfl⟩ := Option.map_eq_some_iff.mp h
        obtain ⟨hrun, rfl⟩ := toNat?_eq_some_iff.mp hn
        exact .minus hsigned hrun
      · cases h
    · obtain ⟨n, hn, rfl⟩ := Option.map_eq_some_iff.mp h
      obtain ⟨hrun, rfl⟩ := toNat?_eq_some_iff.mp hn
      exact .bare hrun
  · intro h
    cases h with
    | bare run =>
      obtain ⟨c, cs, rfl⟩ := List.exists_cons_of_ne_nil run.ne_nil
      rw [toInt?_of_digit run.head_isDigit, run.toNat?]
      rfl
    | plus run =>
      rw [toInt?, run.toNat?]
      rfl
    | minus hsigned run =>
      rw [toInt?, if_pos hsigned, run.toNat?]
      rfl

/-- There are no blanks in a numeral. -/
theorem Numeral.trim_eq (h : Numeral signed cs m) : Text.trim cs = cs := by
  have hdigits {ds : List Char} (run : IsRun ds) : ∀ c ∈ ds, Text.isBlank c = false :=
    fun c hc => Text.isBlank_of_isDigit (run.isDigit c hc)
  apply Text.trim_of_forall
  cases h with
  | bare run => exact hdigits run
  | plus run => exact List.forall_mem_cons.mpr ⟨rfl, hdigits run⟩
  | minus _ run => exact List.forall_mem_cons.mpr ⟨rfl, hdigits run⟩

/-- The decimal text of an integer is a numeral where it needs no sign that the notation has
not. -/
theorem numeral_ofInt (hsigned : m < 0 → signed = true) : Numeral signed (ofInt m) m := by
  have hvalue (n : Nat) : value (ofNat n) = n := (toNat?_eq_some_iff.mp (toNat?_ofNat n)).2
  cases m with
  | ofNat n =>
    have h : Numeral signed (ofNat n) (value (ofNat n)) := .bare (isRun_ofNat n)
    rwa [hvalue] at h
  | negSucc n =>
    have h : Numeral signed ('-' :: ofNat (n + 1)) (-value (ofNat (n + 1))) :=
      .minus (hsigned (Int.negSucc_lt_zero n)) (isRun_ofNat (n + 1))
    rwa [hvalue] at h

end Digits

/-! ## Digit by digit -/

namespace FixedInt

/-- The number with a further digit at its end. Neither the tenfold nor the sum may leave the
type. -/
def push? (negative : Bool) (x : FixedInt) (digit : Nat) : Option FixedInt :=
  (ofInt? x.type (x.val * 10)).bind fun tenfold =>
    ofInt? x.type (if negative then tenfold.val - digit else tenfold.val + digit)

end FixedInt

namespace IntType

open Digits

/-- The digits taken in one after the other, down from zero or up. -/
def accumulate? (t : IntType) (negative : Bool) (ds : List Char) : Option FixedInt :=
  ds.foldlM (fun x c => if c.isDigit then x.push? negative (digit c) else none) (.zero t)

/-- The integer of the type that a text spells, never beyond the type on the way. A type
without negative integers takes the minus sign for a digit, which it is not. -/
def ofText? (t : IntType) : List Char → Option FixedInt
  | [] | ['+'] | ['-'] => none
  | '+' :: ds => t.accumulate? false ds
  | '-' :: ds => if t.signed then t.accumulate? true ds else t.accumulate? false ('-' :: ds)
  | ds => t.accumulate? false ds

/-- The integer that is so many units away from zero. -/
def toward (negative : Bool) (n : Nat) : Int := if negative then -n else n

variable {t : IntType} {negative : Bool} {n k d : Nat} {x : FixedInt} {c : Char}
  {cs ds : List Char}

/-- A type that holds an integer holds all between it and zero. -/
theorem holds_toward_of_le (hle : k ≤ n) (h : t.Holds (toward negative n)) :
    t.Holds (toward negative k) := by
  obtain ⟨hmin, hmax⟩ := t.holds_zero
  obtain ⟨hlow, hhigh⟩ := h
  cases negative with
  | false =>
    simp only [toward, Bool.false_eq_true, if_false] at hlow hhigh ⊢
    exact ⟨by omega, by omega⟩
  | true =>
    simp only [toward, if_true] at hlow hhigh ⊢
    exact ⟨by omega, by omega⟩

/-- The two steps of a further digit are as good as one. -/
theorem push?_eq (hx : x.val = toward negative k) :
    x.push? negative d = FixedInt.ofInt? x.type (toward negative (k * 10 + d)) := by
  have htenfold : x.val * 10 = toward negative (k * 10) := by
    rw [hx]
    cases negative <;> simp [toward]
  have hsum : (if negative then toward negative (k * 10) - d else toward negative (k * 10) + d) =
      toward negative (k * 10 + d) := by
    cases negative <;> simp [toward]
    omega
  rw [FixedInt.push?, htenfold]
  cases htype : FixedInt.ofInt? x.type (toward negative (k * 10)) with
  | none =>
    have hout := mt (holds_toward_of_le (Nat.le_add_right _ d))
      (FixedInt.ofInt?_eq_none_iff.mp htype)
    rw [FixedInt.ofInt?_eq_none_iff.mpr hout]
    rfl
  | some y => rw [Option.bind_some, (FixedInt.ofInt?_eq_some_iff.mp htype).2, hsum]

/-- Digits after a number that was taken in so far. No digit brings a number back that has left
the type, so it does not matter how often one looks. -/
theorem foldlM_push? (htype : x.type = t) (hx : x.val = toward negative k) :
    ds.foldlM (fun x c => if c.isDigit then x.push? negative (digit c) else none) x =
      if ds.all Char.isDigit then
        FixedInt.ofInt? t (toward negative (k * 10 ^ ds.length + value ds))
      else none := by
  induction ds generalizing x k with
  | nil =>
    have hread := FixedInt.ofInt?_val x
    rw [htype, hx] at hread
    simp [value, hread]
  | cons c ds ih =>
    rw [List.foldlM_cons, List.all_cons]
    by_cases hc : c.isDigit = true
    · have hplaces : k * 10 ^ (c :: ds).length + value (c :: ds) =
          (k * 10 + digit c) * 10 ^ ds.length + value ds := by
        rw [value, List.length_cons, Nat.pow_succ]
        ring
      rw [if_pos hc, push?_eq hx, htype, hplaces, hc, Bool.true_and]
      cases hstep : FixedInt.ofInt? t (toward negative (k * 10 + digit c)) with
      | none =>
        have hle : k * 10 + digit c ≤ (k * 10 + digit c) * 10 ^ ds.length + value ds :=
          Nat.le_add_right_of_le (Nat.le_mul_of_pos_right _ (Nat.pow_pos (by decide)))
        have hout := mt (holds_toward_of_le hle) (FixedInt.ofInt?_eq_none_iff.mp hstep)
        rw [FixedInt.ofInt?_eq_none_iff.mpr hout, ite_self]
        rfl
      | some y =>
        obtain ⟨hytype, hy⟩ := FixedInt.ofInt?_eq_some_iff.mp hstep
        exact ih hytype hy
    · simp [hc]

theorem accumulate?_eq (hne : ds ≠ []) :
    t.accumulate? negative ds = ((toNat? ds).map (toward negative)).bind (FixedInt.ofInt? t) := by
  have hzero : (FixedInt.zero t).val = toward negative 0 := by cases negative <;> rfl
  rw [accumulate?, foldlM_push? rfl hzero, toNat?, ofDigitChars_eq]
  by_cases hall : ds.all Char.isDigit = true
  · rw [if_pos hall, if_pos ⟨hne, hall⟩]
    rfl
  · rw [if_neg hall, if_neg (fun h => hall h.2)]
    rfl

/-- A reader that looks after each digit whether the type holds the number so far reads the
same texts, as the same integers, as one that looks at the end. -/
theorem ofText?_eq (t : IntType) (cs : List Char) :
    t.ofText? cs = (toInt? t.signed cs).bind (FixedInt.ofInt? t) := by
  unfold ofText?
  split
  · rfl
  · rfl
  · cases t.signed <;> rfl
  · next ds hne => exact accumulate?_eq hne
  · next ds hne =>
    cases hsigned : t.signed with
    | true => exact accumulate?_eq hne
    | false =>
      have hminus : toNat? ('-' :: ds) = none := rfl
      rw [if_neg Bool.false_ne_true, accumulate?_eq (List.cons_ne_nil _ _), hminus]
      rfl
  · next hnil _ _ hplus hminus =>
    rw [accumulate?_eq hnil, toInt?]
    · rfl
    · exact hplus
    · exact hminus

end IntType

end RelMap
