-- SUMMARY: Digits on a fixed number of places, and text that trimming leaves alone.
import Mathlib.Algebra.Ring.Nat
import RelMap.Text.Blank
import RelMap.Text.Digits

/-!
# Padded digits

A number that is written on a fixed number of places fills them and is read back, the leading
zeros included. Text that starts and ends with characters that are not blank is its own trimming.
-/
namespace RelMap

namespace Digits

variable {width n : Nat}

theorem length_ofNat_le (hwidth : 0 < width) (h : n < 10 ^ width) :
    (ofNat n).length ≤ width :=
  (Nat.length_toDigits_le_iff (by decide) hwidth).mpr h

theorem length_padded (hwidth : 0 < width) (h : n < 10 ^ width) :
    (padded width n).length = width := by
  have hle := length_ofNat_le hwidth h
  simp only [padded, List.length_append, List.length_replicate]
  omega

theorem le_length_padded (width n : Nat) : width ≤ (padded width n).length := by
  simp only [padded, List.length_append, List.length_replicate]
  omega

theorem isDigit_of_mem_padded {c : Char} (h : c ∈ padded width n) : c.isDigit = true := by
  rcases List.mem_append.mp h with hzero | hdigit
  · rw [(List.mem_replicate.mp hzero).2]
    rfl
  · exact isDigit_of_mem_ofNat hdigit

theorem padded_ne_nil (width n : Nat) : padded width n ≠ [] := by
  intro h
  exact ofNat_ne_nil n (List.append_eq_nil_iff.mp h).2

@[simp] theorem toNat?_padded (width n : Nat) : toNat? (padded width n) = some n := by
  have hall : (padded width n).all Char.isDigit = true :=
    List.all_eq_true.mpr fun _ h => isDigit_of_mem_padded h
  rw [toNat?, if_pos ⟨padded_ne_nil width n, hall⟩, padded, Nat.ofDigitChars_append,
    Nat.ofDigitChars_replicate_zero, Nat.mul_zero]
  exact congrArg some (Nat.ofDigitChars_toDigits (by decide) (by decide))

end Digits

namespace Text

theorem trimStart_cons {c : Char} (h : isBlank c = false) (cs : List Char) :
    trimStart (c :: cs) = c :: cs := by
  simp [trimStart, h]

theorem trimEnd_append_singleton {c : Char} (h : isBlank c = false) (cs : List Char) :
    trimEnd (cs ++ [c]) = cs ++ [c] := by
  simp [trimEnd, h]

/-- Trimming keeps a first character that is not blank. -/
theorem exists_trim_cons {c : Char} (h : isBlank c = false) (cs : List Char) :
    ∃ cs', trim (c :: cs) = c :: cs' := by
  rw [trim, trimStart_cons h, trimEnd, List.reverse_cons, List.dropWhile_append]
  split
  · exact ⟨[], by simp [h]⟩
  · exact ⟨(cs.reverse.dropWhile isBlank).reverse, by simp⟩

/-- Text without blanks is its own trimming. -/
theorem trim_of_forall {cs : List Char} (h : ∀ c ∈ cs, isBlank c = false) : trim cs = cs := by
  have hstart : trimStart cs = cs := by
    cases cs with
    | nil => rfl
    | cons c cs => exact trimStart_cons (h c (.head _)) cs
  rw [trim, hstart]
  rcases List.eq_nil_or_concat cs with rfl | ⟨front, c, rfl⟩
  · rfl
  · rw [List.concat_eq_append] at h ⊢
    exact trimEnd_append_singleton (h c (List.mem_append_right _ (.head _))) front

theorem isBlank_of_isDigit {c : Char} (h : c.isDigit = true) : isBlank c = false := by
  have hlow : 48 ≤ c.toNat := by
    simp only [Char.isDigit, Bool.and_eq_true, decide_eq_true_eq] at h
    exact h.1
  have hhigh : c.toNat ≤ 57 := by
    simp only [Char.isDigit, Bool.and_eq_true, decide_eq_true_eq] at h
    exact h.2
  simp only [isBlank, Bool.or_eq_false_iff, Bool.and_eq_false_iff, decide_eq_false_iff_not,
    beq_eq_false_iff_ne]
  omega

/-- The digits of an integer have no blanks around them. -/
theorem trim_ofInt (n : Int) : trim (Digits.ofInt n) = Digits.ofInt n := by
  have hdigits {m : Nat} : ∀ c ∈ Digits.ofNat m, isBlank c = false := fun _ hc =>
    isBlank_of_isDigit (Digits.isDigit_of_mem_ofNat hc)
  cases n with
  | ofNat n => exact trim_of_forall hdigits
  | negSucc n => exact trim_of_forall (List.forall_mem_cons.mpr ⟨rfl, hdigits⟩)

end Text

end RelMap
