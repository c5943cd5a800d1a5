-- SUMMARY: The text of a small floating-point number is long.
import Mathlib.Tactic.Ring
import RelMap.Number.FloatText
import RelMap.Proofs.Number.Rounding

/-!
# Texts of small numbers

The shortest decimal of a number lies between the midpoints to its neighbours, so a number that
is far below one has a decimal with a low exponent. Positional notation spells it out. Main
statement: the text of a positive number below `10 ^ -m` has more than `m + 2` characters.
-/
namespace RelMap

open Decimal (tenTo)

namespace Decimal

theorem tenTo_of_nonpos {e : Int} (h : e ≤ 0) : tenTo e = 1 := by
  rw [tenTo, Int.toNat_of_nonpos h]

theorem tenTo_succ {e : Int} (h : 0 ≤ e) : tenTo (e + 1) = 10 * tenTo e := by
  have hsucc : (e + 1).toNat = e.toNat + 1 := by omega
  rw [tenTo, tenTo, hsucc]
  exact Nat.pow_succ'

theorem tenTo_pos (e : Int) : 0 < tenTo e := Nat.pow_pos (by decide)

end Decimal

namespace BinaryFormat

variable {f : BinaryFormat} {k num den : Nat} {e : Int} {d : Decimal}

/-! ## Between the midpoints -/

theorem le_of_roundsTo (h : f.roundsTo k num den = true) :
    f.lowEnd k * den ≤ num ∧ num ≤ f.highEnd k * den := by
  unfold roundsTo at h
  split at h
  · exact of_decide_eq_true h
  · have hlt := of_decide_eq_true h
    exact ⟨Nat.le_of_lt hlt.1, Nat.le_of_lt hlt.2⟩

theorem roundsTo_of_onGrid? (h : f.onGrid? k e = some d) :
    d.exponent = e ∧
      f.roundsTo k (2 * d.digits * (tenTo e <<< f.fraction)) (tenTo (-e)) = true := by
  unfold onGrid? at h
  dsimp only at h
  split at h
  · next hbelow _ => cases h; exact ⟨rfl, hbelow⟩
  · next _ habove => cases h; exact ⟨rfl, habove⟩
  · next hbelow habove =>
    cases h
    refine ⟨rfl, ?_⟩
    dsimp only
    split
    · exact hbelow
    · exact habove
  · cases h

/-! ## Decimals of small numbers -/

/-- The decimal is at most `high / 2`, in units of which `one` make one, and zero only on a
fine grid. -/
structure AtMost (high one : Nat) (d : Decimal) : Prop where
  le : 2 * d.digits * tenTo d.exponent * one ≤ high * tenTo (-d.exponent)
  zero : d.digits = 0 → d.exponent ≤ -15

variable {high one : Nat}

theorem AtMost.stripZeros (h : AtMost high one d) (fuel : Nat) :
    AtMost high one (stripZeros fuel d) := by
  induction fuel generalizing d with
  | zero => exact h
  | succ fuel ih =>
    rw [BinaryFormat.stripZeros]
    split
    · next hzeros =>
      refine ih ⟨?_, fun hzero => absurd hzero (show d.digits / 10 ≠ 0 by omega)⟩
      obtain ⟨n, hn⟩ : ∃ n, d.digits = 10 * n := ⟨d.digits / 10, by omega⟩
      have hle := h.le
      rw [hn] at hle
      rw [hn, Nat.mul_div_cancel_left n (by decide)]
      dsimp only
      -- below one the power of ten stands on the right and loses a zero, above one it stands
      -- on the left and takes up the zero that the digits lose
      rcases Int.lt_or_le d.exponent 0 with hneg | hpos
      · have hten := Decimal.tenTo_succ (show 0 ≤ -(d.exponent + 1) by omega)
        rw [show -(d.exponent + 1) + 1 = -d.exponent by omega] at hten
        rw [hten, Decimal.tenTo_of_nonpos (Int.le_of_lt hneg)] at hle
        rw [Decimal.tenTo_of_nonpos (show d.exponent + 1 ≤ 0 by omega)]
        refine Nat.le_of_mul_le_mul_left ?_ (show 0 < 10 by decide)
        calc 10 * (2 * n * 1 * one) = 2 * (10 * n) * 1 * one := by ring
          _ ≤ high * (10 * tenTo (-(d.exponent + 1))) := hle
          _ = 10 * (high * tenTo (-(d.exponent + 1))) := by ring
      · rw [Decimal.tenTo_of_nonpos (show -d.exponent ≤ 0 by omega)] at hle
        rw [Decimal.tenTo_of_nonpos (show -(d.exponent + 1) ≤ 0 by omega),
          Decimal.tenTo_succ hpos]
        calc 2 * n * (10 * tenTo d.exponent) * one
            = 2 * (10 * n) * tenTo d.exponent * one := by ring
          _ ≤ high * 1 := hle
    · exact h

theorem decade_le (fuel : Nat) (guess : Int) : decade num den fuel guess ≤ guess + fuel := by
  induction fuel generalizing guess with
  | zero => simp [decade]
  | succ fuel ih =>
    rw [decade]
    split
    · omega
    · have hnext := ih (guess + 1)
      omega

theorem decadeGuess_le (h : num ≤ den) : decadeGuess num den ≤ -2 := by
  have hlog : Nat.log2 num ≤ Nat.log2 den := by
    by_cases hzero : num = 0
    · rw [hzero]
      exact Nat.zero_le _
    · exact (Nat.le_log2 (by omega)).mpr (Nat.le_trans (Nat.log2_self_le hzero) h)
  unfold decadeGuess
  dsimp only
  omega

/-- On the grids that are tried a small number has a neighbour that is at most as large. -/
theorem finer_atMost (hlow : 0 < f.lowEnd k) (hhigh : f.highEnd k ≤ high)
    (htwice : f.twice k ≤ high) {fuel : Nat} (he : e - fuel ≤ -15) :
    AtMost high (2 ^ f.fraction) (f.finer k fuel e) := by
  induction fuel generalizing e with
  | zero =>
    refine ⟨?_, fun _ => by simpa [finer] using he⟩
    have hdigits := Nat.div_mul_le_self (f.twice k * tenTo (-e)) (2 ^ (f.fraction + 1))
    have hone : tenTo e = 1 := Decimal.tenTo_of_nonpos (by omega)
    rw [finer, hone, Nat.shiftRight_eq_div_pow]
    calc _ = f.twice k * tenTo (-e) / 2 ^ (f.fraction + 1) * 2 ^ (f.fraction + 1) := by
          rw [Nat.pow_succ]; ring
      _ ≤ f.twice k * tenTo (-e) := hdigits
      _ ≤ high * tenTo (-e) := Nat.mul_le_mul_right _ htwice
  | succ fuel ih =>
    rw [finer]
    cases hgrid : f.onGrid? k e with
    | none => exact ih (by omega)
    | some d =>
      obtain ⟨rfl, hrounds⟩ := roundsTo_of_onGrid? hgrid
      obtain ⟨hge, hle⟩ := le_of_roundsTo hrounds
      rw [Nat.shiftLeft_eq, ← Nat.mul_assoc] at hge hle
      refine ⟨Nat.le_trans hle (Nat.mul_le_mul_right _ hhigh), fun hzero => ?_⟩
      rw [hzero] at hge
      have hpos := Nat.mul_pos hlow (Decimal.tenTo_pos (-d.exponent))
      omega

/-- The exponent of a decimal is low where its value is. -/
theorem AtMost.lt_neg_exponent {m : Nat} (h : AtMost high one d) (hm : m < 15)
    (hhigh : high * 10 ^ m < 2 * one) : (m : Int) < -d.exponent := by
  by_cases hzero : d.digits = 0
  · have := h.zero hzero
    omega
  · refine Int.not_le.mp fun hle => ?_
    have hten : tenTo (-d.exponent) ≤ 10 ^ m := by
      rw [tenTo]
      exact Nat.pow_le_pow_right (by decide) (by omega)
    have hone : 1 ≤ d.digits * tenTo d.exponent :=
      Nat.mul_pos (by omega) (Decimal.tenTo_pos d.exponent)
    have hdouble : 2 * one ≤ 2 * (d.digits * tenTo d.exponent) * one :=
      Nat.mul_le_mul_right one (by omega)
    have hbound := calc 2 * one
        ≤ 2 * (d.digits * tenTo d.exponent) * one := hdouble
      _ = 2 * d.digits * tenTo d.exponent * one := by ring
      _ ≤ high * tenTo (-d.exponent) := h.le
      _ ≤ high * 10 ^ m := Nat.mul_le_mul_left high hten
    omega

end BinaryFormat

/-! ## Texts -/

/-- Positional notation has a place for each digit after the point. -/
theorem Decimal.length_positional {d : Decimal} {m : Nat} (h : (m : Int) < -d.exponent) :
    m + 2 < (d.positional 0).length := by
  unfold positional
  dsimp only
  split
  · simp only [List.length_append, List.length_cons, List.length_replicate]
    omega
  · rw [if_neg (by omega)]
    simp only [List.length_append, List.length_cons, List.length_take, List.length_drop]
    omega

theorem Decimal.exists_positional (d : Decimal) :
    ∃ c cs, d.positional 0 = c :: cs ∧ c.isDigit = true := by
  unfold positional
  dsimp only
  split
  · exact ⟨_, _, rfl, rfl⟩
  · next hpoint =>
    obtain ⟨c, cs, hcs⟩ := List.exists_cons_of_ne_nil (Digits.ofNat_ne_nil d.digits)
    have hc : c.isDigit = true := Digits.isDigit_of_mem_ofNat (hcs ▸ List.mem_cons_self)
    split
    · rw [hcs]
      exact ⟨c, _, rfl, hc⟩
    · obtain ⟨n, hn⟩ : ∃ n, ((Digits.ofNat d.digits).length + d.exponent).toNat = n + 1 :=
        ⟨((Digits.ofNat d.digits).length + d.exponent).toNat - 1, by omega⟩
      rw [hn, hcs]
      exact ⟨c, _, rfl, hc⟩

theorem BinaryFormat.shortest_atMost {f : BinaryFormat} {k high : Nat} (hlow : 0 < f.lowEnd k)
    (hhigh : f.highEnd k ≤ high) (htwice : f.twice k ≤ high) (hsmall : high < 2 * 2 ^ f.fraction) :
    AtMost high (2 ^ f.fraction) (f.shortest k) := by
  refine AtMost.stripZeros (finer_atMost hlow hhigh htwice ?_) 18
  have hle : f.units k ≤ 1 <<< f.fraction := by
    rw [Nat.one_shiftLeft]
    unfold twice at htwice
    omega
  have hguess := decadeGuess_le hle
  have hdecade : decade (f.units k) (1 <<< f.fraction) 4 _ ≤ _ := decade_le 4
    (decadeGuess (f.units k) (1 <<< f.fraction))
  omega

namespace BinaryFormat

variable {f : BinaryFormat} {k s : Nat}

theorem shift_mono {j : Nat} (h : j ≤ k) : f.shift j ≤ f.shift k := by
  have hle : j / f.unit ≤ k / f.unit := Nat.div_le_div_right h
  rw [shift_eq, shift_eq]
  omega

theorem units_pos (hk : 0 < k) : 0 < f.units k := by
  have hunit := f.unit_pos
  rw [units, Nat.shiftLeft_eq, significand_eq]
  refine Nat.mul_pos ?_ (Nat.two_pow_pos _)
  split <;> omega

theorem units_le (hp : 0 < f.precision) (hs : f.shift k ≤ s) :
    f.units k ≤ 2 ^ (f.precision + s) := by
  have hunit := f.two_mul_unit hp
  have hsignificand : f.significand k ≤ 2 ^ f.precision := by
    have hmod := Nat.mod_lt k f.unit_pos
    rw [significand_eq]
    split <;> omega
  rw [units, Nat.shiftLeft_eq, Nat.pow_add]
  exact Nat.mul_le_mul hsignificand (Nat.pow_le_pow_right (by decide) hs)

end BinaryFormat

/-- The text of a small positive number has a place for each of its zeros. -/
theorem Binary.length_text_of_small {f : BinaryFormat} {k s m : Nat} (hp : 0 < f.precision)
    (hpos : 0 < k) (hk : k < f.infinity) (hs : f.shift (k + 1) ≤ s) (hm : m < 15)
    (hsmall : f.precision + s + 4 * m < f.fraction) :
    m + 2 < (Binary.signed (f := f) false k (Nat.le_of_lt hk)).text.length := by
  have hshift : f.shift k ≤ s := Nat.le_trans (BinaryFormat.shift_mono (Nat.le_succ k)) hs
  have hunits := BinaryFormat.units_le hp hshift
  have hnext := BinaryFormat.units_le hp hs
  have hlow : 0 < f.lowEnd k := Nat.lt_add_left _ (BinaryFormat.units_pos hpos)
  have hhigh : f.highEnd k ≤ 2 * 2 ^ (f.precision + s) := by
    unfold BinaryFormat.highEnd
    omega
  have htwice : f.twice k ≤ 2 * 2 ^ (f.precision + s) := Nat.mul_le_mul_left 2 hunits
  have hscaled : 2 * 2 ^ (f.precision + s) * 10 ^ m < 2 * 2 ^ f.fraction := by
    calc 2 * 2 ^ (f.precision + s) * 10 ^ m
        ≤ 2 * 2 ^ (f.precision + s) * (2 ^ 4) ^ m :=
          Nat.mul_le_mul_left _ (Nat.pow_le_pow_left (by decide) m)
      _ = 2 * 2 ^ (f.precision + s + 4 * m) := by
          rw [← Nat.pow_mul, Nat.mul_assoc, ← Nat.pow_add]
      _ < 2 * 2 ^ f.fraction :=
          Nat.mul_lt_mul_of_pos_left (Nat.pow_lt_pow_right (by decide) hsmall) (by decide)
  have hone : 2 * 2 ^ (f.precision + s) < 2 * 2 ^ f.fraction :=
    Nat.lt_of_le_of_lt (Nat.le_mul_of_pos_right _ (Nat.pow_pos (by decide))) hscaled
  have hshortest := BinaryFormat.shortest_atMost hlow hhigh htwice hone
  have hlength := Decimal.length_positional (hshortest.lt_neg_exponent hm hscaled)
  rw [text, textWith, if_neg (Nat.ne_of_gt hpos), if_neg (Nat.ne_of_lt hk)]
  exact hlength

/-- The text of a number is a short word, or starts with the sign of the number or with a
digit. -/
theorem Binary.text_cases {f : BinaryFormat} (x : Binary f) :
    (∃ word ∈ ["NaN", "inf", "0"], x.text = word.toList) ∨
      (∃ k hk cs, x = .signed true k hk ∧ x.text = '-' :: cs) ∨
      ∃ k hk c cs, x = .signed false k hk ∧ 0 < k ∧ k < f.infinity ∧ x.text = c :: cs ∧
        c.isDigit = true := by
  cases x with
  | nan => exact .inl ⟨"NaN", by decide, rfl⟩
  | signed negative k hk =>
    cases negative with
    | true => exact .inr (.inl ⟨k, hk, _, rfl, rfl⟩)
    | false =>
      by_cases hzero : k = 0
      · exact .inl ⟨"0", by decide, by subst hzero; rfl⟩
      · by_cases hinf : k = f.infinity
        · exact .inl ⟨"inf", by decide, by rw [text, textWith, if_neg hzero, if_pos hinf]; rfl⟩
        · obtain ⟨c, cs, hcs, hc⟩ := (f.shortest k).exists_positional
          refine .inr (.inr ⟨k, hk, c, cs, rfl, by omega, by omega, ?_, hc⟩)
          rw [text, textWith, if_neg hzero, if_neg hinf]
          exact hcs

end RelMap
