-- SUMMARY: No text is the text of the value that its bytes encode at another type.
import RelMap.Coercion
import RelMap.Proofs.Number.FloatText
import RelMap.Proofs.Postgres.Columns
import RelMap.Proofs.Text.Padding

/-!
# Spelling

The bytes of a text, taken as a number, give a number whose own text is another one: digits are
high bytes, so an integer has more digits than it has bytes, and a float has many zeros. Main
statement: bytes that are read at a type of another sort never give back the text.
-/
namespace RelMap

variable {s : String} {c : Char} {cs : List Char} {w : Nat}

/-! ## Integers -/

/-- The first character of a text bounds the number that its bytes encode. -/
theorem Bytes.toNat_ofText_bounds (h : s.toList = c :: cs) (hc : c.toNat < 0x80)
    (hlength : (Bytes.ofText s).length = w + 1) :
    c.toNat * BigEndian.count w ≤ BigEndian.toNat (Bytes.ofText s) ∧
      BigEndian.toNat (Bytes.ofText s) < (c.toNat + 1) * BigEndian.count w := by
  obtain ⟨d, ds, hbytes, -, hd⟩ := exists_ofText_cons h
  have hd : d.toNat = c.toNat := by omega
  rw [hbytes, List.length_cons, Nat.add_right_cancel_iff] at hlength
  have hlt := BigEndian.toNat_lt ds
  rw [hbytes, BigEndian.toNat_cons, hlength, hd, Nat.add_mul]
  rw [hlength] at hlt
  omega

theorem Digits.head_ofInt {n : Int} (h : ofInt n = c :: cs) : 45 ≤ c.toNat ∧ c.toNat < 58 := by
  have hdigit (hc : c.isDigit = true) : 45 ≤ c.toNat ∧ c.toNat < 58 := by
    simp only [Char.isDigit, Bool.and_eq_true, decide_eq_true_eq] at hc
    have hlow : 48 ≤ c.toNat := hc.1
    have hhigh : c.toNat ≤ 57 := hc.2
    omega
  cases n with
  | ofNat n =>
    have hmem : c ∈ ofInt (.ofNat n) := h ▸ List.mem_cons_self
    exact hdigit (isDigit_of_mem_ofNat hmem)
  | negSucc n =>
    cases h
    decide

/-- An integer whose bytes are those of digits has more digits than bytes. -/
theorem Digits.intText_toInt_ne (hw : 10 ^ (w + 1) ≤ 45 * BigEndian.count w)
    (hlength : (Bytes.ofText s).length = w + 1) :
    intText (BigEndian.toInt (Bytes.ofText s)) ≠ s := by
  intro hs
  have htext : s.toList = ofInt (BigEndian.toInt (Bytes.ofText s)) := by
    conv_lhs => rw [← hs]
    exact String.toList_ofList
  obtain ⟨c, cs, hcs⟩ : ∃ c cs, ofInt (BigEndian.toInt (Bytes.ofText s)) = c :: cs := by
    cases BigEndian.toInt (Bytes.ofText s) with
    | ofNat n => exact List.exists_cons_of_ne_nil (ofNat_ne_nil n)
    | negSucc n => exact ⟨_, _, rfl⟩
  have hc := head_ofInt hcs
  have hbounds := Bytes.toNat_ofText_bounds (htext.trans hcs) (by omega) hlength
  have hlow := Nat.mul_le_mul_right (BigEndian.count w) hc.1
  have hhigh := Nat.mul_le_mul_right (BigEndian.count w) (show c.toNat + 1 ≤ 58 from hc.2)
  -- the first byte is below `0x80`, so the integer is not negative
  have hread : BigEndian.toInt (Bytes.ofText s) = BigEndian.toNat (Bytes.ofText s) := by
    rw [BigEndian.toInt, hlength, BigEndian.count, if_pos (by omega)]
  have hdigits : (ofNat (BigEndian.toNat (Bytes.ofText s))).length ≤ w + 1 := by
    have hchars := Bytes.length_toList_le s
    rw [htext, hread, hlength] at hchars
    exact hchars
  have hlt := (Nat.length_toDigits_le_iff (by decide) (by omega)).mp hdigits
  omega

/-! ## Floats -/

/-- The number whose bit pattern is made of digits is small, and its text is long. -/
theorem Binary.text_ofMagnitude_ne {f : BinaryFormat} {shift m top n : Nat}
    (hp : 0 < f.precision) (hshift : f.shift (58 * BigEndian.count w) ≤ shift) (hm : m < 15)
    (hsmall : f.precision + shift + 4 * m < f.fraction) (hw : 3 ≤ w)
    (hwm : w ≤ m + 1) (hlength : (Bytes.ofText s).length = w + 1)
    (htop : top = 128 * BigEndian.count w) (hn : n = BigEndian.toNat (Bytes.ofText s)) :
    String.ofList (ofMagnitude (f := f) (decide (n ≥ top)) (n % top)).text ≠ s := by
  generalize hx : ofMagnitude (f := f) (decide (n ≥ top)) (n % top) = x
  intro hs
  have hchars : s.toList = x.text := by rw [← hs, String.toList_ofList]
  -- a sign or a digit as the first byte bounds the bit pattern, and so the number
  have hbound {c : Char} {cs : List Char} (hcs : x.text = c :: cs) (hc : c.toNat < 58) :
      n < 58 * BigEndian.count w := by
    have hupper := (Bytes.toNat_ofText_bounds (hchars.trans hcs) (by omega) hlength).2
    have hle := Nat.mul_le_mul_right (BigEndian.count w) (show c.toNat + 1 ≤ 58 from hc)
    omega
  rcases x.text_cases with ⟨word, hword, htext⟩ | ⟨k, hk, cs, rfl, htext⟩ |
    ⟨k, hk, c, cs, rfl, hpos, hfinite, htext, hc⟩
  · have hshort : ∀ word ∈ ["NaN", "inf", "0"], (Bytes.ofText word).length ≤ 3 := by decide
    rw [htext, String.ofList_toList] at hs
    subst hs
    have hle := hshort word hword
    omega
  · have hn := hbound htext (by decide)
    rw [decide_eq_false (by omega)] at hx
    unfold ofMagnitude at hx
    split at hx <;> cases hx
  · have hn := hbound htext (by
      simp only [Char.isDigit, Bool.and_eq_true, decide_eq_true_eq] at hc
      exact Nat.lt_succ_of_le hc.2)
    rw [decide_eq_false (by omega)] at hx
    have hkn : k = n := by
      unfold ofMagnitude at hx
      split at hx
      · cases hx
        exact Nat.mod_eq_of_lt (by omega)
      · cases hx
    have hlong := length_text_of_small hp hpos hfinite
      (Nat.le_trans (BinaryFormat.shift_mono (show k + 1 ≤ 58 * BigEndian.count w by omega)) hshift)
      hm hsmall
    have hle := Bytes.length_toList_le s
    rw [hchars] at hle
    omega

/-! ## Instants -/

theorem Timestamp.le_length_text (t : Timestamp) : 20 ≤ t.text.length := by
  have hyear : 4 ≤ (Date.yearText t.moment.date.year).length := by
    unfold Date.yearText
    split
    · exact Digits.le_length_padded 4 _
    · exact Nat.le_succ_of_le (Nat.le_trans (by decide) (Digits.le_length_padded 6 _))
  have hpair := fun n => Digits.le_length_padded 2 n
  have hmonth := hpair t.moment.date.month
  have hday := hpair t.moment.date.day
  have hhour := hpair t.moment.clock.hour
  have hminute := hpair t.moment.clock.minute
  have hsecond := hpair t.moment.clock.second
  simp only [text, Date.text, Clock.text, List.length_append, List.length_cons]
  omega

/-! ## Types of columns -/

namespace Postgres

/-- Bytes of a text that are read at a type that is not one of texts or bytes are read as a
value with another text. -/
theorem toText?_ne_of_reads {ty : PgType} {v : Value} (h : Reads ty (.ofText s) v)
    (hcharacter : ty.isCharacter = false) (hbytes : ty ≠ .bytea) : v.toText? ≠ some s := by
  have hchars := Bytes.length_toList_le s
  generalize hb : Bytes.ofText s = b at h hchars
  intro htext
  cases h with
  | bool n =>
    have hword : ∀ b : Bool, 4 ≤ (if b then "true" else "false").toList.length := by decide
    have hlong := hword (n != 0)
    rw [Option.some.inj htext] at hlong
    exact absurd (Nat.le_trans hlong hchars) (by simp)
  | @int _ _ m hty hlength hval =>
    have hs : Digits.intText (BigEndian.toInt (Bytes.ofText s)) = s := by
      rw [hb, ← hval]
      exact Option.some.inj htext
    obtain ⟨w, hw, hdigits⟩ : ∃ w, m.type.bits / 8 = w + 1 ∧
        10 ^ (w + 1) ≤ 45 * BigEndian.count w := by
      generalize m.type = t at hty
      cases ty <;> cases hty
      · exact ⟨1, rfl, by decide⟩
      · exact ⟨3, rfl, by decide⟩
      · exact ⟨7, rfl, by decide⟩
    exact Digits.intText_toInt_ne hdigits (by rw [hb, hlength, hw]) hs
  | single hlength =>
    have hlt := BigEndian.toNat_lt b
    rw [hlength] at hlt
    have hn : (UInt32.ofNat (BigEndian.toNat b)).toNat = BigEndian.toNat b :=
      UInt32.toNat_ofNat'.trans (Nat.mod_eq_of_lt hlt)
    exact Binary.text_ofMagnitude_ne (by decide)
      (show BinaryFormat.single.shift (58 * BigEndian.count 3) ≤ 115 by decide)
      (show 2 < 15 by decide) (by decide) (by decide) (by decide) (by rw [hb, hlength]) rfl
      (by rw [hb]; exact hn) (Option.some.inj htext)
  | double hlength =>
    have hlt := BigEndian.toNat_lt b
    rw [hlength] at hlt
    have hn : (UInt64.ofNat (BigEndian.toNat b)).toNat = BigEndian.toNat b :=
      UInt64.toNat_ofNat'.trans (Nat.mod_eq_of_lt hlt)
    exact Binary.text_ofMagnitude_ne (by decide)
      (show BinaryFormat.double.shift (58 * BigEndian.count 7) ≤ 927 by decide)
      (show 6 < 15 by decide) (by decide) (by decide) (by decide) (by rw [hb, hlength]) rfl
      (by rw [hb]; exact hn) (Option.some.inj htext)
  | character hty => rw [hty] at hcharacter; cases hcharacter
  | bytes => exact hbytes rfl
  | @instant _ _ t hty hlength ht =>
    have hs : String.ofList t.text = s := Option.some.inj htext
    have hlong := t.le_length_text
    rw [← hs, String.toList_ofList] at hchars
    omega

end Postgres

end RelMap
