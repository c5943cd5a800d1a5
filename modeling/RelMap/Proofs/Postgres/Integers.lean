-- SUMMARY: Booleans and integers are sent exactly or not at all, and come back as they were.
import RelMap.Proofs.Coercion
import RelMap.Proofs.Postgres.Columns
import RelMap.Proofs.Text.Padding

/-!
# Integers in PostgreSQL

A boolean or an integer is sent in the width of an integer type that holds it, as text at text
types, and a boolean as a byte at its own type. Main statement: nothing else is sent, and what
is sent is read back and converted to the same value.
-/
namespace RelMap

namespace Kind

variable {k : Kind} {v : Value} {n : Int}

/-- An integer of any type is converted back to the value that it stands for. -/
theorem coerce_whole (hv : v.whole? = some n) (hk : k.represents v = true) {m : FixedInt}
    (hm : m.val = n) : k.coerce (.int m) = .ok (some v) := by
  cases v with
  | bool b =>
    obtain rfl := beq_iff_eq.mp hk
    have hread : (Value.int m).toBool? = some b := by
      rw [Value.toBool?, hm, ← Option.some.inj hv]
      cases b <;> rfl
    rw [coerce, convert?, hread]
    rfl
  | int x =>
    have hread : (Value.int m).toInt? x.type = some x := by
      rw [Value.toInt?, hm, ← Option.some.inj hv, FixedInt.ofInt?_val]
    rw [coerce, convert?_of_intType? (beq_iff_eq.mp hk), hread]
    rfl
  | _ => cases hv

/-- The digits of an integer are read at its type. -/
theorem toInt?_ofInt_val (x : FixedInt) :
    Digits.toInt? x.type.signed (Digits.ofInt x.val) = some x.val := by
  cases hsigned : x.type.signed with
  | true => exact Digits.toInt?_ofInt x.val
  | false =>
    have hpos : 0 ≤ x.val := IntType.min_of_unsigned hsigned ▸ x.holds.1
    obtain ⟨n, hn⟩ := Int.eq_ofNat_of_zero_le hpos
    rw [hn]
    exact Digits.toInt?_ofNat false n

/-- The text of a boolean or of an integer is converted back to the value. -/
theorem coerce_wholeText {s : String} (hv : v.whole? = some n) (hk : k.represents v = true)
    (hs : v.toText? = some s) : k.coerce (.string s) = .ok (some v) := by
  cases v with
  | bool b =>
    obtain rfl := beq_iff_eq.mp hk
    cases hs
    cases b <;> rfl
  | int x =>
    cases hs
    have hread : (Value.string (Digits.intText x.val)).toInt? x.type = some x := by
      rw [Value.toInt?, Digits.intText, String.toList_ofList, Text.trim_ofInt,
        toInt?_ofInt_val, Option.bind_some, FixedInt.ofInt?_val]
    rw [coerce, convert?_of_intType? (beq_iff_eq.mp hk), hread]
    rfl
  | _ => cases hv

end Kind

namespace Postgres

variable {ty : PgType} {t : IntType} {v : Value} {n : Int}

/-! ## Parameters -/

theorem isAccepted_of_intType? (h : ty.intType? = some t) : ty.isAccepted = true := by
  cases ty <;> first | rfl | cases h

theorem isAccepted_of_isText (h : ty.isText = true) : ty.isAccepted = true := by
  cases ty <;> first | rfl | cases h

theorem isCharacter_of_isText (h : ty.isText = true) : ty.isCharacter = true := by
  cases ty <;> first | rfl | cases h

theorem intType?_of_isText (h : ty.isText = true) : ty.intType? = none := by
  cases ty <;> first | rfl | cases h

/-- At an integer type a boolean and an integer are sent alike. -/
theorem encode_of_intType? (hv : v.whole? = some n) (h : ty.intType? = some t) :
    encode ty v = some <$> encodeInt t n := by
  rw [encode, if_pos (isAccepted_of_intType? h)]
  cases v with
  | bool b => cases hv; simp only [encodeAt, h]
  | int x => cases hv; simp only [encodeAt, h]
  | _ => cases hv

theorem encode_of_isText (hv : v.whole? = some n) (h : ty.isText = true) :
    ∃ s, v.toText? = some s ∧ encode ty v = .ok (some (.ofText s)) := by
  have hbool : ty ≠ .bool := by rintro rfl; cases h
  rw [encode, if_pos (isAccepted_of_isText h)]
  cases v with
  | bool b => exact ⟨_, rfl, by simp only [encodeAt, intType?_of_isText h, if_neg hbool, if_pos h]⟩
  | int x => exact ⟨_, rfl, by simp only [encodeAt, intType?_of_isText h, if_pos h]; rfl⟩
  | _ => cases hv

theorem encode_bool (b : Bool) :
    encode .bool (.bool b) = .ok (some [if b then 1 else 0]) := rfl

theorem encode_of_other (hv : v.whole? = some n) (hint : ty.intType? = none)
    (htext : ty.isText = false) (hbool : ty = .bool → ∀ b, v ≠ .bool b) :
    ∃ e, encode ty v = .error e := by
  unfold encode
  split
  · cases v with
    | bool b =>
      have hne : ty ≠ .bool := fun hty => hbool hty b rfl
      refine ⟨.mismatch (if b then "true" else "false") ty, ?_⟩
      simp only [encodeAt, hint, if_neg hne, htext, Bool.false_eq_true, if_false]
    | int x =>
      refine ⟨.mismatch (Value.int x).literal ty, ?_⟩
      simp only [encodeAt, hint, htext, Bool.false_eq_true, if_false]
    | _ => cases hv
  · exact ⟨_, rfl⟩

/-- The bytes of an integer at an integer type, which holds it or not. -/
theorem encodeInt_spec (ht : t.signed = true) :
    (t.Holds n → ∃ b, encodeInt t n = .ok b ∧ b.length = t.bits / 8 ∧ BigEndian.toInt b = n) ∧
      (¬t.Holds n → ∃ e, encodeInt t n = .error e) := by
  refine ⟨fun h => ?_, fun h => ?_⟩
  · refine ⟨_, encodeInt_eq_ok_iff.mpr ⟨h, rfl⟩, BigEndian.length_ofInt .., ?_⟩
    exact BigEndian.toInt_ofInt_of_holds ht h
  · cases hencode : encodeInt t n with
    | error e => exact ⟨e, rfl⟩
    | ok b => exact absurd (encodeInt_eq_ok_iff.mp hencode).1 h

/-! ## There and back -/

/-- A boolean or an integer is sent exactly or not at all. At an integer type it is sent if the
type holds it, and then in two's complement on all bytes of the type; at a text type it is sent
as its text, and a boolean at its own type as one byte. It cannot be sent at another type. What
is sent is read back as a value that every kind of field for the original converts to it. -/
theorem encode_whole (hv : v.whole? = some n) (ty : PgType) :
    (∀ t, ty.intType? = some t →
        (t.Holds n → ∃ b, encode ty v = .ok (some b) ∧ b.length = t.bits / 8 ∧
          BigEndian.toInt b = n) ∧
        (¬t.Holds n → ∃ e, encode ty v = .error e)) ∧
      (ty.isText = true → ∃ s, v.toText? = some s ∧ encode ty v = .ok (some (.ofText s))) ∧
      (∀ b, ty = .bool → v = .bool b → encode ty v = .ok (some [if b then 1 else 0])) ∧
      (ty.intType? = none → ty.isText = false → (ty = .bool → ∀ b, v ≠ .bool b) →
        ∃ e, encode ty v = .error e) ∧
      ∀ out, encode ty v = .ok out → ∃ w, decode? ty out = some (.ok w) ∧
        ∀ k : Kind, k.represents v = true → k.coerce w = .ok (some v) := by
  refine ⟨fun t ht => ?_, encode_of_isText hv, ?_, encode_of_other hv, fun out hout => ?_⟩
  · rw [encode_of_intType? hv ht]
    obtain ⟨hholds, hfails⟩ := encodeInt_spec (n := n) (PgType.signed_of_intType? ht)
    refine ⟨fun h => ?_, fun h => ?_⟩
    · obtain ⟨b, hb, hbytes⟩ := hholds h
      exact ⟨b, by rw [hb]; rfl, hbytes⟩
    · obtain ⟨e, he⟩ := hfails h
      exact ⟨e, by rw [he]; rfl⟩
  · rintro b rfl rfl
    exact encode_bool b
  · cases hint : ty.intType? with
    | some t =>
      rw [encode_of_intType? hv hint] at hout
      cases hencode : encodeInt t n with
      | error e => rw [hencode] at hout; cases hout
      | ok b =>
        rw [hencode] at hout
        cases hout
        obtain ⟨h, rfl⟩ := encodeInt_eq_ok_iff.mp hencode
        have hread := BigEndian.toInt_ofInt_of_holds (PgType.signed_of_intType? hint) h
        refine ⟨.int ⟨t, n, h⟩, ?_, fun k hk => Kind.coerce_whole hv hk rfl⟩
        exact decode?_eq_ok_iff.mpr (.int hint (BigEndian.length_ofInt ..) hread.symm)
    | none =>
      cases htext : ty.isText with
      | true =>
        obtain ⟨s, hs, hencode⟩ := encode_of_isText hv htext
        cases hencode.symm.trans hout
        exact ⟨.string s, decode?_eq_ok_iff.mpr (.character (isCharacter_of_isText htext) s),
          fun k hk => Kind.coerce_wholeText hv hk hs⟩
      | false =>
        by_cases hother : ty = .bool → ∀ b, v ≠ .bool b
        · obtain ⟨e, he⟩ := encode_of_other hv hint htext hother
          cases he.symm.trans hout
        · simp only [Classical.not_imp, not_forall, ne_eq, Classical.not_not] at hother
          obtain ⟨rfl, b, rfl⟩ := hother
          cases hout
          refine ⟨.bool b, by cases b <;> rfl, fun k hk => Kind.coerce_of_represents hk⟩

theorem encode_whole_ends :
    (∃ b, encode .int2 (.bool true) = .ok (some b) ∧ b.length = 2 ∧ BigEndian.toInt b = 1) ∧
      (∃ b, encode .int2 (.ofInt .i64 (-0x8000) (by decide)) = .ok (some b) ∧ b.length = 2 ∧
        BigEndian.toInt b = -0x8000) ∧
      (∃ e, encode .int8 (.ofInt .u64 0x8000000000000000 (by decide)) = .error e) := by
  refine ⟨?_, ?_, ?_⟩
  · have hsent := encode_whole (v := .bool true) rfl .int2
    exact (hsent.1 .i16 rfl).1 (by decide)
  · have hsent := encode_whole (v := .ofInt .i64 (-0x8000) (by decide)) rfl .int2
    exact (hsent.1 .i16 rfl).1 (by decide)
  · have hsent := encode_whole (v := .ofInt .u64 0x8000000000000000 (by decide)) rfl .int8
    exact (hsent.1 .i64 rfl).2 (by decide)

end Postgres

end RelMap
