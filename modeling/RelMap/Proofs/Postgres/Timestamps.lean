-- SUMMARY: Timestamps are decoded exactly or refused, and what is decoded is encoded alike.
import RelMap.Proofs.Postgres.Representations

/-!
# Timestamps in PostgreSQL

A server counts the microseconds of an instant from 2000-01-01 in a word of 64 bits. Reading
adds the epoch to the word, checked, and looks whether timestamps reach the sum; writing
subtracts it, unchecked. Main statement: reading yields the instant that the word counts to or
is refused, the subtraction never wraps, and each undoes the other.
-/
namespace RelMap

namespace Timestamp

/-- The least count of microseconds that timestamps reach. -/
def minMicros : Int := minSeconds * 1000000

/-- The greatest count of microseconds that timestamps reach. -/
def maxMicros : Int := maxSeconds * 1000000 + 999999

/-- The instant at a number of microseconds since the epoch, if it is in range. -/
def ofMicros? (m : Int64) : Option Timestamp :=
  if h : minMicros ≤ m.toInt ∧ m.toInt ≤ maxMicros then
    some ⟨m.toInt * 1000, by simp only [minMicros, minSeconds] at h; omega, by
      simp only [maxMicros, maxSeconds] at h; omega⟩
  else none

/-- The microseconds of an instant as a word. -/
def microsWord (t : Timestamp) : Int64 := .ofInt t.micros

theorem ofMicros?_eq_some_iff {m : Int64} {t : Timestamp} :
    ofMicros? m = some t ↔ t.nanos = m.toInt * 1000 := by
  unfold ofMicros?
  split
  · rw [Option.some.injEq, Timestamp.ext_iff, eq_comm]
  · next hout =>
    have hlow := t.low
    have hhigh := t.high
    simp only [minMicros, minSeconds, maxMicros, maxSeconds] at hout
    simp only [reduceCtorEq, false_iff]
    omega

theorem toInt_microsWord (t : Timestamp) : t.microsWord.toInt = t.micros := by
  have hlow := t.low
  have hhigh := t.high
  have hmicros := t.micros_cases
  exact Int64.toInt_ofInt_of_le (by omega) (by omega)

/-- A whole number of microseconds is not rounded. -/
theorem micros_mul_of_dvd (t : Timestamp) (h : 1000 ∣ t.nanos) : t.micros * 1000 = t.nanos :=
  Int.tdiv_mul_cancel h

end Timestamp

namespace Postgres

/-! ## Words -/

/-- The epoch of 2000-01-01 as a word. -/
def epochWord : Int64 := 946684800000000

/-- The microseconds from 1970 at a count from 2000-01-01, none where the sum overflows. -/
def unixMicros? (m : Int64) : Option Int64 :=
  if m.toBitVec.saddOverflow epochWord.toBitVec then none else some (m + epochWord)

/-- The instant that a word counts to. -/
def decodeWord (m : Int64) : Except DecodeError Timestamp :=
  match (unixMicros? m).bind Timestamp.ofMicros? with
  | some t => .ok t
  | none => .error (.timestamp m.toInt)

/-- The word that an instant is written as, by a subtraction that could wrap. -/
def encodeWord (t : Timestamp) : Int64 := t.microsWord - epochWord

/-- A word as a column holds it. -/
def wordBytes (m : Int64) : Bytes := BigEndian.ofInt 8 m.toInt

/-- A word counts to an instant that timestamps reach, the sum with the epoch being a word. -/
structure Reaches (m : Int64) : Prop where
  holds : IntType.i64.Holds (m.toInt + epochMicros)
  low : Timestamp.minMicros ≤ m.toInt + epochMicros
  high : m.toInt + epochMicros ≤ Timestamp.maxMicros

variable {ty : PgType} {m u : Int64} {t : Timestamp} {b : Bytes}

theorem toInt_epochWord : epochWord.toInt = epochMicros := by decide

/-- A sum that fits is exact. -/
theorem toInt_add_of_fits {m n : Int64} (h : m.toBitVec.saddOverflow n.toBitVec = false) :
    (m + n).toInt = m.toInt + n.toInt := by
  rw [← Int64.toInt_toBitVec, Int64.toBitVec_add,
    BitVec.toInt_add_of_not_saddOverflow (by simp [h]), Int64.toInt_toBitVec, Int64.toInt_toBitVec]

/-- A difference that fits is exact. -/
theorem toInt_sub_of_fits {m n : Int64} (h : m.toBitVec.ssubOverflow n.toBitVec = false) :
    (m - n).toInt = m.toInt - n.toInt := by
  rw [← Int64.toInt_toBitVec, Int64.toBitVec_sub,
    BitVec.toInt_sub_of_not_ssubOverflow (by simp [h]), Int64.toInt_toBitVec, Int64.toInt_toBitVec]

/-- The sum with the epoch fits if the exact sum is a word. -/
theorem add_epochWord_fits_iff :
    m.toBitVec.saddOverflow epochWord.toBitVec = false ↔
      IntType.i64.Holds (m.toInt + epochMicros) := by
  simp only [BitVec.saddOverflow, Int64.toInt_toBitVec, toInt_epochWord, Bool.or_eq_false_iff,
    decide_eq_false_iff_not, IntType.Holds, IntType.min, IntType.max]
  omega

/-- Every instant is so near that the epoch can be subtracted. -/
theorem sub_epochWord_fits (t : Timestamp) :
    t.microsWord.toBitVec.ssubOverflow epochWord.toBitVec = false := by
  have hlow := t.low
  have hhigh := t.high
  have hmicros := t.micros_cases
  simp only [BitVec.ssubOverflow, Int64.toInt_toBitVec, toInt_epochWord, t.toInt_microsWord,
    Bool.or_eq_false_iff, decide_eq_false_iff_not, epochMicros]
  omega

theorem toInt_encodeWord (t : Timestamp) : (encodeWord t).toInt = t.micros - epochMicros := by
  rw [encodeWord, toInt_sub_of_fits (sub_epochWord_fits t), t.toInt_microsWord, toInt_epochWord]

/-- The checked sum is the exact one. -/
theorem unixMicros?_eq_some_iff : unixMicros? m = some u ↔ u.toInt = m.toInt + epochMicros := by
  rw [unixMicros?, Option.ite_none_left_eq_some, Bool.not_eq_true, Option.some.injEq]
  constructor
  · rintro ⟨hfits, rfl⟩
    rw [toInt_add_of_fits hfits, toInt_epochWord]
  · intro hsum
    have hfits : m.toBitVec.saddOverflow epochWord.toBitVec = false :=
      add_epochWord_fits_iff.mpr (hsum ▸ (FixedInt.ofInt64 u).holds)
    refine ⟨hfits, Int64.toInt_inj.mp ?_⟩
    rw [toInt_add_of_fits hfits, toInt_epochWord, hsum]

/-! ## Reading -/

/-- The checked sum and the range of the microseconds admit the instants that nanoseconds do. -/
theorem bind_unixMicros? (m : Int64) :
    (unixMicros? m).bind Timestamp.ofMicros? =
      Timestamp.ofNanos? ((m.toInt + epochMicros) * 1000) := by
  ext t
  simp only [Option.bind_eq_some_iff, unixMicros?_eq_some_iff, Timestamp.ofMicros?_eq_some_iff,
    Timestamp.ofNanos?_eq_some_iff]
  constructor
  · rintro ⟨u, hsum, ht⟩
    rw [ht, hsum]
  · intro ht
    have hlow := t.low
    have hhigh := t.high
    have hsum := Int64.toInt_ofInt_of_le (n := m.toInt + epochMicros) (by omega) (by omega)
    exact ⟨_, hsum, by rw [hsum, ht]⟩

theorem decodeWord_eq (m : Int64) : decodeWord m = timestampOf m.toInt := by
  rw [decodeWord, bind_unixMicros?]
  rfl

/-- The words that are read are those that count to an instant. -/
theorem reaches_iff : Reaches m ↔ ∃ t : Timestamp, t.nanos = (m.toInt + epochMicros) * 1000 := by
  constructor
  · rintro ⟨-, hlow, hhigh⟩
    simp only [Timestamp.minMicros, Timestamp.minSeconds] at hlow
    simp only [Timestamp.maxMicros, Timestamp.maxSeconds] at hhigh
    exact ⟨⟨(m.toInt + epochMicros) * 1000, by omega, by omega⟩, rfl⟩
  · rintro ⟨t, ht⟩
    have hlow := t.low
    have hhigh := t.high
    refine ⟨⟨?_, ?_⟩, ?_, ?_⟩ <;>
      simp only [IntType.min, IntType.max, Timestamp.minMicros, Timestamp.minSeconds,
        Timestamp.maxMicros, Timestamp.maxSeconds] <;> omega

theorem decodeWord_of_not_reaches (h : ¬Reaches m) :
    decodeWord m = .error (.timestamp m.toInt) := by
  have hnone : Timestamp.ofNanos? ((m.toInt + epochMicros) * 1000) = none :=
    Option.eq_none_iff_forall_ne_some.mpr fun t ht =>
      h (reaches_iff.mpr ⟨t, Timestamp.ofNanos?_eq_some_iff.mp ht⟩)
  rw [decodeWord, bind_unixMicros?, hnone]

theorem toInt_wordBytes (m : Int64) : BigEndian.toInt (wordBytes m) = m.toInt :=
  BigEndian.toInt_ofInt_of_holds (t := .i64) rfl (FixedInt.ofInt64 m).holds

/-- A column of instants is read as its word. -/
theorem decode?_wordBytes (hty : ty.isInstant = true) (m : Int64) :
    decode? ty (some (wordBytes m)) = some (.timestamp <$> decodeWord m) := by
  have hint : decodeInt .i64 (wordBytes m) = .ok (.ofInt64 m) :=
    (decodeInt_eq_ok_iff rfl).mpr ⟨rfl, BigEndian.length_ofInt .., (toInt_wordBytes m).symm⟩
  rw [decode?_instant hty, decodeTimestamp, hint, decodeWord_eq]
  rfl

/-! ## There and back -/

/-- At a type of instants every instant is written as its word. -/
theorem encode_instant (hty : ty.isInstant = true) (t : Timestamp) :
    encode ty (.timestamp t) = .ok (some (wordBytes (encodeWord t))) := by
  have hencode : encode ty (.timestamp t) = .ok (some (encodeTimestamp t)) := by
    cases ty with
    | timestamp | timestamptz => rfl
    | _ => cases hty
  rw [hencode, wordBytes, toInt_encodeWord, encodeTimestamp]

/-- The word that is read as an instant is the word that the instant is written as. -/
theorem encodeWord_of_decodeWord (h : decodeWord m = .ok t) : encodeWord t = m := by
  rw [decodeWord_eq, timestampOf_eq_ok_iff] at h
  have hwhole := t.micros_mul_of_dvd (by omega)
  rw [← Int64.toInt_inj, toInt_encodeWord]
  omega

/-- An instant in whole microseconds is read back. -/
theorem decodeWord_encodeWord (h : 1000 ∣ t.nanos) : decodeWord (encodeWord t) = .ok t := by
  rw [decodeWord_eq, timestampOf_eq_ok_iff, toInt_encodeWord, Int.sub_add_cancel,
    t.micros_mul_of_dvd h]

/-- A word in a column of instants is read as the instant that it counts to, computed in 64
bits, and that instant is written as the same word at every type of instants; a word that counts
beyond the timestamps is an error that names it. The word that an instant is written as is
computed without overflow, and an instant in whole microseconds is read back from it. -/
theorem timestamps_exact (hty : ty.isInstant = true) :
    (∀ m : Int64, decode? ty (some (wordBytes m)) = some (.timestamp <$> decodeWord m) ∧
        (Reaches m → ∃ t, decode? ty (some (wordBytes m)) = some (.ok (.timestamp t)) ∧
          t.nanos = (m.toInt + epochMicros) * 1000 ∧
          ∀ ty' : PgType, ty'.isInstant = true →
            encode ty' (.timestamp t) = .ok (some (wordBytes m))) ∧
        (¬Reaches m →
          decode? ty (some (wordBytes m)) = some (.error (.timestamp m.toInt)))) ∧
      ∀ t : Timestamp, t.microsWord.toInt = t.micros ∧
        t.microsWord.toBitVec.ssubOverflow epochWord.toBitVec = false ∧
        encode ty (.timestamp t) = .ok (some (wordBytes (encodeWord t))) ∧
        (1000 ∣ t.nanos →
          decode? ty (some (wordBytes (encodeWord t))) = some (.ok (.timestamp t))) := by
  refine ⟨fun m => ⟨decode?_wordBytes hty m, fun h => ?_, fun h => ?_⟩, fun t => ?_⟩
  · obtain ⟨t, ht⟩ := reaches_iff.mp h
    have hread : decodeWord m = .ok t := by rw [decodeWord_eq, timestampOf_eq_ok_iff, ht]
    refine ⟨t, by rw [decode?_wordBytes hty, hread]; rfl, ht, fun ty' hty' => ?_⟩
    rw [encode_instant hty', encodeWord_of_decodeWord hread]
  · rw [decode?_wordBytes hty, decodeWord_of_not_reaches h]
    rfl
  · refine ⟨t.toInt_microsWord, sub_epochWord_fits t, encode_instant hty t, fun h => ?_⟩
    rw [decode?_wordBytes hty, decodeWord_encodeWord h]
    rfl

theorem timestamps_exact_ends :
    decode? .timestamptz (some (wordBytes .maxValue)) =
        some (.error (.timestamp 0x7FFFFFFFFFFFFFFF)) ∧
      decode? .timestamp (some (wordBytes .minValue)) =
        some (.error (.timestamp (-0x8000000000000000))) ∧
      (∃ t, decode? .timestamp (some (wordBytes 252455522400999999)) =
          some (.ok (.timestamp t)) ∧ t.nanos = 253402207200999999000) ∧
      decode? .timestamp (some (wordBytes 252455522401000000)) =
        some (.error (.timestamp 252455522401000000)) ∧
      decode? .timestamptz (some (wordBytes (encodeWord ⟨-1000, by decide, by decide⟩))) =
        some (.ok (.timestamp ⟨-1000, by decide, by decide⟩)) := by
  have hty : PgType.isInstant .timestamp = true ∧ PgType.isInstant .timestamptz = true :=
    ⟨rfl, rfl⟩
  have hplain := timestamps_exact hty.1
  have hzoned := timestamps_exact hty.2
  have hover : ¬Reaches .maxValue := fun h => absurd h.holds (by decide)
  have hunder : ¬Reaches .minValue := fun h => absurd h.low (by decide)
  have hlast : Reaches 252455522400999999 := ⟨by decide, by decide, by decide⟩
  have hpast : ¬Reaches 252455522401000000 := fun h => absurd h.high (by decide)
  obtain ⟨t, ht, hnanos, -⟩ := (hplain.1 252455522400999999).2.1 hlast
  exact ⟨(hzoned.1 .maxValue).2.2 hover, (hplain.1 .minValue).2.2 hunder,
    ⟨t, ht, hnanos⟩, (hplain.1 252455522401000000).2.2 hpast, (hzoned.2 _).2.2.2 (by decide)⟩

end Postgres

end RelMap
