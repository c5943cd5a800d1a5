-- SUMMARY: What the bytes of a PostgreSQL column are read as.
import RelMap.Postgres.Decode
import RelMap.Proofs.Number.BigEndian
import RelMap.Proofs.Text.Encoding

/-!
# Columns

`Reads` says, one type of column after another, which bytes are read and what as. Main
statement: that is how columns are decoded.
-/
namespace RelMap.Postgres

namespace PgType

/-- The types of character strings. -/
def isCharacter : PgType → Bool
  | .text | .varchar | .bpchar | .name => true
  | _ => false

/-- The types of instants. -/
def isInstant : PgType → Bool
  | .timestamp | .timestamptz => true
  | _ => false

theorem signed_of_intType? {ty : PgType} {t : IntType} (h : ty.intType? = some t) :
    t.signed = true := by
  cases ty <;> cases h <;> rfl

end PgType

/-- A column of a type that holds bytes is read as a value. -/
inductive Reads : PgType → Bytes → Value → Prop where
  | bool (n : UInt8) : Reads .bool [n] (.bool (n != 0))
  | int {ty : PgType} {b : Bytes} {m : FixedInt} (hty : ty.intType? = some m.type)
      (hlength : b.length = m.type.bits / 8) (hval : m.val = BigEndian.toInt b) :
      Reads ty b (.int m)
  | single {b : Bytes} (hlength : b.length = 4) :
      Reads .float4 b (.f32 (.ofBits (UInt32.ofNat (BigEndian.toNat b))))
  | double {b : Bytes} (hlength : b.length = 8) :
      Reads .float8 b (.f64 (.ofBits (UInt64.ofNat (BigEndian.toNat b))))
  | character {ty : PgType} (hty : ty.isCharacter = true) (s : String) :
      Reads ty (.ofText s) (.string s)
  | bytes (b : Bytes) : Reads .bytea b (.bytes b)
  | instant {ty : PgType} {b : Bytes} {t : Timestamp} (hty : ty.isInstant = true)
      (hlength : b.length = 8) (ht : t.nanos = (BigEndian.toInt b + epochMicros) * 1000) :
      Reads ty b (.timestamp t)

variable {ty : PgType} {t : IntType} {b : Bytes} {w : Value}

theorem decodeFixed_eq_ok_iff {width : Nat} {b' : Bytes} :
    decodeFixed width b = .ok b' ↔ b.length = width ∧ b' = b := by
  unfold decodeFixed
  split
  · simp only [reduceCtorEq, false_iff, not_and]; omega
  · split
    · simp only [reduceCtorEq, false_iff, not_and]; omega
    · simp only [Except.ok.injEq, eq_comm (a := b'), iff_and_self]; omega

/-- A column of fixed size is read if it has that size. -/
theorem map_decodeFixed_eq_ok_iff {α : Type} {f : Bytes → α} {width : Nat} {x : α} :
    f <$> decodeFixed width b = .ok x ↔ b.length = width ∧ f b = x := by
  cases h : decodeFixed width b with
  | error e =>
    have hlength : b.length ≠ width := fun hlength =>
      nomatch h.symm.trans (decodeFixed_eq_ok_iff.mpr ⟨hlength, rfl⟩)
    simp [hlength]
  | ok b' =>
    obtain ⟨hlength, rfl⟩ := decodeFixed_eq_ok_iff.mp h
    simp [hlength]

theorem decodeInt_eq_ok_iff {m : FixedInt} (ht : t.signed = true) :
    decodeInt t b = .ok m ↔
      m.type = t ∧ b.length = t.bits / 8 ∧ m.val = BigEndian.toInt b := by
  rw [decodeInt, map_decodeFixed_eq_ok_iff]
  constructor
  · rintro ⟨hlength, rfl⟩
    exact ⟨rfl, hlength, FixedInt.val_wrap_toNat ht hlength⟩
  · rintro ⟨htype, hlength, hval⟩
    refine ⟨hlength, FixedInt.eq_of_val htype.symm ?_⟩
    rw [FixedInt.val_wrap_toNat ht hlength, hval]

theorem timestampOf_eq_ok_iff {micros : Int} {t : Timestamp} :
    timestampOf micros = .ok t ↔ t.nanos = (micros + epochMicros) * 1000 := by
  rw [← Timestamp.ofNanos?_eq_some_iff, timestampOf]
  cases Timestamp.ofNanos? ((micros + epochMicros) * 1000) <;> simp

theorem decodeTimestamp_eq_ok_iff {t : Timestamp} :
    decodeTimestamp b = .ok t ↔
      b.length = 8 ∧ t.nanos = (BigEndian.toInt b + epochMicros) * 1000 := by
  unfold decodeTimestamp
  cases hint : decodeInt .i64 b with
  | error e =>
    have hlength : b.length ≠ 8 := by
      intro hlength
      have hval : (FixedInt.wrap .i64 (BigEndian.toNat b)).val = BigEndian.toInt b :=
        FixedInt.val_wrap_toNat rfl hlength
      cases hint.symm.trans ((decodeInt_eq_ok_iff rfl).mpr ⟨rfl, hlength, hval⟩)
    simp [hlength]
  | ok m =>
    obtain ⟨-, hlength, hval⟩ := (decodeInt_eq_ok_iff rfl).mp hint
    have hlength : b.length = 8 := hlength
    simp only [timestampOf_eq_ok_iff, hval, hlength, true_and]

/-! ## Decoding -/

theorem map_eq_ok_iff {ε α β : Type} {f : α → β} {x : Except ε α} {y : β} :
    f <$> x = .ok y ↔ ∃ a, x = .ok a ∧ f a = y := by
  cases x <;> simp

theorem decode?_int_iff (hty : ty.intType? = some t) :
    decode? ty (some b) = some (.ok w) ↔
      ∃ m : FixedInt, m.type = t ∧ b.length = t.bits / 8 ∧ m.val = BigEndian.toInt b ∧
        w = .int m := by
  have hdecode : decode? ty (some b) = some (.int <$> decodeInt t b) := by
    cases ty <;> cases hty <;> rfl
  rw [hdecode, Option.some.injEq, map_eq_ok_iff]
  simp only [decodeInt_eq_ok_iff (PgType.signed_of_intType? hty), eq_comm (a := w), and_assoc]

theorem decode?_character_iff (hty : ty.isCharacter = true) :
    decode? ty (some b) = some (.ok w) ↔ ∃ s, b = .ofText s ∧ w = .string s := by
  simp only [← Bytes.text?_eq_some_iff]
  cases ty with
  | text | varchar | bpchar | name =>
    simp only [decode?, decodeBytes?, Option.some.injEq]
    cases b.text? <;> simp [eq_comm]
  | _ => cases hty

theorem decode?_instant (hty : ty.isInstant = true) (b : Bytes) :
    decode? ty (some b) = some (.timestamp <$> decodeTimestamp b) := by
  cases ty with
  | timestamp | timestamptz => rfl
  | _ => cases hty

theorem decode?_instant_iff (hty : ty.isInstant = true) :
    decode? ty (some b) = some (.ok w) ↔
      ∃ t : Timestamp, b.length = 8 ∧ t.nanos = (BigEndian.toInt b + epochMicros) * 1000 ∧
        w = .timestamp t := by
  rw [decode?_instant hty, Option.some.injEq, map_eq_ok_iff]
  simp only [decodeTimestamp_eq_ok_iff, eq_comm (a := w), and_assoc]

theorem decode?_single_iff :
    decode? .float4 (some b) = some (.ok w) ↔
      b.length = 4 ∧ w = .f32 (.ofBits (UInt32.ofNat (BigEndian.toNat b))) := by
  change some (.f32 <$> decodeSingle b) = some (.ok w) ↔ _
  rw [Option.some.injEq, map_eq_ok_iff]
  simp only [decodeSingle, map_decodeFixed_eq_ok_iff, eq_comm (a := w), and_assoc,
    exists_and_left, exists_eq_left']

theorem decode?_double_iff :
    decode? .float8 (some b) = some (.ok w) ↔
      b.length = 8 ∧ w = .f64 (.ofBits (UInt64.ofNat (BigEndian.toNat b))) := by
  change some (.f64 <$> decodeDouble b) = some (.ok w) ↔ _
  rw [Option.some.injEq, map_eq_ok_iff]
  simp only [decodeDouble, map_decodeFixed_eq_ok_iff, eq_comm (a := w), and_assoc,
    exists_and_left, exists_eq_left']

theorem decode?_bool_iff :
    decode? .bool (some b) = some (.ok w) ↔ ∃ n, b = [n] ∧ w = .bool (n != 0) := by
  simp only [decode?, decodeBytes?, Option.some.injEq]
  split <;> simp_all [eq_comm]

/-- Columns are decoded as `Reads` says. -/
theorem decode?_eq_ok_iff : decode? ty (some b) = some (.ok w) ↔ Reads ty b w := by
  constructor
  · intro h
    have hint {t : IntType} (hty : ty.intType? = some t) : Reads ty b w := by
      obtain ⟨m, rfl, hlength, hval, rfl⟩ := (decode?_int_iff hty).mp h
      exact .int hty hlength hval
    have hcharacter (hty : ty.isCharacter = true) : Reads ty b w := by
      obtain ⟨s, rfl, rfl⟩ := (decode?_character_iff hty).mp h
      exact .character hty s
    have hinstant (hty : ty.isInstant = true) : Reads ty b w := by
      obtain ⟨t, hlength, ht, rfl⟩ := (decode?_instant_iff hty).mp h
      exact .instant hty hlength ht
    cases ty with
    | bool =>
      obtain ⟨n, rfl, rfl⟩ := decode?_bool_iff.mp h
      exact .bool n
    | int2 | int4 | int8 => exact hint rfl
    | float4 =>
      obtain ⟨hlength, rfl⟩ := decode?_single_iff.mp h
      exact .single hlength
    | float8 =>
      obtain ⟨hlength, rfl⟩ := decode?_double_iff.mp h
      exact .double hlength
    | text | varchar | bpchar | name => exact hcharacter rfl
    | bytea => cases h; exact .bytes b
    | timestamp | timestamptz => exact hinstant rfl
    | numeric | date | json | uuid | int4Array => cases h
  · intro h
    cases h with
    | bool n => rfl
    | int hty hlength hval => exact (decode?_int_iff hty).mpr ⟨_, rfl, hlength, hval, rfl⟩
    | single hlength => exact decode?_single_iff.mpr ⟨hlength, rfl⟩
    | double hlength => exact decode?_double_iff.mpr ⟨hlength, rfl⟩
    | character hty s => exact (decode?_character_iff hty).mpr ⟨s, rfl, rfl⟩
    | bytes => rfl
    | instant hty hlength ht => exact (decode?_instant_iff hty).mpr ⟨_, hlength, ht, rfl⟩

end RelMap.Postgres
