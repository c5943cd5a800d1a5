-- SUMMARY: Which values come back from PostgreSQL, sent at a type in their own binary form.
import RelMap.Proofs.Coercion
import RelMap.Proofs.Number.Rounding
import RelMap.Proofs.Postgres.Spelling
import RelMap.Proofs.Time.Reading

/-!
# Representations in PostgreSQL

Texts, bytes, floats and instants are sent at every type, and at a type that is not one of
theirs in the binary form of another. Main statement: such a value comes back if and only if
the type suits it, or its bytes happen to stand for the same number there.
-/
namespace RelMap

/-! ## Instants -/

theorem Timestamp.micros_cases (t : Timestamp) :
    0 ≤ t.nanos ∧ t.micros = t.nanos / 1000 ∨ t.nanos < 0 ∧ t.micros = -(-t.nanos / 1000) := by
  rcases Int.lt_or_le t.nanos 0 with hneg | hpos
  · refine .inr ⟨hneg, ?_⟩
    rw [micros, ← Int.tdiv_eq_ediv_of_nonneg (by omega), Int.neg_tdiv, Int.neg_neg]
  · exact .inl ⟨hpos, Int.tdiv_eq_ediv_of_nonneg hpos⟩

/-- An instant in whole microseconds is one as well. -/
theorem Timestamp.exists_micros (t : Timestamp) : ∃ t' : Timestamp, t'.nanos = t.micros * 1000 := by
  have hlow := t.low
  have hhigh := t.high
  have hmicros := t.micros_cases
  exact ⟨⟨t.micros * 1000, by omega, by omega⟩, rfl⟩

namespace Kind

variable {w : Value}

theorem convert?_string_iff {s : String} :
    Kind.string.convert? w = some (.string s) ↔ w.toText? = some s := by
  simp [convert?]

theorem convert?_f64_iff {x : Binary64} :
    Kind.f64.convert? w = some (.f64 x) ↔ w.toFloat? = some x := by
  simp [convert?]

theorem convert?_timestamp_iff {t : Timestamp} :
    Kind.timestamp.convert? w = some (.timestamp t) ↔ w.toTimestamp? = some t := by
  simp [convert?]

end Kind

namespace Postgres

variable {ty : PgType} {t : Timestamp} {v w u : Value} {b : Bytes} {s : String}

theorem toInt_encodeTimestamp (t : Timestamp) :
    BigEndian.toInt (encodeTimestamp t) = t.micros - epochMicros := by
  have hlow := t.low
  have hhigh := t.high
  have hmicros := t.micros_cases
  refine BigEndian.toInt_ofInt ?_ ?_ <;> simp only [BigEndian.count, epochMicros] <;> omega

/-- The first byte of an instant is near zero, from above or from below. -/
theorem head_encodeTimestamp {d : UInt8} {ds : Bytes} (h : encodeTimestamp t = d :: ds) :
    d.toNat ≤ 3 ∨ 0xF8 ≤ d.toNat := by
  have hlow := t.low
  have hhigh := t.high
  have hmicros := t.micros_cases
  have hlength : ds.length = 7 := by
    have hbytes := congrArg List.length h
    rw [encodeTimestamp, BigEndian.length_ofInt, List.length_cons] at hbytes
    omega
  have hread := BigEndian.toNat_ofInt 8 (t.micros - epochMicros)
  have hlt := BigEndian.toNat_lt ds
  rw [← encodeTimestamp, h, BigEndian.toNat_cons, hlength] at hread
  rw [hlength] at hlt
  simp only [BigEndian.count, epochMicros] at hread hlt
  omega

/-- The bytes of an instant are no text that is read as an instant. -/
theorem toTimestamp?_of_ofText (h : encodeTimestamp t = .ofText s) :
    (Value.string s).toTimestamp? = none := by
  cases hs : s.toList with
  | nil =>
    have hempty : (Bytes.ofText s).length = 0 := by rw [Bytes.ofText_eq_flatMap, hs]; rfl
    rw [← h, encodeTimestamp, BigEndian.length_ofInt] at hempty
    cases hempty
  | cons c cs =>
    obtain ⟨d, ds, hbytes, hd, hc⟩ := Bytes.exists_ofText_cons hs
    have hfirst := head_encodeTimestamp (h.trans hbytes)
    have hctrl : c.toNat ≤ 3 := by omega
    have hblank : Text.isBlank c = false := by
      simp only [Text.isBlank, Bool.or_eq_false_iff, Bool.and_eq_false_iff,
        decide_eq_false_iff_not, beq_eq_false_iff_ne]
      omega
    obtain ⟨cs', htrim⟩ := Text.exists_trim_cons hblank cs
    rw [Value.toTimestamp?, hs, htrim]
    refine Iso.read?_cons_eq_none ?_ ?_ ?_ cs'
    · refine Bool.eq_false_iff.mpr fun hdigit => ?_
      simp only [Char.isDigit, Bool.and_eq_true, decide_eq_true_eq] at hdigit
      have hlow : 48 ≤ c.toNat := hdigit.1
      omega
    · rintro rfl
      exact absurd hctrl (by decide)
    · rintro rfl
      exact absurd hctrl (by decide)

/-! ## Coming back -/

/-- The kind of the fields that hold values of a variant. -/
def kindOf : Value → Kind
  | .bool _ => .bool
  | .int n => .int n.type
  | .f32 _ => .f32
  | .f64 _ => .f64
  | .string _ => .string
  | .bytes _ => .bytes
  | .timestamp _ => .timestamp
  | .list _ | .null => .unsupported

/-- What a column of a type keeps of a value: the nearest number of 32 bits, the whole
microseconds of an instant, and any other value as it is. -/
def KeptAs (ty : PgType) : Value → Value → Prop
  | .f64 x, u => u = .f64 (if ty = .float4 then x.narrow.widen else x)
  | .timestamp t, u => ∃ t' : Timestamp, u = .timestamp t' ∧
      t'.nanos = if ty.isInstant then t.micros * 1000 else t.nanos
  | v, u => u = v

/-- A column of the type that holds the bytes is read as a value that is converted back to
what the column keeps of `v`. -/
def ComesBack (ty : PgType) (v : Value) (b : Bytes) : Prop :=
  ∃ w, decode? ty (some b) = some (.ok w) ∧
    ∃ u, (kindOf v).coerce w = .ok (some u) ∧ KeptAs ty v u

/-- The types that a value has a form of its own at. -/
def Suits (ty : PgType) : Value → Prop
  | .string _ => ty.isCharacter = true ∨ ty = .bytea
  | .bytes b => ty = .bytea ∨ ty.isCharacter = true ∧ ∃ s, b = .ofText s
  | .f32 _ | .f64 _ => ty = .float4 ∨ ty = .float8
  | .timestamp _ => ty.isText = true ∨ ty.isInstant = true
  | _ => False

/-- Bytes of a float that stand for the same number as an integer or as a text. -/
def Coincides (ty : PgType) (b : Bytes) : Value → Prop
  | .f32 x => ty = .int4 ∧ (Binary.ofInt (BigEndian.toInt b) : Binary64).narrow = x ∨
      ty.isCharacter = true ∧ ∃ s y, b = .ofText s ∧
        Binary64.ofText? (Text.trim s.toList) = some y ∧ y.narrow = x
  | .f64 x => ty = .int8 ∧ Binary.ofInt (BigEndian.toInt b) = x ∨
      ty.isCharacter = true ∧ ∃ s, b = .ofText s ∧
        Binary64.ofText? (Text.trim s.toList) = some x
  | _ => False

theorem comesBack_iff :
    ComesBack ty v b ↔
      ∃ w u, Reads ty b w ∧ (kindOf v).convert? w = some u ∧ KeptAs ty v u := by
  simp only [ComesBack, decode?_eq_ok_iff, Kind.coerce_eq_ok_some_iff, exists_and_left]

/-! ## Texts and bytes -/

theorem comesBack_string (s : String) :
    ComesBack ty (.string s) (.ofText s) ↔ ty.isCharacter = true ∨ ty = .bytea := by
  rw [comesBack_iff]
  constructor
  · rintro ⟨w, u, hread, hconvert, rfl⟩
    have htext := Kind.convert?_string_iff.mp hconvert
    by_cases hcharacter : ty.isCharacter = true
    · exact .inl hcharacter
    · -- elsewhere the bytes would have to spell what they encode
      refine .inr (Decidable.not_not.mp fun hbytes => ?_)
      exact toText?_ne_of_reads hread (Bool.eq_false_iff.mpr hcharacter) hbytes htext
  · rintro (hcharacter | rfl)
    · exact ⟨.string s, .string s, .character hcharacter s, rfl, rfl⟩
    · exact ⟨.bytes (.ofText s), .string s, .bytes _,
        Kind.convert?_string_iff.mpr (Bytes.text?_ofText s), rfl⟩

theorem comesBack_bytes (b : Bytes) :
    ComesBack ty (.bytes b) b ↔
      ty = .bytea ∨ ty.isCharacter = true ∧ ∃ s, b = .ofText s := by
  rw [comesBack_iff]
  constructor
  · rintro ⟨w, u, hread, hconvert, -⟩
    cases hread with
    | character hty s => exact .inr ⟨hty, s, rfl⟩
    | bytes => exact .inl rfl
    | _ => cases hconvert
  · rintro (rfl | ⟨hty, s, rfl⟩)
    · exact ⟨.bytes b, .bytes b, .bytes b, rfl, rfl⟩
    · exact ⟨.string s, .bytes (.ofText s), .character hty s, rfl, rfl⟩

/-! ## Floats -/

theorem reads_encodeSingle (x : Binary32) : Reads .float4 (encodeSingle x) (.f32 x) := by
  have hbits : BigEndian.toNat (encodeSingle x) = x.toBits.toNat := by
    rw [encodeSingle, BigEndian.toNat_ofNat]
    exact Nat.mod_eq_of_lt x.toBits.toNat_lt
  have hread := Reads.single (b := encodeSingle x) (BigEndian.length_ofNat 4 _)
  rw [hbits, UInt32.ofNat_toNat, Binary32.ofBits_toBits] at hread
  exact hread

theorem reads_encodeDouble (x : Binary64) : Reads .float8 (encodeDouble x) (.f64 x) := by
  have hbits : BigEndian.toNat (encodeDouble x) = x.toBits.toNat := by
    rw [encodeDouble, BigEndian.toNat_ofNat]
    exact Nat.mod_eq_of_lt x.toBits.toNat_lt
  have hread := Reads.double (b := encodeDouble x) (BigEndian.length_ofNat 8 _)
  rw [hbits, UInt64.ofNat_toNat, Binary64.ofBits_toBits] at hread
  exact hread

/-- The bytes that a number of 32 bits is sent as. -/
def singleBytes (ty : PgType) (x : Binary32) : Bytes :=
  if ty = .float8 then encodeDouble x.widen else encodeSingle x

/-- The bytes that a number of 64 bits is sent as. -/
def doubleBytes (ty : PgType) (x : Binary64) : Bytes :=
  if ty = .float4 then encodeSingle x.narrow else encodeDouble x

theorem length_singleBytes (h : ty ≠ .float8) (x : Binary32) : (singleBytes ty x).length = 4 := by
  rw [singleBytes, if_neg h]
  exact BigEndian.length_ofNat 4 _

theorem length_doubleBytes (h : ty ≠ .float4) (x : Binary64) : (doubleBytes ty x).length = 8 := by
  rw [doubleBytes, if_neg h]
  exact BigEndian.length_ofNat 8 _

theorem eq_int4 {t : IntType} (hty : ty.intType? = some t) (h : t.bits / 8 = 4) : ty = .int4 := by
  cases ty <;> cases hty <;> first | rfl | cases h

theorem eq_int8 {t : IntType} (hty : ty.intType? = some t) (h : t.bits / 8 = 8) : ty = .int8 := by
  cases ty <;> cases hty <;> first | rfl | cases h

/-- Bytes of the size of an integer type are read as the integer that they encode. -/
theorem exists_reads_int {t : IntType} (hty : ty.intType? = some t) (h : b.length = t.bits / 8) :
    ∃ m : FixedInt, Reads ty b (.int m) ∧ m.val = BigEndian.toInt b := by
  have hbounds := BigEndian.toInt_bounds b
  rw [h, ← IntType.count_eq] at hbounds
  have hholds := (IntType.holds_iff_of_signed (PgType.signed_of_intType? hty)).mpr hbounds
  exact ⟨⟨t, _, hholds⟩, .int hty h rfl, rfl⟩

theorem comesBack_f32 (x : Binary32) :
    ComesBack ty (.f32 x) (singleBytes ty x) ↔
      (ty = .float4 ∨ ty = .float8) ∨ Coincides ty (singleBytes ty x) (.f32 x) := by
  rw [comesBack_iff]
  constructor
  · rintro ⟨w, u, hread, hconvert, rfl⟩
    generalize hb : singleBytes ty x = b at hread
    -- of the foreign readings only an integer on four bytes and a text can be the number
    cases hread with
    | bool n =>
      have hlength := length_singleBytes (show PgType.bool ≠ .float8 by decide) x
      rw [hb] at hlength
      cases hlength
    | @int _ _ m hty hlength hval =>
      have hne : ty ≠ .float8 := by rintro rfl; cases hty
      have hx : (Binary.ofInt m.val : Binary64).narrow = x :=
        Value.f32.inj (Option.some.inj hconvert)
      rw [← hb, length_singleBytes hne] at hlength
      exact .inr (.inl ⟨eq_int4 hty hlength.symm, hval ▸ hx⟩)
    | single => exact .inl (.inl rfl)
    | double => exact .inl (.inr rfl)
    | character hty s =>
      obtain ⟨y, hy, heq⟩ := Option.map_eq_some_iff.mp hconvert
      cases heq
      exact .inr (.inr ⟨hty, s, y, rfl, hy, rfl⟩)
    | bytes => cases hconvert
    | instant => cases hconvert
  · rintro ((rfl | rfl) | ⟨rfl, hx⟩ | ⟨hty, s, y, hb, hy, hx⟩)
    · exact ⟨.f32 x, .f32 x, reads_encodeSingle x, rfl, rfl⟩
    · exact ⟨.f64 x.widen, .f32 x, reads_encodeDouble x.widen,
        congrArg (fun y => some (Value.f32 y)) x.narrow_widen, rfl⟩
    · have hlength : (singleBytes .int4 x).length = 4 := length_singleBytes (by decide) x
      obtain ⟨m, hread, hval⟩ := exists_reads_int (show PgType.int4.intType? = some .i32 from rfl)
        hlength
      rw [← hval] at hx
      exact ⟨.int m, .f32 x, hread, congrArg (fun y => some (Value.f32 y)) hx, rfl⟩
    · refine ⟨.string s, .f32 x, hb ▸ .character hty s, ?_, rfl⟩
      rw [← hx]
      exact congrArg (Option.map fun y => Value.f32 y.narrow) hy

theorem comesBack_f64 (x : Binary64) :
    ComesBack ty (.f64 x) (doubleBytes ty x) ↔
      (ty = .float4 ∨ ty = .float8) ∨ Coincides ty (doubleBytes ty x) (.f64 x) := by
  rw [comesBack_iff]
  constructor
  · rintro ⟨w, u, hread, hconvert, rfl⟩
    by_cases hsingle : ty = .float4
    · exact .inl (.inl hsingle)
    · rw [if_neg hsingle] at hconvert
      have hlength := length_doubleBytes hsingle x
      generalize doubleBytes ty x = b at hread hlength
      -- of the foreign readings only an integer on eight bytes and a text can be the number
      cases hread with
      | bool n => cases hlength
      | @int _ _ m hty hbits hval =>
        have hx : Binary.ofInt m.val = x := Option.some.inj (Kind.convert?_f64_iff.mp hconvert)
        rw [hlength] at hbits
        exact .inr (.inl ⟨eq_int8 hty hbits.symm, hval ▸ hx⟩)
      | single => exact .inl (.inl rfl)
      | double => exact .inl (.inr rfl)
      | character hty s => exact .inr (.inr ⟨hty, s, rfl, Kind.convert?_f64_iff.mp hconvert⟩)
      | bytes => cases hconvert
      | instant => cases hconvert
  · rintro ((rfl | rfl) | ⟨rfl, hx⟩ | ⟨hty, s, hb, hy⟩)
    · exact ⟨.f32 x.narrow, _, reads_encodeSingle x.narrow, rfl, rfl⟩
    · exact ⟨.f64 x, _, reads_encodeDouble x, rfl, rfl⟩
    · have hlength : (doubleBytes .int8 x).length = 8 := length_doubleBytes (by decide) x
      obtain ⟨m, hread, hval⟩ := exists_reads_int (show PgType.int8.intType? = some .i64 from rfl)
        hlength
      rw [← hval] at hx
      exact ⟨.int m, .f64 x, hread, Kind.convert?_f64_iff.mpr (congrArg some hx), rfl⟩
    · have hne : ty ≠ .float4 := by rintro rfl; cases hty
      refine ⟨.string s, .f64 x, hb ▸ .character hty s, Kind.convert?_f64_iff.mpr hy, ?_⟩
      rw [KeptAs, if_neg hne]

/-! ## Instants -/

/-- The bytes that an instant is sent as. -/
def timestampBytes (ty : PgType) (t : Timestamp) : Bytes :=
  if ty.isText then encodeText t.text else encodeTimestamp t

/-- A count of seconds from 1970 is never the same instant as a count of microseconds
from 2000. -/
theorem toTimestamp?_int_ne {m : FixedInt} (hval : m.val = t.micros - epochMicros) :
    (Value.int m).toTimestamp? ≠ some t := by
  intro hread
  obtain ⟨n, hn, hseconds⟩ := Option.bind_eq_some_iff.mp hread
  have hmicros := t.micros_cases
  have hn : n = m.val := by
    simp only [Value.int64?, Value.int?, Option.bind_some] at hn
    split at hn
    · exact (Option.some.inj hn).symm
    · cases hn
  unfold Timestamp.ofSeconds? at hseconds
  split at hseconds
  · have hnanos := congrArg Timestamp.nanos (Option.some.inj hseconds)
    simp only [epochMicros] at hnanos hval
    -- the counts are equal at 946684800000000 / 999999, which is no integer
    omega
  · cases hseconds

/-- The bytes of an instant are read as one at the types of instants only, if an integer would
have to be the very same instant. -/
theorem isInstant_of_reads (hread : Reads ty (encodeTimestamp t) w) {t' : Timestamp}
    (hw : w.toTimestamp? = some t') (hkept : ty = .int8 → t' = t) : ty.isInstant = true := by
  have hlength : (encodeTimestamp t).length = 8 := BigEndian.length_ofInt 8 _
  have hint := toInt_encodeTimestamp t
  generalize hb : encodeTimestamp t = b at hread hlength hint
  cases hread with
  | bool n => cases hlength
  | int hinteger hbits hval =>
    rw [hlength] at hbits
    obtain rfl := eq_int8 hinteger hbits.symm
    rw [hkept rfl] at hw
    exact absurd hw (toTimestamp?_int_ne (hval.trans hint))
  | single hsingle => exact absurd (hlength.symm.trans hsingle) (by decide)
  | double => cases hw
  | character hcharacter s =>
    rw [toTimestamp?_of_ofText hb] at hw
    cases hw
  | bytes => cases hw
  | instant hinstant => exact hinstant

theorem comesBack_timestamp (t : Timestamp) :
    ComesBack ty (.timestamp t) (timestampBytes ty t) ↔
      ty.isText = true ∨ ty.isInstant = true := by
  rw [comesBack_iff]
  by_cases htext : ty.isText = true
  · have hb : timestampBytes ty t = .ofText (String.ofList t.text) := if_pos htext
    have hcharacter : ty.isCharacter = true := by cases ty <;> first | rfl | cases htext
    have hinstant : ty.isInstant = false := by cases ty <;> first | rfl | cases htext
    refine iff_of_true ⟨.string (String.ofList t.text), .timestamp t, ?_, ?_, t, rfl, ?_⟩
      (.inl htext)
    · exact hb ▸ .character hcharacter _
    · exact Kind.convert?_timestamp_iff.mpr (Value.toTimestamp?_text t)
    · rw [hinstant]
      rfl
  · have hb : timestampBytes ty t = encodeTimestamp t := if_neg htext
    rw [hb]
    constructor
    · rintro ⟨w, u, hread, hconvert, t', rfl, hkept⟩
      have hw := Kind.convert?_timestamp_iff.mp hconvert
      refine .inr (isInstant_of_reads hread hw ?_)
      rintro rfl
      exact Timestamp.ext hkept
    · intro hsuits
      have hinstant := hsuits.resolve_left htext
      obtain ⟨t', ht'⟩ := t.exists_micros
      have hread : Reads ty (encodeTimestamp t) (.timestamp t') := by
        refine .instant hinstant (BigEndian.length_ofInt 8 _) ?_
        rw [ht', toInt_encodeTimestamp, Int.sub_add_cancel]
      exact ⟨.timestamp t', _, hread, rfl, t', rfl, by rw [ht', if_pos hinstant]⟩

/-! ## There and back -/

/-- The variants of values that are sent at every type. -/
def isRaw : Value → Bool
  | .string _ | .bytes _ | .f32 _ | .f64 _ | .timestamp _ => true
  | _ => false

/-- A text, bytes, a float or an instant can be sent at every type. It comes back if and only
if the type suits it, or its bytes happen to stand for the same number there; otherwise its
bytes are taken for another value. -/
theorem encode_raw (hv : isRaw v = true) (hty : ty.isAccepted = true) :
    ∃ b, encode ty v = .ok (some b) ∧ (ComesBack ty v b ↔ Suits ty v ∨ Coincides ty b v) := by
  simp only [encode, hty, if_true]
  cases v with
  | string s => exact ⟨_, rfl, by simpa only [Suits, Coincides, or_false] using comesBack_string s⟩
  | bytes b => exact ⟨_, rfl, by simpa only [Suits, Coincides, or_false] using comesBack_bytes b⟩
  | f32 x => exact ⟨_, rfl, comesBack_f32 x⟩
  | f64 x => exact ⟨_, rfl, comesBack_f64 x⟩
  | timestamp t =>
    refine ⟨timestampBytes ty t, rfl, ?_⟩
    simpa only [Suits, Coincides, or_false] using comesBack_timestamp t
  | _ => cases hv

theorem encode_raw_epoch :
    ∃ b, encode .timestamptz (.timestamp .epoch) = .ok (some b) ∧
      ComesBack .timestamptz (.timestamp .epoch) b := by
  have hraw : isRaw (.timestamp .epoch) = true := rfl
  have haccepted : PgType.timestamptz.isAccepted = true := rfl
  obtain ⟨b, hencode, hback⟩ := encode_raw hraw haccepted
  exact ⟨b, hencode, hback.mpr (.inl (.inr rfl))⟩

/-- One, as a number of 32 bits. -/
def singleOne : Binary32 := .signed false 0x3F800000 (by decide)

/-- The bytes of the float one are sent as the integer 1065353216. -/
theorem encode_single_misread :
    encode .int4 (.f32 singleOne) = .ok (some [0x3F, 0x80, 0, 0]) ∧
      decode? .int4 (some [0x3F, 0x80, 0, 0]) =
        some (.ok (.int ⟨.i32, 1065353216, by decide⟩)) ∧
      ¬ComesBack .int4 (.f32 singleOne) [0x3F, 0x80, 0, 0] := by
  refine ⟨rfl, decode?_eq_ok_iff.mpr (.int rfl rfl (by decide)), fun hback => ?_⟩
  rcases (comesBack_f32 singleOne).mp hback with (h | h) | ⟨-, h⟩ | ⟨h, -⟩
  · cases h
  · cases h
  · exact absurd h (by decide +kernel)
  · cases h

end Postgres

end RelMap
