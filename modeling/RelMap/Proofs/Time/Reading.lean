-- SUMMARY: The text of a timestamp is in one format, and is read back as the timestamp.
import RelMap.Coercion
import RelMap.Proofs.Time.Grammar

/-!
# Reading timestamps

`UtcText` is the format that timestamps are written in: of the texts in the grammar of
date-times, the one that RFC 3339 asks for. Main statements: the text of every timestamp is in
this format, and is read as that timestamp.
-/
namespace RelMap

namespace Iso

open Digits (IsRun value)

/-! ## The format -/

/-- The text of a moment in UTC: the extended format with `T` and `Z`, years of four digits
from zero on, and a fraction that does not end in zeros. -/
inductive UtcText : List Char → Moment → Prop where
  | intro {ys ms ds hs is ss fs : List Char} {y : Int} {m d h i s f : Nat}
    (year : YearText ys y) (places : ys.length = 4 ↔ 0 ≤ y) (month : PlacesText 2 1 12 ms m)
    (day : PlacesText 2 1 31 ds d) (valid : (⟨y, m, d⟩ : Date).Valid)
    (hour : PlacesText 2 0 23 hs h) (minute : PlacesText 2 0 59 is i)
    (second : PlacesText 2 0 59 ss s) (fraction : FractionText fs f)
    (point : ∀ c ∈ fs.head?, c = '.') (short : ∀ c ∈ fs.getLast?, c ≠ '0') :
    UtcText (ys ++ '-' :: ms ++ '-' :: ds ++ 'T' :: hs ++ ':' :: is ++ ':' :: ss ++ fs ++ ['Z'])
      ⟨⟨y, m, d⟩, ⟨h, i, s, f⟩⟩

theorem UtcText.dateTimeText {cs : List Char} {m : Moment} (h : UtcText cs m) :
    DateTimeText cs m (some .zulu) := by
  obtain ⟨year, -, month, day, valid, hour, minute, second, fraction, -, -⟩ := h
  have date := DateText.ymd true year month day valid
  have time := TimeText.second true hour minute (second.mono (by decide : 59 ≤ 60)) fraction
  have text := DateTimeText.intro date (.inr (.inl rfl)) (.hms time) (.zulu (.inl rfl))
    (rfl : annotations [] = some [])
  have hsecond := second.high
  rw [if_neg (by omega)] at text
  simpa only [mark, if_true, List.append_assoc, List.cons_append, List.nil_append,
    List.append_nil] using text

/-! ## Dates -/

theorem yearText_yearText {y : Int} (hlow : -9999 ≤ y) (hhigh : y ≤ 9999) :
    YearText (Date.yearText y) y ∧ ((Date.yearText y).length = 4 ↔ 0 ≤ y) := by
  unfold Date.yearText
  split
  · next hpos =>
    have places := placesText_padded (show 0 < 4 by decide) (show y.toNat < 10 ^ 4 by omega)
      (Nat.zero_le _) (show y.toNat ≤ 9999 by omega)
    have text := YearText.bare places
    rw [Int.toNat_of_nonneg hpos.1] at text
    exact ⟨text, iff_of_true places.length hpos.1⟩
  · next hout =>
    have places := placesText_padded (show 0 < 6 by decide) (show y.natAbs < 10 ^ 6 by omega)
      (show 1 ≤ y.natAbs by omega) (show y.natAbs ≤ 9999 by omega)
    have text := YearText.minus places
    rw [show -(y.natAbs : Int) = y by omega] at text
    rw [if_pos (by omega)]
    refine ⟨text, iff_of_false ?_ (by omega)⟩
    rw [List.length_cons, places.length]
    decide

theorem day_le_of_valid {d : Date} (h : d.Valid) : d.day ≤ 31 := by
  have hlengths : ∀ length ∈ Date.monthLengths (Date.isLeap d.year), length ≤ 31 := by
    cases Date.isLeap d.year <;> decide
  refine Nat.le_trans h.2.2.2 ?_
  rw [List.getD_eq_getElem?_getD]
  cases hlength : (Date.monthLengths (Date.isLeap d.year))[d.month - 1]? with
  | none => exact Nat.zero_le _
  | some length => exact hlengths length (List.mem_of_getElem? hlength)

/-! ## Times of day -/

/-- The time of day is one of the clock. -/
structure ValidClock (c : Clock) : Prop where
  hour : c.hour ≤ 23
  minute : c.minute ≤ 59
  second : c.second ≤ 59
  nano : c.nano < 1000000000

/-- The digits of a fraction of a second without the zeros at the end. -/
def shortened (nano : Nat) : List Char :=
  ((Digits.padded 9 nano).reverse.dropWhile (· = '0')).reverse

theorem shortened_append_zeros {nano : Nat} (h : nano < 1000000000) :
    (shortened nano).length ≤ 9 ∧
      shortened nano ++ List.replicate (9 - (shortened nano).length) '0' =
        Digits.padded 9 nano := by
  have hlength : (Digits.padded 9 nano).reverse.length = 9 := by
    rw [List.length_reverse, Digits.length_padded (by decide) h]
  have hsplit := List.takeWhile_append_dropWhile (p := (· = '0'))
    (l := (Digits.padded 9 nano).reverse)
  have hzeros : ((Digits.padded 9 nano).reverse.takeWhile (· = '0')).reverse =
      List.replicate ((Digits.padded 9 nano).reverse.takeWhile (· = '0')).length '0' := by
    rw [List.eq_replicate_iff, List.length_reverse]
    refine ⟨rfl, fun c hc => ?_⟩
    exact of_decide_eq_true (List.all_eq_true.mp List.all_takeWhile c (List.mem_reverse.mp hc))
  have hsum := congrArg List.length hsplit
  rw [List.length_append, hlength] at hsum
  have hshort : (shortened nano).length =
      ((Digits.padded 9 nano).reverse.dropWhile (· = '0')).length := List.length_reverse
  have hrest : 9 - (shortened nano).length =
      ((Digits.padded 9 nano).reverse.takeWhile (· = '0')).length := by omega
  refine ⟨by omega, ?_⟩
  rw [hrest, ← hzeros, shortened, ← List.reverse_append, hsplit, List.reverse_reverse]

theorem isDigit_of_mem_shortened {nano : Nat} {c : Char} (h : c ∈ shortened nano) :
    c.isDigit = true := by
  have hmem := (List.dropWhile_sublist _).subset (List.mem_reverse.mp h)
  exact Digits.isDigit_of_mem_padded (List.mem_reverse.mp hmem)

theorem shortened_ne_nil {nano : Nat} (h : nano < 1000000000) (hpos : nano ≠ 0) :
    shortened nano ≠ [] := by
  intro hnil
  have hzeros := (shortened_append_zeros h).2
  rw [hnil, List.nil_append, List.length_nil] at hzeros
  have hread := Digits.toNat?_padded 9 nano
  rw [← hzeros] at hread
  exact hpos (Option.some.inj hread).symm

theorem getLast?_shortened (nano : Nat) : ∀ c ∈ (shortened nano).getLast?, c ≠ '0' := by
  rintro c hc rfl
  rw [shortened, List.getLast?_reverse] at hc
  have h := List.head?_dropWhile_not (· = '0') (Digits.padded 9 nano).reverse
  rw [hc] at h
  cases h

theorem fractionText_fractionText {nano : Nat} (h : nano < 1000000000) :
    FractionText (Clock.fractionText nano) nano ∧
      (∀ c ∈ (Clock.fractionText nano).head?, c = '.') ∧
      ∀ c ∈ (Clock.fractionText nano).getLast?, c ≠ '0' := by
  unfold Clock.fractionText
  split
  · next hzero =>
    rw [hzero]
    exact ⟨.absent, nofun, nofun⟩
  · next hpos =>
    obtain ⟨hlength, hzeros⟩ := shortened_append_zeros h
    have hrun : IsRun (shortened nano) :=
      ⟨shortened_ne_nil h hpos, fun _ hc => isDigit_of_mem_shortened hc⟩
    have text := FractionText.present (.inl rfl : '.' = '.' ∨ '.' = ',') hrun hlength
    rw [← value_append_zeros, hzeros, Digits.value_padded] at text
    refine ⟨text, fun c hc => (Option.some.inj hc).symm, ?_⟩
    change ∀ c ∈ ('.' :: shortened nano).getLast?, c ≠ '0'
    rw [List.getLast?_cons_of_ne_nil hrun.ne_nil]
    exact getLast?_shortened nano

/-! ## Texts that are no timestamps -/

/-- A timestamp starts with a digit or with a sign. -/
theorem read?_cons_eq_none {c : Char} (hdigit : c.isDigit = false) (hplus : c ≠ '+')
    (hminus : c ≠ '-') (cs : List Char) : read? (c :: cs) = none := by
  have hdigits : digits 4 (c :: cs) = none := by
    unfold digits
    split
    · rw [Digits.toNat?, if_neg (by simp [hdigit])]
      rfl
    · rfl
  have hyear : year (c :: cs) = none := by
    unfold year
    split
    · next heq => cases heq; exact absurd rfl hminus
    · next heq => cases heq; exact absurd rfl hplus
    · rw [hdigits]
      rfl
  have hcivil : civil? (c :: cs) = none := by simp [civil?, date, hyear]
  simp [read?, timestamp?, moment?, hcivil]

end Iso

/-! ## Timestamps -/

namespace Timestamp

/-- The days that timestamps fall on are those of the years from -9999 to 9999. -/
theorem year_bounds (t : Timestamp) :
    -9999 ≤ t.moment.date.year ∧ t.moment.date.year ≤ 9999 := by
  have hlow := t.low
  have hhigh := t.high
  have hyear := Date.yearOf_bounds (t.nanos / 86400000000000 + Date.epoch)
  have hbelow := Date.daysBeforeYear_bounds (Date.yearOf (t.nanos / 86400000000000 + Date.epoch))
  have heq : t.moment.date.year = Date.yearOf (t.nanos / 86400000000000 + Date.epoch) := rfl
  rw [heq]
  generalize Date.yearOf (t.nanos / 86400000000000 + Date.epoch) = y at hyear hbelow
  simp only [Date.epoch, Date.daysBeforeYear] at hyear hbelow
  constructor <;> omega

theorem validClock (t : Timestamp) : Iso.ValidClock t.moment.clock := by
  have hmod := Int.emod_lt_of_pos t.nanos (show (0 : Int) < 86400000000000 by decide)
  constructor <;> simp only [moment, Moment.ofNanos, Clock.ofNanos] <;> omega

/-- A timestamp is written as its date and time of day in UTC. -/
theorem utcText_text (t : Timestamp) : Iso.UtcText t.text t.moment := by
  obtain ⟨year, places⟩ := Iso.yearText_yearText t.year_bounds.1 t.year_bounds.2
  have hvalid : t.moment.date.Valid := Date.valid_ofDayNumber _
  obtain ⟨hhour, hminute, hsecond, hnano⟩ := t.validClock
  have hday := Iso.day_le_of_valid hvalid
  have month := Iso.placesText_padded (show 0 < 2 by decide)
    (Nat.lt_of_le_of_lt hvalid.2.1 (by decide)) hvalid.1 hvalid.2.1
  have day := Iso.placesText_padded (show 0 < 2 by decide)
    (Nat.lt_of_le_of_lt hday (by decide)) hvalid.2.2.1 hday
  have two {n high : Nat} (h : n ≤ high) (hhigh : high ≤ 59) :
      Iso.PlacesText 2 0 high (Digits.padded 2 n) n :=
    Iso.placesText_padded (by decide) (by omega) (Nat.zero_le n) h
  obtain ⟨fraction, point, short⟩ := Iso.fractionText_fractionText hnano
  have text := Iso.UtcText.intro year places month day hvalid (two hhour (by decide))
    (two hminute (by decide)) (two hsecond (by decide)) fraction point short
  simpa only [Timestamp.text, Date.text, Clock.text, List.append_assoc, List.cons_append] using text

theorem nanos_moment (t : Timestamp) : t.moment.nanos = t.nanos := Moment.nanos_ofNanos t.nanos

/-- The text of a timestamp is read as the timestamp. -/
theorem read?_text (t : Timestamp) : Iso.read? t.text = some t := by
  have hinstant : Iso.timestamp? t.text = some t := by
    simp [Iso.timestamp?, t.utcText_text.dateTimeText.civil?_eq, Iso.offsetValue?,
      show (Moment.mk t.moment.date t.moment.clock).nanos = t.nanos from t.nanos_moment]
  rw [Iso.read?, hinstant]

/-- A date starts with a digit or with the minus sign of its year. -/
theorem trim_text (t : Timestamp) : Text.trim t.text = t.text := by
  obtain ⟨c, cs, hcs, hblank⟩ :
      ∃ c cs, Date.yearText t.moment.date.year = c :: cs ∧ Text.isBlank c = false := by
    unfold Date.yearText
    split
    · obtain ⟨c, cs, hcs⟩ :=
        List.exists_cons_of_ne_nil (Digits.padded_ne_nil 4 t.moment.date.year.toNat)
      have hc : c.isDigit = true :=
        Digits.isDigit_of_mem_padded (by rw [hcs]; exact List.mem_cons_self)
      exact ⟨c, cs, hcs, Text.isBlank_of_isDigit hc⟩
    · refine ⟨_, _, rfl, ?_⟩
      split <;> rfl
  have hstart : t.text = c :: (cs ++ '-' :: Digits.padded 2 t.moment.date.month ++
      '-' :: Digits.padded 2 t.moment.date.day ++ 'T' :: t.moment.clock.text ++ ['Z']) := by
    simp [text, Date.text, hcs]
  rw [Text.trim, hstart, Text.trimStart_cons hblank, ← hstart, text,
    Text.trimEnd_append_singleton (by decide)]

end Timestamp

/-- The text of a timestamp is converted to the timestamp. -/
theorem Value.toTimestamp?_text (t : Timestamp) :
    (Value.string (String.ofList t.text)).toTimestamp? = some t := by
  rw [toTimestamp?, String.toList_ofList, t.trim_text, t.read?_text]

end RelMap
