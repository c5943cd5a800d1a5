-- SUMMARY: The texts that date-times with an offset are read from, given as a grammar.
import Mathlib.Data.List.Basic
import RelMap.Proofs.Number.Numerals
import RelMap.Time.Iso

/-!
# The grammar of date-times

Relations between texts and what they say: numbers on a fixed number of places, dates, times of
day, offsets from UTC. Main statements: each reader takes in the texts of its relation and
leaves the rest, and a text is read as a date-time with a numeric offset exactly if it is a date,
a time of day, an offset and annotations.
-/
namespace RelMap.Iso

open Digits (IsRun value)

/-! ## Texts -/

/-- A number on so many places, from `low` to `high`. -/
structure PlacesText (width low high : Nat) (cs : List Char) (n : Nat) : Prop where
  run : IsRun cs
  length : cs.length = width
  value : value cs = n
  low : low ≤ n
  high : n ≤ high

/-- A year: four digits, or a sign and six. Year zero has no minus sign. -/
inductive YearText : List Char → Int → Prop where
  | bare {cs : List Char} {n : Nat} (places : PlacesText 4 0 9999 cs n) : YearText cs n
  | plus {cs : List Char} {n : Nat} (places : PlacesText 6 0 9999 cs n) : YearText ('+' :: cs) n
  | minus {cs : List Char} {n : Nat} (places : PlacesText 6 1 9999 cs n) :
    YearText ('-' :: cs) (-n)

/-- The separator of two components, which only the extended format has. -/
def mark (extended : Bool) (c : Char) : List Char := if extended then [c] else []

/-- A date of the calendar. -/
inductive DateText : List Char → Date → Prop where
  | ymd {ys ms ds : List Char} {y : Int} {m d : Nat} (extended : Bool) (year : YearText ys y)
    (month : PlacesText 2 1 12 ms m) (day : PlacesText 2 1 31 ds d)
    (valid : (⟨y, m, d⟩ : Date).Valid) :
    DateText (ys ++ mark extended '-' ++ ms ++ mark extended '-' ++ ds) ⟨y, m, d⟩

/-- A fraction of a second in nanoseconds: up to nine digits, or nothing. -/
inductive FractionText : List Char → Nat → Prop where
  | absent : FractionText [] 0
  | present {c : Char} {ds : List Char} (point : c = '.' ∨ c = ',') (run : IsRun ds)
    (length : ds.length ≤ 9) : FractionText (c :: ds) (value ds * 10 ^ (9 - ds.length))

/-- Hours up to a bound, with minutes, with seconds up to a bound and a fraction. -/
inductive TimeText (hours seconds : Nat) : List Char → Nat → Nat → Nat → Nat → Prop where
  | hour {hs : List Char} {h : Nat} (hour : PlacesText 2 0 hours hs h) :
    TimeText hours seconds hs h 0 0 0
  | minute {hs ms : List Char} {h m : Nat} (extended : Bool) (hour : PlacesText 2 0 hours hs h)
    (minute : PlacesText 2 0 59 ms m) :
    TimeText hours seconds (hs ++ mark extended ':' ++ ms) h m 0 0
  | second {hs ms ss fs : List Char} {h m s f : Nat} (extended : Bool)
    (hour : PlacesText 2 0 hours hs h) (minute : PlacesText 2 0 59 ms m)
    (second : PlacesText 2 0 seconds ss s) (fraction : FractionText fs f) :
    TimeText hours seconds (hs ++ mark extended ':' ++ ms ++ mark extended ':' ++ ss ++ fs) h m s f

/-- A time of day. Second 60 is taken for second 59. -/
inductive ClockText : List Char → Clock → Prop where
  | hms {cs : List Char} {h m s f : Nat} (time : TimeText 23 60 cs h m s f) :
    ClockText cs ⟨h, m, if s = 60 then 59 else s, f⟩

/-- A numeric offset in seconds, half a second and more counted as one. -/
inductive OffsetText : List Char → Int → Prop where
  | east {cs : List Char} {h m s f : Nat} (time : TimeText 25 59 cs h m s f) :
    OffsetText ('+' :: cs) (offsetSeconds h m s (some f))
  | west {cs : List Char} {h m s f : Nat} (time : TimeText 25 59 cs h m s f) :
    OffsetText ('-' :: cs) (-offsetSeconds h m s (some f))

/-- What a text says of UTC: nothing, that it is in UTC, or how far it is off. -/
inductive ZoneText : List Char → Option Offset → Prop where
  | unsaid : ZoneText [] none
  | zulu {c : Char} (letter : c = 'Z' ∨ c = 'z') : ZoneText [c] (some .zulu)
  | numeric {cs : List Char} {n : Int} (offset : OffsetText cs n) :
    ZoneText cs (some (.numeric n))

/-- A date and a time of day, what they say of UTC, and annotations. -/
inductive DateTimeText : List Char → Moment → Option Offset → Prop where
  | intro {ds ts zs as : List Char} {c : Char} {d : Date} {k : Clock} {o : Option Offset}
    (date : DateText ds d) (separator : c = ' ' ∨ c = 'T' ∨ c = 't') (clock : ClockText ts k)
    (zone : ZoneText zs o) (annotations : annotations as = some []) :
    DateTimeText (ds ++ c :: (ts ++ (zs ++ as))) ⟨d, k⟩ o

/-- What neither digits nor a time of day go on with. -/
def Stops (rest : List Char) : Prop :=
  ∀ c ∈ rest.head?, c.isDigit = false ∧ c ≠ ':' ∧ c ≠ '.' ∧ c ≠ ','

variable {width low high n : Nat} {extended : Bool} {cs rest : List Char}

/-! ## Numbers -/

theorem digits_eq_some_iff :
    digits width cs = some (n, rest) ↔
      ∃ ds, IsRun ds ∧ ds.length = width ∧ value ds = n ∧ cs = ds ++ rest := by
  constructor
  · intro h
    unfold digits at h
    split at h
    · next hlength =>
      obtain ⟨m, hm, heq⟩ := Option.map_eq_some_iff.mp h
      cases heq
      obtain ⟨hrun, hvalue⟩ := Digits.toNat?_eq_some_iff.mp hm
      exact ⟨_, hrun, hlength, hvalue, (List.take_append_drop width cs).symm⟩
    · cases h
  · rintro ⟨ds, hrun, hlength, hvalue, rfl⟩
    rw [digits, List.take_left' hlength, List.drop_left' hlength, if_pos hlength, hrun.toNat?,
      hvalue]
    rfl

theorem PlacesText.digits_eq (h : PlacesText width low high cs n) (rest : List Char) :
    digits width (cs ++ rest) = some (n, rest) :=
  digits_eq_some_iff.mpr ⟨cs, h.run, h.length, h.value, rfl⟩

theorem exists_placesText (h : digits width cs = some (n, rest)) (hlow : low ≤ n)
    (hhigh : n ≤ high) : ∃ ds, PlacesText width low high ds n ∧ cs = ds ++ rest := by
  obtain ⟨ds, hrun, hlength, hvalue, hcs⟩ := digits_eq_some_iff.mp h
  exact ⟨ds, ⟨hrun, hlength, hvalue, hlow, hhigh⟩, hcs⟩

theorem lt_of_digits (h : digits width cs = some (n, rest)) : n < 10 ^ width := by
  obtain ⟨ds, hrun, rfl, rfl, -⟩ := digits_eq_some_iff.mp h
  exact Digits.value_lt hrun.isDigit

theorem PlacesText.twoDigits_eq (h : PlacesText 2 low high cs n) (rest : List Char) :
    twoDigits low high (cs ++ rest) = some (n, rest) := by
  rw [twoDigits, h.digits_eq]
  exact if_pos ⟨h.low, h.high⟩

theorem exists_places_of_twoDigits (h : twoDigits low high cs = some (n, rest)) :
    ∃ ds, PlacesText 2 low high ds n ∧ cs = ds ++ rest := by
  unfold twoDigits at h
  split at h
  · next hread =>
    obtain ⟨hbounds, heq⟩ := Option.ite_none_right_eq_some.mp h
    cases heq
    exact exists_placesText hread hbounds.1 hbounds.2
  · cases h

theorem PlacesText.mono {high' : Nat} (h : PlacesText width low high cs n) (hle : high ≤ high') :
    PlacesText width low high' cs n :=
  { h with high := Nat.le_trans h.high hle }

/-- The number on so many places with zeros in front. -/
theorem placesText_padded (hwidth : 0 < width) (h : n < 10 ^ width) (hlow : low ≤ n)
    (hhigh : n ≤ high) : PlacesText width low high (Digits.padded width n) n :=
  ⟨Digits.isRun_padded width n, Digits.length_padded hwidth h, Digits.value_padded width n, hlow,
    hhigh⟩

/-! ## Dates -/

theorem year_of_run {ds : List Char} (h : IsRun ds) :
    year (ds ++ rest) = (digits 4 (ds ++ rest)).map fun (n, rest) => ((n : Int), rest) := by
  obtain ⟨c, cs, rfl⟩ := List.exists_cons_of_ne_nil h.ne_nil
  obtain ⟨hplus, hminus⟩ := Digits.ne_sign_of_isDigit h.head_isDigit
  rw [year]
  · exact fun _ heq => hminus (List.cons.inj heq).1
  · exact fun _ heq => hplus (List.cons.inj heq).1

theorem YearText.year_eq {y : Int} (h : YearText cs y) (rest : List Char) :
    year (cs ++ rest) = some (y, rest) := by
  cases h with
  | bare places =>
    rw [year_of_run places.run, places.digits_eq]
    rfl
  | plus places =>
    rw [List.cons_append, year, places.digits_eq]
    exact if_neg (Nat.not_lt.mpr places.high)
  | minus places =>
    have hlow := places.low
    have hhigh := places.high
    rw [List.cons_append, year, places.digits_eq]
    exact if_neg (by omega)

theorem exists_yearText {y : Int} (h : year cs = some (y, rest)) :
    ∃ ys, YearText ys y ∧ cs = ys ++ rest := by
  unfold year at h
  split at h
  · split at h
    · next hread =>
      obtain ⟨hbounds, heq⟩ := Option.ite_none_left_eq_some.mp h
      cases heq
      obtain ⟨ds, hplaces, rfl⟩ := exists_placesText hread (by omega : 1 ≤ _)
        (by omega : _ ≤ 9999)
      exact ⟨_, .minus hplaces, rfl⟩
    · cases h
  · split at h
    · next hread =>
      obtain ⟨hbounds, heq⟩ := Option.ite_none_left_eq_some.mp h
      cases heq
      obtain ⟨ds, hplaces, rfl⟩ := exists_placesText hread (Nat.zero_le _) (Nat.not_lt.mp hbounds)
      exact ⟨_, .plus hplaces, rfl⟩
    · cases h
  · obtain ⟨⟨n, tail⟩, hread, heq⟩ := Option.map_eq_some_iff.mp h
    cases heq
    obtain ⟨ds, hplaces, rfl⟩ := exists_placesText hread (Nat.zero_le _)
      (Nat.le_of_lt_succ (lt_of_digits hread))
    exact ⟨ds, .bare hplaces, rfl⟩

/-- A digit stands before the rest. -/
theorem PlacesText.exists_cons (h : PlacesText width low high cs n) :
    ∃ c ds, cs = c :: ds ∧ c.isDigit = true := by
  obtain ⟨c, ds, rfl⟩ := List.exists_cons_of_ne_nil h.run.ne_nil
  exact ⟨c, ds, rfl, h.run.head_isDigit⟩

theorem separator_mark (h : PlacesText width low high cs n) (rest : List Char) :
    separator extended (mark extended '-' ++ (cs ++ rest)) = some (cs ++ rest) := by
  obtain ⟨c, ds, rfl, hc⟩ := h.exists_cons
  cases extended with
  | true => rfl
  | false =>
    rw [mark, if_neg Bool.false_ne_true, List.nil_append, List.cons_append, separator]
    · rfl
    · exact fun _ heq => (Digits.ne_sign_of_isDigit hc).2 (List.cons.inj heq).1

theorem eq_of_separator (h : separator extended cs = some rest) :
    cs = mark extended '-' ++ rest := by
  unfold separator at h
  split at h
  · obtain ⟨rfl, heq⟩ := Option.ite_none_right_eq_some.mp h
    cases heq
    rfl
  · obtain ⟨hbasic, heq⟩ := Option.ite_none_left_eq_some.mp h
    cases heq
    rw [Bool.eq_false_of_not_eq_true hbasic]
    rfl

/-- Whether a format is the extended one shows after its first component. -/
theorem head?_mark {c : Char} (h : PlacesText width low high cs n) (hc : c.isDigit = false)
    (rest : List Char) : ((mark extended c ++ (cs ++ rest)).head? == some c) = extended := by
  obtain ⟨d, ds, rfl, hd⟩ := h.exists_cons
  cases extended with
  | true => exact beq_self_eq_true _
  | false =>
    refine beq_eq_false_iff_ne.mpr fun heq => ?_
    cases heq
    rw [hc] at hd
    cases hd

theorem DateText.date_eq {d : Date} (h : DateText cs d) (rest : List Char) :
    date (cs ++ rest) = some (d, rest) := by
  obtain ⟨extended, hyear, hmonth, hday, hvalid⟩ := h
  have hmark (rest : List Char) :
      ((mark extended '-' ++ (_ ++ rest)).head? == some '-') = extended :=
    head?_mark hmonth rfl rest
  simp only [date, List.append_assoc, hyear.year_eq, hmark, separator_mark hmonth,
    hmonth.twoDigits_eq, separator_mark hday, hday.twoDigits_eq, Option.bind_eq_bind,
    Option.bind_some, hvalid, if_true]

theorem exists_dateText {d : Date} (h : date cs = some (d, rest)) :
    ∃ ds, DateText ds d ∧ cs = ds ++ rest := by
  simp only [date, Option.bind_eq_bind, Option.bind_eq_some_iff, Prod.exists,
    Option.ite_none_right_eq_some, Option.some.injEq, Prod.mk.injEq] at h
  obtain ⟨y, cs₁, hyear, cs₂, hmark, m, cs₃, hmonth, cs₄, hmark', n, cs₅, hday, hvalid, rfl,
    rfl⟩ := h
  generalize (cs₁.head? == some '-') = extended at hmark hmark'
  obtain ⟨ys, hys, rfl⟩ := exists_yearText hyear
  obtain ⟨ms, hms, rfl⟩ := exists_places_of_twoDigits hmonth
  obtain ⟨ds, hds, rfl⟩ := exists_places_of_twoDigits hday
  obtain rfl := eq_of_separator hmark
  obtain rfl := eq_of_separator hmark'
  exact ⟨_, .ymd extended hys hms hds hvalid, by simp only [List.append_assoc]⟩

/-! ## Times -/

theorem value_append_zeros (ds : List Char) (k : Nat) :
    value (ds ++ List.replicate k '0') = value ds * 10 ^ k := by
  have h := Digits.ofDigitChars_eq (ds ++ List.replicate k '0') 0
  rw [Nat.ofDigitChars_append, Nat.ofDigitChars_replicate_zero, Digits.ofDigitChars_eq] at h
  rw [Nat.zero_mul, Nat.zero_add, Nat.zero_mul, Nat.zero_add, Nat.mul_comm] at h
  exact h.symm

/-- A fraction ends where no further digit comes, or after nine of them. -/
theorem takeWhile_fraction {ds : List Char} (hrun : IsRun ds) (hlength : ds.length ≤ 9)
    (hstop : Stops rest) : ((ds ++ rest).take 9).takeWhile Char.isDigit = ds := by
  rw [List.take_append, List.take_of_length_le hlength,
    List.takeWhile_append_of_pos hrun.isDigit]
  have hnil : (rest.take (9 - ds.length)).takeWhile Char.isDigit = [] := by
    cases rest with
    | nil => rw [List.take_nil, List.takeWhile_nil]
    | cons c cs =>
      cases 9 - ds.length with
      | zero => rfl
      | succ k =>
        rw [List.take_succ_cons, List.takeWhile_cons_of_neg]
        simp [(hstop c rfl).1]
  rw [hnil, List.append_nil]

theorem FractionText.exists_fraction {f : Nat} (h : FractionText cs f) (hstop : Stops rest) :
    ∃ nano, fraction (cs ++ rest) = some (nano, rest) ∧ nano.getD 0 = f := by
  cases h with
  | absent =>
    cases rest with
    | nil => exact ⟨none, rfl, rfl⟩
    | cons c cs =>
      obtain ⟨-, -, hpoint, hcomma⟩ := hstop c rfl
      exact ⟨none, if_neg (not_or.mpr ⟨hpoint, hcomma⟩), rfl⟩
  | @present c ds point run length =>
    have hzeros : IsRun (ds ++ List.replicate (9 - ds.length) '0') := by
      refine ⟨by simp [run.ne_nil], fun d hd => ?_⟩
      rcases List.mem_append.mp hd with hd | hd
      · exact run.isDigit d hd
      · rw [(List.mem_replicate.mp hd).2]
        rfl
    refine ⟨some (value ds * 10 ^ (9 - ds.length)), ?_, rfl⟩
    rw [List.cons_append, fraction, if_pos point]
    simp only [takeWhile_fraction run length hstop, List.isEmpty_iff, run.ne_nil, if_false,
      hzeros.toNat?, value_append_zeros, Option.map_some, List.drop_left]

theorem exists_fractionText {nano : Option Nat} (h : fraction cs = some (nano, rest)) :
    ∃ fs, FractionText fs (nano.getD 0) ∧ cs = fs ++ rest := by
  unfold fraction at h
  split at h
  · cases h
    exact ⟨[], .absent, rfl⟩
  · next c cs =>
    split at h
    · next hpoint =>
      dsimp only at h
      obtain ⟨hne, h⟩ := Option.ite_none_left_eq_some.mp h
      obtain ⟨n, hread, heq⟩ := Option.map_eq_some_iff.mp h
      cases heq
      obtain ⟨-, rfl⟩ := Digits.toNat?_eq_some_iff.mp hread
      have hlength : ((cs.take 9).takeWhile Char.isDigit).length ≤ 9 :=
        Nat.le_trans (List.takeWhile_prefix _).length_le (List.length_take_le 9 cs)
      have hprefix := (List.takeWhile_prefix Char.isDigit).trans (List.take_prefix 9 cs)
      refine ⟨c :: (cs.take 9).takeWhile Char.isDigit, ?_, ?_⟩
      · rw [value_append_zeros]
        refine .present hpoint ⟨?_, fun d hd => ?_⟩ hlength
        · simpa using hne
        · exact List.all_eq_true.mp List.all_takeWhile d hd
      · rw [List.cons_append, List.prefix_iff_eq_append.mp hprefix]
    · cases h
      exact ⟨[], .absent, rfl⟩

theorem PlacesText.exists_pair (h : PlacesText 2 low high cs n) :
    ∃ a b, cs = [a, b] ∧ a.isDigit = true ∧ b.isDigit = true := by
  obtain ⟨a, b, rfl⟩ := List.length_eq_two.mp h.length
  exact ⟨a, b, rfl, h.run.isDigit a (.head _), h.run.isDigit b (.tail _ (.head _))⟩

theorem component_mark (h : PlacesText 2 low high cs n) (rest : List Char) :
    component extended (mark extended ':' ++ (cs ++ rest)) = some (cs ++ rest) := by
  obtain ⟨a, b, rfl, ha, hb⟩ := h.exists_pair
  cases extended with
  | true => rfl
  | false =>
    have hcolon : a ≠ ':' := by rintro rfl; cases ha
    rw [mark, if_neg Bool.false_ne_true]
    simp only [List.nil_append, List.cons_append]
    rw [component]
    · exact if_pos ⟨rfl, ha, hb⟩
    · exact fun heq => hcolon heq

theorem component_eq_none (h : Stops rest) : component extended rest = none := by
  unfold component
  split
  · exact absurd rfl (h ':' rfl).2.1
  · next a b cs _ => simp [(h a rfl).1]
  · rfl

theorem eq_of_component (h : component extended cs = some rest) :
    cs = mark extended ':' ++ rest := by
  unfold component at h
  split at h
  · obtain ⟨rfl, heq⟩ := Option.ite_none_right_eq_some.mp h
    cases heq
    rfl
  · obtain ⟨⟨hbasic, -⟩, heq⟩ := Option.ite_none_right_eq_some.mp h
    cases heq
    cases extended with
    | true => cases hbasic
    | false => rfl
  · cases h

/-- Hours, minutes, seconds and nanoseconds, as many as there are, and what is made of them. -/
def time {α : Type} (hours seconds : Nat) (make : Nat → Nat → Nat → Nat → α) : Reader α :=
  fun cs => do
    let (h, cs) ← twoDigits 0 hours cs
    let extended := cs.head? == some ':'
    match component extended cs with
    | none => some (make h 0 0 0, cs)
    | some cs =>
      let (m, cs) ← twoDigits 0 59 cs
      match component extended cs with
      | none => some (make h m 0 0, cs)
      | some cs =>
        let (s, cs) ← twoDigits 0 seconds cs
        let (nano, cs) ← fraction cs
        some (make h m s (nano.getD 0), cs)

/-- A time of day and an offset are read alike. -/
theorem clock_eq : clock = time 23 60 fun h m s f => ⟨h, m, if s = 60 then 59 else s, f⟩ := rfl

theorem offsetParts_eq :
    offsetParts true = time 25 59 fun h m s f => offsetSeconds h m s (some f) := rfl

variable {α : Type} {make : Nat → Nat → Nat → Nat → α} {x : α} {hours seconds h m s f : Nat}

theorem TimeText.time_eq (ht : TimeText hours seconds cs h m s f) (hstop : Stops rest) :
    time hours seconds make (cs ++ rest) = some (make h m s f, rest) := by
  cases ht with
  | hour hour =>
    simp only [time, hour.twoDigits_eq, component_eq_none hstop, Option.bind_eq_bind,
      Option.bind_some]
  | minute extended hour minute =>
    simp only [time, List.append_assoc, hour.twoDigits_eq, head?_mark minute (c := ':') rfl,
      component_mark minute, minute.twoDigits_eq, component_eq_none hstop, Option.bind_eq_bind,
      Option.bind_some]
  | second extended hour minute second fraction =>
    obtain ⟨nano, hread, rfl⟩ := fraction.exists_fraction hstop
    simp only [time, List.append_assoc, hour.twoDigits_eq, head?_mark minute (c := ':') rfl,
      component_mark minute, minute.twoDigits_eq, component_mark second, second.twoDigits_eq,
      hread, Option.bind_eq_bind, Option.bind_some]

theorem exists_timeText (ht : time hours seconds make cs = some (x, rest)) :
    ∃ h m s f ts, TimeText hours seconds ts h m s f ∧ x = make h m s f ∧ cs = ts ++ rest := by
  simp only [time, Option.bind_eq_bind, Option.bind_eq_some_iff, Prod.exists] at ht
  obtain ⟨h, cs₁, hhour, ht⟩ := ht
  obtain ⟨hs, hour, rfl⟩ := exists_places_of_twoDigits hhour
  generalize (cs₁.head? == some ':') = extended at ht
  cases hc₁ : component extended cs₁ with
  | none =>
    rw [hc₁] at ht
    cases ht
    exact ⟨h, 0, 0, 0, hs, .hour hour, rfl, rfl⟩
  | some cs₂ =>
    obtain rfl := eq_of_component hc₁
    simp only [hc₁, Option.bind_eq_some_iff, Prod.exists] at ht
    obtain ⟨m, cs₃, hminute, ht⟩ := ht
    obtain ⟨ms, minute, rfl⟩ := exists_places_of_twoDigits hminute
    cases hc₂ : component extended cs₃ with
    | none =>
      rw [hc₂] at ht
      cases ht
      exact ⟨h, m, 0, 0, _, .minute extended hour minute, rfl, by simp only [List.append_assoc]⟩
    | some cs₄ =>
      obtain rfl := eq_of_component hc₂
      simp only [hc₂, Option.bind_eq_some_iff, Prod.exists] at ht
      obtain ⟨s, cs₅, hsecond, nano, cs₆, hfraction, heq⟩ := ht
      cases heq
      obtain ⟨ss, second, rfl⟩ := exists_places_of_twoDigits hsecond
      obtain ⟨fs, fraction, rfl⟩ := exists_fractionText hfraction
      exact ⟨h, m, s, _, _, .second extended hour minute second fraction, rfl,
        by simp only [List.append_assoc]⟩

theorem ClockText.clock_eq {k : Clock} (hk : ClockText cs k) (hstop : Stops rest) :
    clock (cs ++ rest) = some (k, rest) := by
  obtain ⟨time⟩ := hk
  rw [Iso.clock_eq, time.time_eq hstop]

theorem exists_clockText {k : Clock} (hk : clock cs = some (k, rest)) :
    ∃ ts, ClockText ts k ∧ cs = ts ++ rest := by
  rw [clock_eq] at hk
  obtain ⟨h, m, s, f, ts, time, rfl, hcs⟩ := exists_timeText hk
  exact ⟨ts, .hms time, hcs⟩

/-! ## Offsets and annotations -/

variable {i : Int} {o : Option Offset}

theorem OffsetText.offset_eq (h : OffsetText cs i) (hstop : Stops rest) :
    offset (cs ++ rest) = some (some (.numeric i), rest) := by
  cases h with
  | east time =>
    rw [List.cons_append, offset, if_neg (by decide), if_pos (.inl rfl), signedOffset,
      offsetParts_eq, time.time_eq hstop]
    rfl
  | west time =>
    rw [List.cons_append, offset, if_neg (by decide), if_pos (.inr rfl), signedOffset,
      offsetParts_eq, time.time_eq hstop]
    rfl

theorem exists_offsetText (h : signedOffset true cs = some (i, rest)) :
    ∃ os, OffsetText os i ∧ cs = os ++ rest := by
  unfold signedOffset at h
  split at h
  · obtain ⟨⟨n, tail⟩, hread, heq⟩ := Option.map_eq_some_iff.mp h
    cases heq
    rw [offsetParts_eq] at hread
    obtain ⟨h, m, s, f, ts, time, rfl, rfl⟩ := exists_timeText hread
    exact ⟨_, .east time, rfl⟩
  · obtain ⟨⟨n, tail⟩, hread, heq⟩ := Option.map_eq_some_iff.mp h
    cases heq
    rw [offsetParts_eq] at hread
    obtain ⟨h, m, s, f, ts, time, rfl, rfl⟩ := exists_timeText hread
    exact ⟨_, .west time, rfl⟩
  · cases h

theorem stops_nil : Stops [] := nofun

theorem stops_cons {c : Char} (h : c.isDigit = false ∧ c ≠ ':' ∧ c ≠ '.' ∧ c ≠ ',') :
    Stops (c :: cs) := by
  intro d hd
  cases hd
  exact h

/-- Annotations stand in brackets. -/
theorem of_annotations (h : annotations cs = some []) : cs = [] ∨ ∃ tail, cs = '[' :: tail := by
  cases cs with
  | nil => exact .inl rfl
  | cons c tail =>
    by_cases hc : c = '['
    · exact .inr ⟨tail, by rw [hc]⟩
    · have hzone : zone (c :: tail) = some (c :: tail) := by
        rw [zone]
        exact fun _ heq => hc (List.cons.inj heq).1
      rw [annotations, hzone, Option.bind_some, List.length_cons, keyValues] at h
      · cases h
      · exact fun _ heq => hc (List.cons.inj heq).1

theorem stops_annotations (h : annotations cs = some []) : Stops cs := by
  rcases of_annotations h with rfl | ⟨tail, rfl⟩
  · exact stops_nil
  · exact stops_cons (by decide)

theorem ZoneText.stops (h : ZoneText cs o) (hrest : Stops rest) : Stops (cs ++ rest) := by
  cases h with
  | unsaid => exact hrest
  | zulu letter => rcases letter with rfl | rfl <;> exact stops_cons (by decide)
  | numeric offset => cases offset <;> exact stops_cons (by decide)

theorem ZoneText.offset_eq (h : ZoneText cs o) (hrest : annotations rest = some []) :
    offset (cs ++ rest) = some (o, rest) := by
  cases h with
  | unsaid =>
    rcases of_annotations hrest with rfl | ⟨tail, rfl⟩
    · rfl
    · rfl
  | zulu letter => exact if_pos letter
  | numeric text => exact text.offset_eq (stops_annotations hrest)

theorem exists_zoneText (h : offset cs = some (o, rest)) :
    ∃ zs, ZoneText zs o ∧ cs = zs ++ rest := by
  unfold offset at h
  split at h
  · cases h
    exact ⟨[], .unsaid, rfl⟩
  · split at h
    · next letter =>
      cases h
      exact ⟨_, .zulu letter, rfl⟩
    · split at h
      · obtain ⟨⟨n, tail⟩, hread, heq⟩ := Option.map_eq_some_iff.mp h
        cases heq
        obtain ⟨os, text, hcs⟩ := exists_offsetText hread
        exact ⟨os, .numeric text, hcs⟩
      · cases h
        exact ⟨[], .unsaid, rfl⟩

/-! ## Whole texts -/

variable {m : Moment}

theorem DateTimeText.civil?_eq (h : DateTimeText cs m o) :
    civil? cs = some ⟨m.date, some m.clock, o⟩ := by
  obtain ⟨date, separator, clock, zone, hannotations⟩ := h
  have hstop := zone.stops (stops_annotations hannotations)
  simp only [civil?, date.date_eq, timeAndOffset, if_pos separator, clock.clock_eq hstop,
    zone.offset_eq hannotations, hannotations, Option.bind_eq_bind, Option.bind_some,
    List.isEmpty_nil, if_true]

/-- A text is read as a date and a time of day exactly if it is one in the grammar. -/
theorem civil?_eq_some_iff :
    civil? cs = some ⟨m.date, some m.clock, o⟩ ↔ DateTimeText cs m o := by
  refine ⟨fun h => ?_, fun h => h.civil?_eq⟩
  simp only [civil?, Option.bind_eq_bind, Option.bind_eq_some_iff, Prod.exists,
    Option.ite_none_right_eq_some, Option.some.injEq, CivilText.mk.injEq] at h
  obtain ⟨d, cs₁, hdate, k, z, cs₂, htime, cs₃, hannotations, hempty, rfl, rfl, rfl⟩ := h
  obtain rfl := List.isEmpty_iff.mp hempty
  obtain ⟨ds, date, rfl⟩ := exists_dateText hdate
  unfold timeAndOffset at htime
  split at htime
  · cases htime
  · split at htime
    · next separator =>
      simp only [Option.bind_eq_bind, Option.bind_eq_some_iff, Prod.exists, Option.some.injEq,
        Prod.mk.injEq] at htime
      obtain ⟨k, cs₄, hclock, z, cs₅, hzone, ⟨rfl, rfl⟩, rfl⟩ := htime
      obtain ⟨ts, clock, rfl⟩ := exists_clockText hclock
      obtain ⟨zs, zone, rfl⟩ := exists_zoneText hzone
      exact .intro date separator clock zone hannotations
    · cases htime

end RelMap.Iso
