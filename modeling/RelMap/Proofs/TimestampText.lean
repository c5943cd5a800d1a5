-- SUMMARY: Timestamps as texts: written and read back, and what becomes of an offset.
import RelMap.Proofs.Coercion
import RelMap.Proofs.Text.Blanks
import RelMap.Proofs.Time.Reading

/-!
# Timestamps as texts

A timestamp is coerced to its text in UTC, and a text to the timestamp that it names. Main
statements: the text of a timestamp is coerced back to it, with blanks around it as well; and a
text with a numeric offset is coerced to its instant if timestamps reach that far, but to its
date and time of day in UTC, the offset forgotten, where only these are in reach.
-/
namespace RelMap

namespace Timestamp

/-- The nanoseconds since the epoch that timestamps reach. -/
def Covers (n : Int) : Prop := -377705023201000000000 ≤ n ∧ n ≤ 253402207200999999999

instance (n : Int) : Decidable (Covers n) := inferInstanceAs (Decidable (_ ∧ _))

theorem ofNanos?_of_covers {n : Int} (h : Covers n) : ofNanos? n = some ⟨n, h.1, h.2⟩ := dif_pos h

theorem ofNanos?_eq_none_iff {n : Int} : ofNanos? n = none ↔ ¬Covers n := by
  unfold ofNanos?
  split
  · next h => exact iff_of_false (Option.some_ne_none _) (not_not_intro h)
  · next h => exact iff_of_true rfl h

end Timestamp

/-! ## Offsets -/

namespace Iso

variable {cs : List Char} {m : Moment} {n : Int}

/-- The nanoseconds since the epoch of a moment that is so many seconds ahead of UTC. -/
def instantAt (m : Moment) (n : Int) : Int := m.nanos - n * 1000000000

/-- There is a timestamp for the instant of a text: the offset is not beyond the greatest one,
and timestamps reach the instant. -/
def Admits (m : Moment) (n : Int) : Prop :=
  n.natAbs ≤ 93599 ∧ Timestamp.Covers (instantAt m n)

instance (m : Moment) (n : Int) : Decidable (Admits m n) := inferInstanceAs (Decidable (_ ∧ _))

/-- An offset of nothing is admitted where the moment itself can be reached. -/
theorem admits_zero_iff : Admits m 0 ↔ Timestamp.Covers m.nanos := by
  simp [Admits, instantAt]

theorem timestamp?_of_admits (h : DateTimeText cs m (some (.numeric n))) (hadmits : Admits m n) :
    timestamp? cs = Timestamp.ofNanos? (instantAt m n) := by
  simp only [timestamp?, h.civil?_eq, Option.bind_eq_bind, Option.bind_some, offsetValue?,
    if_pos hadmits.1]
  rfl

theorem timestamp?_of_not_admits (h : DateTimeText cs m (some (.numeric n)))
    (hout : ¬Admits m n) : timestamp? cs = none := by
  simp only [timestamp?, h.civil?_eq, Option.bind_eq_bind, Option.bind_some, offsetValue?]
  split
  · next hoffset => exact Timestamp.ofNanos?_eq_none_iff.mpr fun hcovers => hout ⟨hoffset, hcovers⟩
  · rfl

/-- The second reading does not look at the offset. -/
theorem moment?_of_numeric (h : DateTimeText cs m (some (.numeric n))) : moment? cs = some m := by
  simp only [moment?, h.civil?_eq, Option.bind_eq_bind, Option.bind_some, Option.some.injEq,
    reduceCtorEq, if_false, Option.getD_some]

theorem read?_of_numeric (h : DateTimeText cs m (some (.numeric n))) :
    read? cs = Timestamp.ofNanos? (if Admits m n then instantAt m n else m.nanos) := by
  rw [read?]
  by_cases hadmits : Admits m n
  · rw [if_pos hadmits, timestamp?_of_admits h hadmits, Timestamp.ofNanos?_of_covers hadmits.2]
  · rw [if_neg hadmits, timestamp?_of_not_admits h hadmits, moment?_of_numeric h]
    rfl

end Iso

/-! ## Coercion -/

namespace Kind

variable {s : String} {t : Timestamp}

theorem coerce_timestampText :
    Kind.timestamp.coerce (.string s) = .ok (some (.timestamp t)) ↔
      Iso.read? (Text.trim s.toList) = some t := by
  rw [coerce_eq_ok_some_iff, convert?, Option.map_eq_some_iff]
  simp [Value.toTimestamp?]

theorem coerce_timestampText_eq_error_iff :
    Kind.timestamp.coerce (.string s) = .error (.typeConversion "String" "Timestamp") ↔
      Iso.read? (Text.trim s.toList) = none := by
  cases hread : Iso.read? (Text.trim s.toList) with
  | none =>
    refine iff_of_true ?_ rfl
    rw [coerce, convert?, Value.toTimestamp?, hread]
    rfl
  | some t =>
    simp [coerce_timestampText.mpr hread]

/-! ## There and back -/

/-- A timestamp is coerced to its one text in UTC, which names its date and time of day, and
that text is coerced back to the timestamp, whatever blanks stand around it. -/
theorem coerce_timestamp_and_back (t : Timestamp) :
    ∃ s, Kind.string.coerce (.timestamp t) = .ok (some (.string s)) ∧
      (∃ m : Moment, Iso.UtcText s.toList m ∧ m.nanos = t.nanos) ∧
      ∀ r : String, Text.Encloses r.toList s.toList →
        Kind.timestamp.coerce (.string r) = .ok (some (.timestamp t)) := by
  refine ⟨String.ofList t.text, coerce_eq_ok_some_iff.mpr rfl, ⟨t.moment, ?_, t.nanos_moment⟩,
    fun r hr => coerce_timestampText.mpr ?_⟩
  · rw [String.toList_ofList]
    exact t.utcText_text
  · rw [hr.trim_eq, String.toList_ofList, t.trim_text, t.read?_text]

theorem coerce_timestamp_and_back_first :
    Kind.string.coerce (.timestamp ⟨-377705023201000000000, by decide, by decide⟩) =
        .ok (some (.string "-009999-01-02T01:59:59Z")) ∧
      Kind.timestamp.coerce (.string "\u3000-009999-01-02T01:59:59Z\r\n") =
        .ok (some (.timestamp ⟨-377705023201000000000, by decide, by decide⟩)) := by
  obtain ⟨s, hs, -, hback⟩ :=
    coerce_timestamp_and_back ⟨-377705023201000000000, by decide, by decide⟩
  have htext : Kind.string.coerce (.timestamp ⟨-377705023201000000000, by decide, by decide⟩) =
      .ok (some (.string "-009999-01-02T01:59:59Z")) := rfl
  cases hs.symm.trans htext
  exact ⟨htext, hback _ ⟨['\u3000'], ['\r', '\n'], by decide, by decide, by decide⟩⟩

/-! ## Texts with an offset -/

/-- What a caller expects of a text with an offset: it stands for the instant that the offset
makes of its moment, or for none. -/
structure HonoursOffset (s : String) (m : Moment) (n : Int) : Prop where
  instant : ∀ t, Kind.timestamp.coerce (.string s) = .ok (some (.timestamp t)) →
    t.nanos = Iso.instantAt m n
  refused : ¬Timestamp.Covers (Iso.instantAt m n) →
    Kind.timestamp.coerce (.string s) = .error (.typeConversion "String" "Timestamp")

variable {m : Moment} {n : Int}

/-- The instant that a text with an offset is taken for. -/
theorem coerce_offset_eq_ok_iff (h : Iso.DateTimeText (Text.trim s.toList) m (some (.numeric n))) :
    Kind.timestamp.coerce (.string s) = .ok (some (.timestamp t)) ↔
      t.nanos = if Iso.Admits m n then Iso.instantAt m n else m.nanos := by
  rw [coerce_timestampText, Iso.read?_of_numeric h, Timestamp.ofNanos?_eq_some_iff]

theorem coerce_offset_eq_error_iff
    (h : Iso.DateTimeText (Text.trim s.toList) m (some (.numeric n))) :
    Kind.timestamp.coerce (.string s) = .error (.typeConversion "String" "Timestamp") ↔
      ¬Iso.Admits m n ∧ ¬Timestamp.Covers m.nanos := by
  rw [coerce_timestampText_eq_error_iff, Iso.read?_of_numeric h, Timestamp.ofNanos?_eq_none_iff]
  by_cases hadmits : Iso.Admits m n
  · rw [if_pos hadmits]
    exact iff_of_false (not_not_intro hadmits.2) fun hout => hout.1 hadmits
  · rw [if_neg hadmits]
    exact ⟨fun hout => ⟨hadmits, hout⟩, fun hout => hout.2⟩

/-- A moment in reach that is not admitted with its offset is not where the offset puts it. -/
theorem not_honoursOffset (h : Iso.DateTimeText (Text.trim s.toList) m (some (.numeric n)))
    (hout : ¬Iso.Admits m n) (hcovers : Timestamp.Covers m.nanos) : ¬HonoursOffset s m n := by
  intro honours
  have htaken : m.nanos = Iso.instantAt m n :=
    honours.instant ⟨m.nanos, hcovers.1, hcovers.2⟩
      ((coerce_offset_eq_ok_iff h).mpr (if_neg hout).symm)
  have hzero : n = 0 := by
    rw [Iso.instantAt] at htaken
    omega
  rw [hzero, Iso.admits_zero_iff] at hout
  exact hout hcovers

/-- A text with a numeric offset is coerced to its instant where there is a timestamp for it.
Where there is none its moment is taken for one in UTC, and the text is refused only if timestamps
do not reach that either. So the offset is honoured unless it leads out of the range of
timestamps, or beyond all offsets, from a moment within. -/
theorem coerce_offset (h : Iso.DateTimeText (Text.trim s.toList) m (some (.numeric n))) :
    (Iso.Admits m n → ∀ t, Kind.timestamp.coerce (.string s) = .ok (some (.timestamp t)) ↔
        t.nanos = Iso.instantAt m n) ∧
      (¬Iso.Admits m n → ∀ t, Kind.timestamp.coerce (.string s) = .ok (some (.timestamp t)) ↔
        t.nanos = m.nanos) ∧
      (Kind.timestamp.coerce (.string s) = .error (.typeConversion "String" "Timestamp") ↔
        ¬Iso.Admits m n ∧ ¬Timestamp.Covers m.nanos) ∧
      (HonoursOffset s m n ↔ Iso.Admits m n ∨ ¬Timestamp.Covers m.nanos) := by
  refine ⟨fun hadmits t => ?_, fun hout t => ?_, coerce_offset_eq_error_iff h, ?_, ?_⟩
  · rw [coerce_offset_eq_ok_iff h, if_pos hadmits]
  · rw [coerce_offset_eq_ok_iff h, if_neg hout]
  · intro honours
    by_contra hneither
    obtain ⟨hout, hcovers⟩ := not_or.mp hneither
    exact not_honoursOffset h hout (Classical.not_not.mp hcovers) honours
  · intro hor
    by_cases hadmits : Iso.Admits m n
    · refine ⟨fun t ht => ?_, fun hout => absurd hadmits.2 hout⟩
      rw [(coerce_offset_eq_ok_iff h).mp ht, if_pos hadmits]
    · have hrefused := (coerce_offset_eq_error_iff h).mpr ⟨hadmits, hor.resolve_left hadmits⟩
      refine ⟨fun t ht => ?_, fun _ => hrefused⟩
      rw [hrefused] at ht
      cases ht

/-- At both ends of the range an offset can lead out of it, and into it. -/
theorem coerce_offset_ends :
    (∃ t, Kind.timestamp.coerce (.string "-009999-01-02T02:00:00+01:00") =
        .ok (some (.timestamp t)) ∧ t.nanos = -377705023200000000000) ∧
      (∃ t, Kind.timestamp.coerce (.string " 9999-12-31T08:00:00.5+10:00[Etc/GMT-10] ") =
        .ok (some (.timestamp t)) ∧ t.nanos = 253402207200500000000) ∧
      Kind.timestamp.coerce (.string "9999-12-31T08:00:01-01") =
        .error (.typeConversion "String" "Timestamp") := by
  have hout := coerce_offset (s := "-009999-01-02T02:00:00+01:00")
    (m := ⟨⟨-9999, 1, 2⟩, ⟨2, 0, 0, 0⟩⟩) (n := 3600) (Iso.civil?_eq_some_iff.mp (by decide))
  have hin := coerce_offset (s := " 9999-12-31T08:00:00.5+10:00[Etc/GMT-10] ")
    (m := ⟨⟨9999, 12, 31⟩, ⟨8, 0, 0, 500000000⟩⟩) (n := 36000)
    (Iso.civil?_eq_some_iff.mp (by decide))
  have hbeyond := coerce_offset (s := "9999-12-31T08:00:01-01")
    (m := ⟨⟨9999, 12, 31⟩, ⟨8, 0, 1, 0⟩⟩) (n := -3600) (Iso.civil?_eq_some_iff.mp (by decide))
  exact ⟨⟨⟨-377705023200000000000, by decide, by decide⟩,
      (hout.2.1 (by decide) _).mpr (by decide), rfl⟩,
    ⟨⟨253402207200500000000, by decide, by decide⟩, (hin.1 (by decide) _).mpr (by decide), rfl⟩,
    hbeyond.2.2.1.mpr (by decide)⟩

/-- An offset that leads beyond the last timestamp is forgotten: the text is neither refused nor
taken for the instant ten hours later. -/
theorem offset_forgotten :
    Iso.DateTimeText (Text.trim "9999-12-30T12:30:00-10:00".toList)
        ⟨⟨9999, 12, 30⟩, ⟨12, 30, 0, 0⟩⟩ (some (.numeric (-36000))) ∧
      ¬HonoursOffset "9999-12-30T12:30:00-10:00" ⟨⟨9999, 12, 30⟩, ⟨12, 30, 0, 0⟩⟩ (-36000) := by
  refine ⟨Iso.civil?_eq_some_iff.mp (by decide), fun honours => ?_⟩
  have hread : Kind.timestamp.coerce (.string "9999-12-30T12:30:00-10:00") =
      .ok (some (.timestamp ⟨253402173000000000000, by decide, by decide⟩)) :=
    coerce_timestampText.mpr (by decide)
  exact absurd (honours.instant _ hread) (by decide)

end Kind

end RelMap
