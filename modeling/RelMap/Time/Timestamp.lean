-- SUMMARY: Instants with nanosecond resolution and their civil reading in UTC.
import RelMap.Time.Calendar

/-!
# Timestamps

A `Timestamp` counts nanoseconds from 1970-01-01T00:00:00Z. Its range leaves
room for every offset from UTC within the years -9999 to 9999. `Moment` is a date
with a time of day; `Timestamp.moment` and `Moment.nanos` go between the two.
-/
namespace RelMap

/-- An instant, in nanoseconds since the Unix epoch. -/
structure Timestamp where
  nanos : Int
  low : -377705023201000000000 ≤ nanos
  high : nanos ≤ 253402207200999999999
  deriving DecidableEq

/-- A time of day. -/
structure Clock where
  hour : Nat
  minute : Nat
  second : Nat
  nano : Nat
  deriving DecidableEq, Repr

/-- A date and a time of day, with no place on the time line yet. -/
structure Moment where
  date : Date
  clock : Clock
  deriving DecidableEq, Repr

namespace Clock

def midnight : Clock := ⟨0, 0, 0, 0⟩

/-- Nanoseconds since midnight. -/
def nanos (c : Clock) : Nat :=
  ((c.hour * 60 + c.minute) * 60 + c.second) * 1000000000 + c.nano

/-- The time of day at a number of nanoseconds since midnight. -/
def ofNanos (n : Nat) : Clock :=
  let seconds := n / 1000000000
  ⟨seconds / 3600, seconds / 60 % 60, seconds % 60, n % 1000000000⟩

@[simp] theorem nanos_ofNanos (n : Nat) : (ofNanos n).nanos = n := by
  simp only [ofNanos, nanos]
  omega

end Clock

namespace Moment

/-- Nanoseconds since the Unix epoch, the moment read in UTC. -/
def nanos (m : Moment) : Int := m.date.dayNumber * 86400000000000 + m.clock.nanos

/-- The moment in UTC at a number of nanoseconds since the Unix epoch. -/
def ofNanos (n : Int) : Moment :=
  ⟨Date.ofDayNumber (n / 86400000000000), Clock.ofNanos (n % 86400000000000).toNat⟩

@[simp] theorem nanos_ofNanos (n : Int) : (ofNanos n).nanos = n := by
  simp only [ofNanos, nanos, Date.dayNumber_ofDayNumber, Clock.nanos_ofNanos]
  omega

end Moment

namespace Timestamp

def minSeconds : Int := -377705023201
def maxSeconds : Int := 253402207200

/-- The Unix epoch. -/
def epoch : Timestamp := ⟨0, by decide, by decide⟩

/-- The instant at `n` nanoseconds since the epoch, if it is in range. -/
def ofNanos? (n : Int) : Option Timestamp :=
  if h : -377705023201000000000 ≤ n ∧ n ≤ 253402207200999999999 then some ⟨n, h.1, h.2⟩
  else none

/-- The instant at `n` seconds since the epoch, if it is in range. -/
def ofSeconds? (n : Int) : Option Timestamp :=
  if h : minSeconds ≤ n ∧ n ≤ maxSeconds then
    some ⟨n * 1000000000, by simp only [minSeconds] at h; omega, by
      simp only [maxSeconds] at h; omega⟩
  else none

/-- The date and time of day of the instant, in UTC. -/
def moment (t : Timestamp) : Moment := Moment.ofNanos t.nanos

/-- Whole microseconds since the epoch, rounded toward zero. -/
def micros (t : Timestamp) : Int := t.nanos.tdiv 1000

@[ext] theorem ext {s t : Timestamp} (h : s.nanos = t.nanos) : s = t := by
  cases s; cases t; simp_all

@[simp] theorem ofNanos?_nanos (t : Timestamp) : ofNanos? t.nanos = some t := by
  rw [ofNanos?, dif_pos ⟨t.low, t.high⟩]

theorem ofNanos?_eq_some_iff {n : Int} {t : Timestamp} : ofNanos? n = some t ↔ t.nanos = n := by
  constructor
  · unfold ofNanos?
    split
    · rintro ⟨⟩; rfl
    · simp
  · rintro rfl; exact ofNanos?_nanos t

end Timestamp

end RelMap
