-- SUMMARY: ISO 8601 text of timestamps, written and read.
import RelMap.Time.Timestamp
import RelMap.Text.Digits

/-!
# ISO 8601 text

A timestamp is written in UTC with `Z` and a fraction without trailing zeros.
Reading admits more: the basic and the extended format, a space for the `T`,
fewer time components, offsets from UTC and bracketed annotations, which are
checked and then ignored. `Iso.civil?` reads the grammar, `Iso.timestamp?` takes a
text with a time and an offset to an instant, `Iso.moment?` takes one that does
not end in `Z` to a date and time of day.
-/
namespace RelMap

/-! ## Writing -/

namespace Date

/-- Years of four digits stand bare, others as a sign and six digits. -/
def yearText (year : Int) : List Char :=
  if 0 ≤ year ∧ year ≤ 9999 then Digits.padded 4 year.toNat
  else (if year < 0 then '-' else '+') :: Digits.padded 6 year.natAbs

def text (d : Date) : List Char :=
  yearText d.year ++ '-' :: Digits.padded 2 d.month ++ '-' :: Digits.padded 2 d.day

end Date

namespace Clock

/-- The fraction of a second, without trailing zeros; nothing for zero. -/
def fractionText (nano : Nat) : List Char :=
  if nano = 0 then []
  else '.' :: ((Digits.padded 9 nano).reverse.dropWhile (· = '0')).reverse

def text (c : Clock) : List Char :=
  Digits.padded 2 c.hour ++ ':' :: Digits.padded 2 c.minute ++
    ':' :: Digits.padded 2 c.second ++ fractionText c.nano

end Clock

/-- The instant as a date, `T`, a time of day in UTC and `Z`. -/
def Timestamp.text (t : Timestamp) : List Char :=
  t.moment.date.text ++ 'T' :: t.moment.clock.text ++ ['Z']

/-! ## Reading -/

/-- What an offset from UTC says. -/
inductive Offset where
  | zulu
  | numeric (seconds : Int)
  deriving DecidableEq, Repr

/-- What a date-time text holds. -/
structure CivilText where
  date : Date
  clock : Option Clock
  offset : Option Offset
  deriving DecidableEq, Repr

namespace Iso

/-- A reader takes a text to a value and the rest of the text. -/
abbrev Reader (α : Type) := List Char → Option (α × List Char)

/-- Exactly `width` digits. -/
def digits (width : Nat) : Reader Nat := fun cs =>
  if (cs.take width).length = width then
    (Digits.toNat? (cs.take width)).map (·, cs.drop width)
  else none

/-- Two digits that make a number from `low` to `high`. -/
def twoDigits (low high : Nat) : Reader Nat := fun cs =>
  match digits 2 cs with
  | some (n, rest) => if low ≤ n ∧ n ≤ high then some (n, rest) else none
  | none => none

/-- Four digits, or a sign and six. Year zero has no minus sign. -/
def year : Reader Int
  | '-' :: cs =>
    match digits 6 cs with
    | some (n, rest) => if n = 0 ∨ n > 9999 then none else some (-n, rest)
    | none => none
  | '+' :: cs =>
    match digits 6 cs with
    | some (n, rest) => if n > 9999 then none else some (n, rest)
    | none => none
  | cs => (digits 4 cs).map fun (n, rest) => ((n : Int), rest)

/-- A separator of the extended format, which the basic format leaves out. -/
def separator (extended : Bool) : List Char → Option (List Char)
  | '-' :: cs => if extended then some cs else none
  | cs => if extended then none else some cs

/-- A date; whether it is extended shows after the year. -/
def date : Reader Date := fun cs => do
  let (y, cs) ← year cs
  let extended := cs.head? == some '-'
  let cs ← separator extended cs
  let (m, cs) ← twoDigits 1 12 cs
  let cs ← separator extended cs
  let (d, cs) ← twoDigits 1 31 cs
  let result : Date := ⟨y, m, d⟩
  if result.Valid then some (result, cs) else none

/-- The text of a further component, if there is one: after a colon in the
extended format, at two digits in the basic one. -/
def component (extended : Bool) : List Char → Option (List Char)
  | ':' :: cs => if extended then some cs else none
  | a :: b :: cs => if !extended ∧ a.isDigit ∧ b.isDigit then some (a :: b :: cs) else none
  | _ => none

/-- A fraction of a second in nanoseconds: a point or a comma and one to nine
digits, or nothing. -/
def fraction : Reader (Option Nat)
  | [] => some (none, [])
  | c :: cs =>
    if c = '.' ∨ c = ',' then
      let ds := (cs.take 9).takeWhile Char.isDigit
      if ds.isEmpty then none
      else
        (Digits.toNat? (ds ++ List.replicate (9 - ds.length) '0')).map fun n =>
          (some n, cs.drop ds.length)
    else some (none, c :: cs)

/-- A time of day. Minutes and seconds may be left out; second 60 is second 59. -/
def clock : Reader Clock := fun cs => do
  let (h, cs) ← twoDigits 0 23 cs
  let extended := cs.head? == some ':'
  match component extended cs with
  | none => some (⟨h, 0, 0, 0⟩, cs)
  | some cs =>
    let (m, cs) ← twoDigits 0 59 cs
    match component extended cs with
    | none => some (⟨h, m, 0, 0⟩, cs)
    | some cs =>
      let (s, cs) ← twoDigits 0 60 cs
      let (nano, cs) ← fraction cs
      some (⟨h, m, if s = 60 then 59 else s, nano.getD 0⟩, cs)

/-- Seconds of an offset; half a second and more counts as one. -/
def offsetSeconds (h m s : Nat) (nano : Option Nat) : Nat :=
  h * 3600 + m * 60 + s + if nano.getD 0 ≥ 500000000 then 1 else 0

/-- The hours, minutes and seconds of an offset, after its sign. Seconds are read
only where `subminute` says so. -/
def offsetParts (subminute : Bool) : Reader Nat := fun cs => do
  let (h, cs) ← twoDigits 0 25 cs
  let extended := cs.head? == some ':'
  match component extended cs with
  | none => some (offsetSeconds h 0 0 none, cs)
  | some cs =>
    let (m, cs) ← twoDigits 0 59 cs
    if !subminute then
      if cs.head? == some ':' then none else some (offsetSeconds h m 0 none, cs)
    else
      match component extended cs with
      | none => some (offsetSeconds h m 0 none, cs)
      | some cs =>
        let (s, cs) ← twoDigits 0 59 cs
        let (nano, cs) ← fraction cs
        some (offsetSeconds h m s nano, cs)

/-- A signed offset in seconds. -/
def signedOffset (subminute : Bool) : Reader Int
  | '+' :: cs => (offsetParts subminute cs).map fun (n, rest) => ((n : Int), rest)
  | '-' :: cs => (offsetParts subminute cs).map fun (n, rest) => (-(n : Int), rest)
  | _ => none

/-- An offset, if one starts here. -/
def offset : Reader (Option Offset)
  | [] => some (none, [])
  | c :: cs =>
    if c = 'Z' ∨ c = 'z' then some (some .zulu, cs)
    else if c = '+' ∨ c = '-' then
      (signedOffset true (c :: cs)).map fun (n, rest) => (some (.numeric n), rest)
    else some (none, c :: cs)

/-! ## Annotations -/

/-- A character of the `first` kind, then any number of the `later` kind; the
rest of the text. -/
def word (first later : Char → Bool) : List Char → Option (List Char)
  | [] => none
  | c :: cs => if first c then some (cs.dropWhile later) else none

/-- Drop words after further occurrences of `mark`, at most `fuel` of them. -/
def wordsAfter (mark : Char) (first later : Char → Bool) : Nat → List Char → Option (List Char)
  | 0, cs => some cs
  | _ + 1, [] => some []
  | fuel + 1, c :: cs =>
    if c = mark then (word first later cs).bind (wordsAfter mark first later fuel)
    else some (c :: cs)

/-- Drop a closing bracket. -/
def close : List Char → Option (List Char)
  | ']' :: cs => some cs
  | _ => none

/-- Drop a mark that asks to be understood. -/
def critical : List Char → Bool × List Char
  | '!' :: cs => (true, cs)
  | cs => (false, cs)

def zoneFirst (c : Char) : Bool := c.isAlpha || c = '.' || c = '_'
def zoneLater (c : Char) : Bool := zoneFirst c || c.isDigit || c = '-' || c = '+'
def keyFirst (c : Char) : Bool := c.isLower || c = '_'
def keyLater (c : Char) : Bool := keyFirst c || c.isDigit || c = '-'

/-- A time zone in brackets: an offset of hours and minutes, or a name. A name
before an equals sign is a key, so nothing is dropped then. -/
def zone : List Char → Option (List Char)
  | '[' :: cs =>
    let (_, inner) := critical cs
    match inner with
    | '+' :: _ | '-' :: _ => (signedOffset false inner).bind fun (_, rest) => close rest
    | _ =>
      match word zoneFirst zoneLater inner with
      | none => none
      | some ('=' :: _) => some ('[' :: cs)
      | some rest => (wordsAfter '/' zoneFirst zoneLater rest.length rest).bind close
  | cs => some cs

/-- One `[key=value]`. A critical one is refused, since none is understood. -/
def keyValue (cs : List Char) : Option (List Char) := do
  let (isCritical, cs) := critical cs
  let cs ← word keyFirst keyLater cs
  let cs ← match cs with
    | '=' :: cs => some cs
    | _ => none
  let cs ← word Char.isAlphanum Char.isAlphanum cs
  let cs ← wordsAfter '-' Char.isAlphanum Char.isAlphanum cs.length cs
  let cs ← close cs
  if isCritical then none else some cs

/-- Any number of key-value annotations, at most `fuel`. -/
def keyValues : Nat → List Char → Option (List Char)
  | 0, cs => some cs
  | fuel + 1, '[' :: cs => (keyValue cs).bind (keyValues fuel)
  | _ + 1, cs => some cs

/-- All annotations: a time zone first, if there is one, then keys. -/
def annotations (cs : List Char) : Option (List Char) :=
  (zone cs).bind fun rest => keyValues rest.length rest

/-! ## Whole texts -/

/-- A time needs a separator from its date, and only a time has an offset. -/
def timeAndOffset : Reader (Option Clock × Option Offset)
  | [] => some ((none, none), [])
  | c :: cs =>
    if c = ' ' ∨ c = 'T' ∨ c = 't' then do
      let (t, cs) ← clock cs
      let (o, cs) ← offset cs
      some ((some t, o), cs)
    else some ((none, none), c :: cs)

/-- The whole text as a date, an optional time and an optional offset. -/
def civil? (cs : List Char) : Option CivilText := do
  let (d, cs) ← date cs
  let ((t, o), cs) ← timeAndOffset cs
  let cs ← annotations cs
  if cs.isEmpty then some ⟨d, t, o⟩ else none

/-- The offset in seconds, if it is not beyond the greatest one. -/
def offsetValue? : Offset → Option Int
  | .zulu => some 0
  | .numeric n => if n.natAbs ≤ 93599 then some n else none

/-- The instant of a text with a time and an offset. -/
def timestamp? (cs : List Char) : Option Timestamp := do
  let civil ← civil? cs
  let clock ← civil.clock
  let seconds ← civil.offset.bind offsetValue?
  Timestamp.ofNanos? (Moment.nanos ⟨civil.date, clock⟩ - seconds * 1000000000)

/-- The date and time of day of a text, a numeric offset ignored. A text that
ends in `Z` names an instant and is refused. -/
def moment? (cs : List Char) : Option Moment := do
  let civil ← civil? cs
  if civil.offset = some .zulu then none
  else some ⟨civil.date, civil.clock.getD .midnight⟩

/-- A timestamp: an instant, else a date and time of day read in UTC. -/
def read? (cs : List Char) : Option Timestamp :=
  match timestamp? cs with
  | some t => some t
  | none => (moment? cs).bind fun m => Timestamp.ofNanos? m.nanos

end Iso

end RelMap
