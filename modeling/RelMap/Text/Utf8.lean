-- SUMMARY: Where bytes stop being UTF-8 text, and how.
import RelMap.Text.Digits

/-!
# Ill-formed UTF-8

Bytes that are not UTF-8 fail at the first sequence that no character starts with.
The fault has the index of that sequence and the number of its bytes that could
still have been part of a character, at least one. Bytes that end within a
character have no such number.
-/
namespace RelMap.Utf8

/-- The first ill-formed sequence of some bytes. -/
structure Fault where
  index : Nat
  /-- The bytes of the sequence; none if the bytes end within a character. -/
  length : Option Nat
  deriving DecidableEq, Repr

namespace Fault

def message (f : Fault) : String :=
  match f.length with
  | some n =>
    "invalid utf-8 sequence of " ++ Digits.natText n ++ " bytes from index " ++
      Digits.natText f.index
  | none => "incomplete utf-8 byte sequence from index " ++ Digits.natText f.index

end Fault

/-- An inclusive range of bytes. -/
abbrev ByteRange := UInt8 × UInt8

/-- The bytes that continue a character. -/
def continuation : ByteRange := (0x80, 0xBF)

/-- The ranges of the bytes that follow the first byte of a character. The second
byte is narrowed so that no character has two forms, none is a surrogate, and none
lies beyond the last one. -/
def following? (b : UInt8) : Option (List ByteRange) :=
  if b < 0x80 then some []
  else if b < 0xC2 then none
  else if b < 0xE0 then some [continuation]
  else if b = 0xE0 then some [(0xA0, 0xBF), continuation]
  else if b = 0xED then some [(0x80, 0x9F), continuation]
  else if b < 0xF0 then some [continuation, continuation]
  else if b = 0xF0 then some [(0x90, 0xBF), continuation, continuation]
  else if b < 0xF4 then some [continuation, continuation, continuation]
  else if b = 0xF4 then some [(0x80, 0x8F), continuation, continuation]
  else none

/-- The fault of bytes, `seen` bytes of the character at `start` being read and
those in `pending` to come. Well-formed bytes are said to end where they end. -/
def scan (start seen : Nat) : List ByteRange → List UInt8 → Fault
  | [], [] => ⟨start + seen, none⟩
  | _ :: _, [] => ⟨start, none⟩
  | [], b :: bs =>
    match following? b with
    | some pending => scan (start + seen) 1 pending bs
    | none => ⟨start + seen, some 1⟩
  | (low, high) :: pending, b :: bs =>
    if low ≤ b ∧ b ≤ high then scan start (seen + 1) pending bs else ⟨start, some seen⟩

/-- The first ill-formed sequence of bytes that are not UTF-8. -/
def fault (b : List UInt8) : Fault := scan 0 0 [] b

end RelMap.Utf8
