-- SUMMARY: Texts as bytes: their number, and the first of them.
import RelMap.Value

/-!
# Texts as bytes

Bytes are read as a text exactly if they are its encoding. A text has at least as many bytes as
characters, and its first byte shows whether its first character is one of ASCII.
-/
namespace RelMap

/-- The encoding of a character starts with the character itself, if it is one of ASCII, or
with a byte that no such character has. -/
theorem exists_utf8EncodeChar (c : Char) :
    ∃ d ds, String.utf8EncodeChar c = d :: ds ∧ d.toNat < 0xF8 ∧
      (d.toNat = c.toNat ∨ 0x80 ≤ d.toNat ∧ 0x80 ≤ c.toNat) := by
  have hvalue : c.val.toNat = c.toNat := rfl
  rw [String.utf8EncodeChar.eq_def, hvalue]
  dsimp only
  split
  · refine ⟨_, _, rfl, ?_, .inl ?_⟩ <;> rw [UInt8.toNat_ofNat'] <;> omega
  · split
    · refine ⟨_, _, rfl, ?_, .inr ⟨?_, by omega⟩⟩ <;> rw [UInt8.toNat_ofNat'] <;> omega
    · split
      · refine ⟨_, _, rfl, ?_, .inr ⟨?_, by omega⟩⟩ <;> rw [UInt8.toNat_ofNat'] <;> omega
      · refine ⟨_, _, rfl, ?_, .inr ⟨?_, by omega⟩⟩ <;> rw [UInt8.toNat_ofNat'] <;> omega

namespace Bytes

variable {b : Bytes} {s : String} {c : Char} {cs : List Char}

theorem text?_eq_some_iff : b.text? = some s ↔ b = .ofText s := by
  constructor
  · intro h
    unfold text? String.fromUTF8? at h
    split at h
    · cases h
      rfl
    · cases h
  · rintro rfl
    exact text?_ofText s

theorem ofText_eq_flatMap (s : String) : ofText s = s.toList.flatMap String.utf8EncodeChar := by
  rw [ofText, String.toUTF8_eq_toByteArray, ← String.utf8Encode_toList, List.utf8Encode.eq_1,
    List.toList_data_toByteArray]

/-- Every character has a byte at least. -/
theorem length_toList_le (s : String) : s.toList.length ≤ (ofText s).length := by
  rw [ofText_eq_flatMap]
  induction s.toList with
  | nil => exact Nat.le_refl _
  | cons c cs ih =>
    obtain ⟨d, ds, hc, -⟩ := exists_utf8EncodeChar c
    rw [List.flatMap_cons, List.length_append, hc, List.length_cons, List.length_cons]
    omega

/-- The first byte of a text that starts with a character. -/
theorem exists_ofText_cons (h : s.toList = c :: cs) :
    ∃ d ds, ofText s = d :: ds ∧ d.toNat < 0xF8 ∧
      (d.toNat = c.toNat ∨ 0x80 ≤ d.toNat ∧ 0x80 ≤ c.toNat) := by
  obtain ⟨d, ds, hc, hfirst⟩ := exists_utf8EncodeChar c
  exact ⟨d, ds ++ cs.flatMap String.utf8EncodeChar,
    by rw [ofText_eq_flatMap, h, List.flatMap_cons, hc, List.cons_append], hfirst⟩

end Bytes

end RelMap
