-- SUMMARY: No two texts are quoted the same.
import Mathlib.Data.List.Basic
import RelMap.Text.Quoted

/-!
# Reading quoted texts

A character between double quotes stands for itself, or is a backslash with a letter, or its code in
hexadecimal. Main statement: no two texts are written the same between double quotes.
-/
namespace RelMap.Quoted

/-! ## Codes in hexadecimal -/

theorem toDigits_eq (n : Nat) : Nat.toDigits 16 n =
    (if n < 16 then [] else Nat.toDigits 16 (n / 16)) ++ [Nat.digitChar (n % 16)] := by
  split_ifs with h
  · rw [Nat.toDigits_of_lt_base h, Nat.mod_eq_of_lt h, List.nil_append]
  · exact Nat.toDigits_of_base_le (by decide) (Nat.le_of_not_lt h)

theorem digitChar_inj : ∀ d < 16, ∀ d' < 16, Nat.digitChar d = Nat.digitChar d' → d = d' := by
  decide

theorem toDigits_inj {m n : Nat} (h : Nat.toDigits 16 m = Nat.toDigits 16 n) : m = n := by
  induction m using Nat.strongRecOn generalizing n with
  | ind m ih =>
    rw [toDigits_eq m, toDigits_eq n] at h
    obtain ⟨hinit, hlast⟩ := List.append_inj' h rfl
    have hmod : m % 16 = n % 16 := digitChar_inj _ (Nat.mod_lt m (by decide)) _
      (Nat.mod_lt n (by decide)) (List.singleton_inj.mp hlast)
    split_ifs at hinit with hm hn hn
    · omega
    · exact absurd hinit.symm Nat.toDigits_ne_nil
    · exact absurd hinit Nat.toDigits_ne_nil
    · have hdiv := ih (m / 16) (by omega) hinit
      omega

theorem digitChar_ne_brace : ∀ d < 16, Nat.digitChar d ≠ '\x7d' := by
  decide

theorem brace_not_mem_toDigits (n : Nat) : '\x7d' ∉ Nat.toDigits 16 n := by
  induction n using Nat.strongRecOn with
  | ind n ih =>
    rw [toDigits_eq, List.mem_append, List.mem_singleton]
    rintro (h | h)
    · split_ifs at h with hn
      · cases h
      · exact ih (n / 16) (by omega) h
    · exact digitChar_ne_brace _ (Nat.mod_lt n (by decide)) h.symm

theorem takeWhile_toDigits (n : Nat) (rest : List Char) :
    (Nat.toDigits 16 n ++ '\x7d' :: rest).takeWhile (· ≠ '\x7d') = Nat.toDigits 16 n := by
  have hne : ∀ c ∈ Nat.toDigits 16 n, decide (c ≠ '\x7d') = true := fun c hc =>
    decide_eq_true fun heq => brace_not_mem_toDigits n (heq ▸ hc)
  rw [List.takeWhile_append_of_pos hne]
  simp

theorem codeEscape_append_inj {c c' : Char} {rest rest' : List Char}
    (h : codeEscape c ++ rest = codeEscape c' ++ rest') : c = c' ∧ rest = rest' := by
  simp only [codeEscape, List.append_assoc, List.append_cancel_left_eq, List.singleton_append] at h
  have hdigits := congrArg (List.takeWhile (· ≠ '\x7d')) h
  rw [takeWhile_toDigits, takeWhile_toDigits] at hdigits
  obtain rfl := Char.toNat_inj.mp (toDigits_inj hdigits)
  exact ⟨rfl, List.tail_eq_of_cons_eq (List.append_cancel_left h)⟩

/-! ## Characters -/

/-- The character that a backslash and a letter stand for. -/
def ofLetter (letter : Char) : Char :=
  match letter with
  | '0' => '\x00'
  | 't' => '\t'
  | 'r' => '\r'
  | 'n' => '\n'
  | c => c

/-- The three ways in which a character is written. -/
theorem escape_cases (c : Char) :
    (∃ letter ≠ 'u', c = ofLetter letter ∧ escape c = ['\\', letter]) ∨
      (c ≠ '\\' ∧ escape c = [c]) ∨ escape c = codeEscape c := by
  unfold escape
  split
  · exact .inl ⟨'0', by decide, rfl, rfl⟩
  · exact .inl ⟨'t', by decide, rfl, rfl⟩
  · exact .inl ⟨'r', by decide, rfl, rfl⟩
  · exact .inl ⟨'n', by decide, rfl, rfl⟩
  · exact .inl ⟨'"', by decide, rfl, rfl⟩
  · exact .inl ⟨'\\', by decide, rfl, rfl⟩
  · next hbackslash =>
    split
    · exact .inr (.inl ⟨hbackslash, rfl⟩)
    · exact .inr (.inr rfl)

/-- A written character ends where the next begins. -/
theorem escape_append_inj {c c' : Char} {rest rest' : List Char}
    (h : escape c ++ rest = escape c' ++ rest') : c = c' ∧ rest = rest' := by
  rcases escape_cases c with ⟨letter, hu, hc, heq⟩ | ⟨hne, heq⟩ | heq <;>
    rcases escape_cases c' with ⟨letter', hu', hc', heq'⟩ | ⟨hne', heq'⟩ | heq' <;>
    rw [heq, heq'] at h
  · obtain ⟨rfl, rfl⟩ : letter = letter' ∧ rest = rest' := by simpa using h
    exact ⟨hc.trans hc'.symm, rfl⟩
  · exact absurd (List.cons.inj h).1.symm hne'
  · exact absurd (List.cons.inj (List.cons.inj h).2).1 hu
  · exact absurd (List.cons.inj h).1 hne
  · exact List.cons.inj h
  · exact absurd (List.cons.inj h).1 hne
  · exact absurd (List.cons.inj (List.cons.inj h).2).1.symm hu'
  · exact absurd (List.cons.inj h).1.symm hne'
  · exact codeEscape_append_inj h

theorem escape_ne_nil (c : Char) : escape c ≠ [] := by
  rcases escape_cases c with ⟨letter, -, -, heq⟩ | ⟨-, heq⟩ | heq <;> rw [heq] <;>
    exact List.cons_ne_nil _ _

theorem flatMap_escape_inj {cs cs' : List Char} (h : cs.flatMap escape = cs'.flatMap escape) :
    cs = cs' := by
  induction cs generalizing cs' with
  | nil =>
    cases cs' with
    | nil => rfl
    | cons c' rest' =>
      rw [List.flatMap_cons] at h
      exact absurd (List.append_eq_nil_iff.mp h.symm).1 (escape_ne_nil c')
  | cons c rest ih =>
    cases cs' with
    | nil =>
      rw [List.flatMap_cons] at h
      exact absurd (List.append_eq_nil_iff.mp h).1 (escape_ne_nil c)
    | cons c' rest' =>
      rw [List.flatMap_cons, List.flatMap_cons] at h
      obtain ⟨rfl, hrest⟩ := escape_append_inj h
      rw [ih hrest]

/-- No two texts are quoted the same. -/
theorem text_inj {s s' : String} (h : text s = text s') : s = s' := by
  have hlist := congrArg String.toList h
  simp only [text, String.toList_append, String.toList_ofList] at hlist
  exact String.toList_inj.mp
    (flatMap_escape_inj (List.append_cancel_left (List.append_cancel_right hlist)))

end RelMap.Quoted
