-- SUMMARY: Numbering a text writes a number for each unquoted question mark and keeps all else.
import RelMap.Proofs.Sql.Renumbering

/-!
# Numbered texts, character by character

`Placeholder.scan` tells what numbering makes of each character of a text, which the numbered
text does not show: a dollar sign or a digit in it may have stood there before. Main statement:
the question marks that are replaced are those that an even number of single quotes precedes,
their numbers count on from the start, all other characters are kept, and a text that closes its
quotes is numbered apart from what follows it.
-/
namespace RelMap.Placeholder

/-! ## One character -/

/-- What numbering makes of one character. -/
inductive Scanned where
  | kept (c : Char)
  /-- A question mark that gave way to a numbered placeholder. -/
  | numbered (n : Nat)

namespace Scanned

/-- What is written for the character. -/
def text : Scanned → List Char
  | .kept c => [c]
  | .numbered n => Placeholder.numbered n

/-- What is written for the character, with the digits of a placeholder erased and its dollar
sign turned back. -/
def source : Scanned → Char
  | .kept c => c
  | .numbered _ => '?'

def number? : Scanned → Option Nat
  | .kept _ => none
  | .numbered n => some n

/-- Question marks outside single quotes are numbered. -/
def ofChar (start : Nat) (quoted : Bool) (c : Char) : Scanned :=
  if c = '?' ∧ quoted = false then .numbered (start + 1) else .kept c

variable (start : Nat) (quoted : Bool) (c : Char)

theorem text_ofChar : (ofChar start quoted c).text = numberFrom start quoted [c] := by
  rw [ofChar, numberFrom]
  split_ifs with hmark hquote
  -- A question mark is no quote, so the two tests never both hold.
  · exact absurd (hmark.1.symm.trans hquote) (by decide)
  · exact (List.append_nil _).symm
  · rfl
  · rfl

theorem source_ofChar : (ofChar start quoted c).source = c := by
  rw [ofChar]
  split_ifs with hmark
  · exact hmark.1.symm
  · rfl

theorem number?_ofChar : (ofChar start quoted c).number?.toList =
    List.range' (start + 1) (asked quoted [c]) := by
  rw [ofChar, asked]
  split_ifs with hmark hquote
  · exact absurd (hmark.1.symm.trans hquote) (by decide)
  · rfl
  · rfl
  · rfl

theorem ofChar_eq_numbered_iff :
    (∃ n, ofChar start quoted c = .numbered n) ↔ c = '?' ∧ quoted = false := by
  rw [ofChar]
  split_ifs with hmark <;> simp [hmark]

end Scanned

/-! ## One text -/

/-- What numbering after `start` makes of each character of a text. -/
def scan : Nat → Bool → List Char → List Scanned
  | _, _, [] => []
  | start, quoted, c :: cs =>
    .ofChar start quoted c :: scan (start + asked quoted [c]) (quotedAfter quoted [c]) cs

variable (start : Nat) (quoted : Bool) (cs : List Char)

theorem flatMap_text_scan :
    (scan start quoted cs).flatMap Scanned.text = numberFrom start quoted cs := by
  induction cs generalizing start quoted with
  | nil => rfl
  | cons c cs ih =>
    rw [scan, List.flatMap_cons, ih, Scanned.text_ofChar, ← numberFrom_append,
      List.singleton_append]

theorem map_source_scan : (scan start quoted cs).map Scanned.source = cs := by
  induction cs generalizing start quoted with
  | nil => rfl
  | cons c cs ih => rw [scan, List.map_cons, ih, Scanned.source_ofChar]

theorem asked_cons (c : Char) :
    asked quoted (c :: cs) = asked quoted [c] + asked (quotedAfter quoted [c]) cs :=
  asked_append quoted [c] cs

theorem filterMap_number?_scan : (scan start quoted cs).filterMap Scanned.number? =
    List.range' (start + 1) (asked quoted cs) := by
  rw [List.filterMap_eq_flatMap_toList]
  induction cs generalizing start quoted with
  | nil => rfl
  | cons c cs ih =>
    rw [scan, List.flatMap_cons, ih, Scanned.number?_ofChar, asked_cons quoted cs c,
      Nat.add_right_comm, List.range'_append_1]

/-- A question mark is replaced if no quoted literal is open after the text before it. -/
theorem getElem?_scan_iff (i : Nat) : (∃ n, (scan start quoted cs)[i]? = some (.numbered n)) ↔
    cs[i]? = some '?' ∧ quotedAfter quoted (cs.take i) = false := by
  induction cs generalizing start quoted i with
  | nil => simp [scan]
  | cons c cs ih =>
    cases i with
    | zero => simpa [scan, quotedAfter] using Scanned.ofChar_eq_numbered_iff start quoted c
    | succ i => exact ih _ _ i

theorem quotedAfter_eq_false_iff : quotedAfter false cs = false ↔ Even (cs.count '\'') := by
  rw [quotedAfter_eq]
  split_ifs with heven <;> simp [heven]

/-! ## Two texts in a row -/

/-- The scan goes on after a front with its count and its open quotes. -/
theorem scan_append (cs' : List Char) : scan start quoted (cs ++ cs') =
    scan start quoted cs ++ scan (start + asked quoted cs) (quotedAfter quoted cs) cs' := by
  induction cs generalizing start quoted with
  | nil => rfl
  | cons c cs ih =>
    rw [List.cons_append, scan, ih, scan, asked_cons quoted cs c, Nat.add_assoc]
    rfl

/-- A doubled quote leaves the count and the open quotes as they are. -/
theorem scan_doubled : scan start quoted ('\'' :: '\'' :: cs) =
    .kept '\'' :: .kept '\'' :: scan start quoted cs := by
  cases quoted <;> rfl

/-! ## A counter of 64 bits -/

section Counter

variable (start : UInt64)

theorem toNat_add_ofNat {n : Nat} (h : start.toNat + n < UInt64.size) :
    (start + UInt64.ofNat n).toNat = start.toNat + n := by
  have hn : n < UInt64.size := by omega
  rw [UInt64.toNat_add, UInt64.toNat_ofNat_of_lt' hn]
  exact Nat.mod_eq_of_lt h

/-- The counter of 64 bits gives the same numbers, and fails exactly if the last of them needs
more. -/
theorem numberFrom?_eq : numberFrom? start quoted cs =
    if start.toNat + asked quoted cs < UInt64.size then
      some (numberFrom start.toNat quoted cs)
    else none := by
  fun_induction numberFrom? start quoted cs with
  | case1 start quoted => rw [asked, Nat.add_zero, if_pos start.toNat_lt_size, numberFrom]
  | case2 start quoted cs ih =>
    rw [ih, asked, if_pos rfl, numberFrom, if_pos rfl]
    split_ifs <;> rfl
  | case3 start quoted c cs hquote hmark hnext ih =>
    have hone : (start + 1).toNat = start.toNat + 1 := toNat_add_ofNat start hnext
    have hlast : start.toNat + 1 + asked quoted cs = start.toNat + (asked quoted cs + 1) := by
      omega
    rw [ih, asked, if_neg hquote, if_pos hmark, numberFrom, if_neg hquote, if_pos hmark, hone,
      hlast]
    split_ifs <;> rfl
  | case4 start quoted c cs hquote hmark hnext =>
    have hlast : ¬start.toNat + (asked quoted cs + 1) < UInt64.size := by omega
    rw [asked, if_neg hquote, if_pos hmark, if_neg hlast]
  | case5 start quoted c cs hquote hmark ih =>
    rw [ih, asked, if_neg hquote, if_neg hmark, numberFrom, if_neg hquote, if_neg hmark]
    split_ifs <;> rfl

theorem number?_eq (sql : String) : number? sql start =
    if start.toNat + asked false sql.toList < UInt64.size then some (number sql start.toNat)
    else none := by
  rw [number?, numberFrom?_eq]
  split_ifs <;> rfl

/-- A text with an even number of quotes is numbered apart from what follows it. Where the numbers
do not last for the front, they do not last for the whole. -/
theorem number?_append {a : String} (h : Even (a.toList.count '\'')) (b : String) :
    number? (a ++ b) start = (number? a start).bind fun front =>
      (number? b (start + .ofNat (asked false a.toList))).map (front ++ ·) := by
  have hasked : asked false (a ++ b).toList = asked false a.toList + asked false b.toList := by
    rw [String.toList_append, asked_append, quotedAfter_of_even h]
  have hnumber : number (a ++ b) start.toNat =
      number a start.toNat ++ number b (start.toNat + asked false a.toList) := by
    apply String.toList_inj.mp
    simp only [number, String.toList_append, String.toList_ofList, numberFrom_append,
      quotedAfter_of_even h]
  rw [number?_eq start (a ++ b), number?_eq start a, hasked, hnumber, ← Nat.add_assoc]
  by_cases hfront : start.toNat + asked false a.toList < UInt64.size
  · rw [if_pos hfront, Option.bind_some, number?_eq, toNat_add_ofNat start hfront]
    split_ifs <;> rfl
  · rw [if_neg hfront, if_neg (by omega), Option.bind_none]

end Counter

/-! ## The numbered text -/

/-- What numbering makes of a text, after any count of earlier placeholders. With a counter of 64
bits it fails exactly if the last number would need more. The replaced question marks are those that
an even number of single quotes precedes, with numbers that count on from the start; erasing their
digits and turning their dollar signs back gives the text. A text with an even number of quotes is
numbered apart from what follows. Two quotes more, at any place, change nothing behind them. -/
theorem number_replaces_unquoted (a b : String) (start : UInt64) :
    let scanned := scan start.toNat false a.toList
    let inserted := scanned.filterMap Scanned.number?
    (number? a start = if start.toNat + inserted.length < UInt64.size then
        some (number a start.toNat) else none) ∧
      (number a start.toNat).toList = scanned.flatMap Scanned.text ∧
      scanned.map Scanned.source = a.toList ∧
      inserted = List.range' (start.toNat + 1) inserted.length ∧
      (∀ i : Nat, (∃ n, scanned[i]? = some (.numbered n)) ↔
        a.toList[i]? = some '?' ∧ Even ((a.toList.take i).count '\'')) ∧
      (Even (a.toList.count '\'') →
        number? (a ++ b) start = (number? a start).bind fun front =>
          (number? b (start + .ofNat inserted.length)).map (front ++ ·)) ∧
      ∃ rest, scan start.toNat false (a ++ b).toList = scanned ++ rest ∧
        scan start.toNat false (a ++ "''" ++ b).toList =
          scanned ++ .kept '\'' :: .kept '\'' :: rest := by
  intro scanned inserted
  have hinserted : inserted = List.range' (start.toNat + 1) (asked false a.toList) :=
    filterMap_number?_scan start.toNat false a.toList
  have hlength : inserted.length = asked false a.toList := by rw [hinserted, List.length_range']
  refine ⟨?_, ?_, map_source_scan start.toNat false a.toList, by rw [hlength, hinserted],
    fun i => ?_, fun heven => ?_, ?_⟩
  · rw [number?_eq, hlength]
  · rw [number, String.toList_ofList, flatMap_text_scan]
  · rw [getElem?_scan_iff, quotedAfter_eq_false_iff]
  · rw [hlength, number?_append start heven]
  · have hquotes : "''".toList = ['\'', '\''] := rfl
    refine ⟨_, by rw [String.toList_append, scan_append], ?_⟩
    rw [String.toList_append, String.toList_append, hquotes, List.append_assoc, scan_append,
      List.cons_append, List.cons_append, List.nil_append, scan_doubled]

/-- A quoted literal with a doubled quote, and a second text that goes on counting. Before the last
number there is one for the first text, and none is left for the second. -/
theorem number_replaces_unquoted_twoTexts :
    let a := "s = 'it''s?' AND x = ?"
    let b := " OR c <> '?' AND y = ?"
    Even (a.toList.count '\'') ∧
      number? (a ++ b) 1 = some "s = 'it''s?' AND x = $2 OR c <> '?' AND y = $3" ∧
      number? a 0xFFFFFFFFFFFFFFFE = some "s = 'it''s?' AND x = $18446744073709551615" ∧
      number? (a ++ b) 0xFFFFFFFFFFFFFFFE = none := by
  intro a b
  have heven : Even (a.toList.count '\'') := by decide
  obtain ⟨-, -, -, -, -, hfront, -⟩ := number_replaces_unquoted a b 1
  obtain ⟨hlast, -, -, -, -, hover, -⟩ := number_replaces_unquoted a b 0xFFFFFFFFFFFFFFFE
  refine ⟨heven, ?_, ?_, ?_⟩
  · rw [hfront heven]
    decide +kernel
  · rw [hlast]
    decide +kernel
  · rw [hover heven]
    decide +kernel

end RelMap.Placeholder
