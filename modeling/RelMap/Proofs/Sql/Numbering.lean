-- SUMMARY: The numbered placeholders that a text shows, and those that pieces write.
import Mathlib.Data.List.Chain
import Mathlib.Data.List.TakeWhile
import RelMap.Proofs.Sql.Pieces

/-!
# Numbered placeholders

`tokens` reads the numbered placeholders back from a text. Two texts show the tokens
of both where they meet without a digit, which is how pieces meet: `Apart`. A piece
asks for arguments and is given some, its `Demand`. Main statement: the tokens of a
rendered list of pieces are those that its demands call for.
-/
namespace RelMap

/-! ## Reading placeholders -/

namespace Placeholder

/-- The numbered placeholders of a text from left to right: each dollar sign with
the digits that follow it. -/
def tokens : List Char → List (List Char)
  | [] => []
  | c :: cs => if c = '$' then ('$' :: cs.takeWhile Char.isDigit) :: tokens cs else tokens cs

/-- The numbers of the placeholders of a text. -/
def numbers (cs : List Char) : List Nat := (tokens cs).filterMap fun t => Digits.toNat? t.tail

/-- How many question marks stand outside single quotes. -/
def asked : Bool → List Char → Nat
  | _, [] => 0
  | quoted, c :: cs =>
    if c = '\'' then asked (!quoted) cs
    else if c = '?' ∧ quoted = false then asked quoted cs + 1
    else asked quoted cs

/-- No question mark stands directly before a digit. -/
def NoNumeral (cs : List Char) : Prop := cs.IsChain fun c c' => c = '?' → c'.isDigit = false

instance (cs : List Char) : Decidable (NoNumeral cs) :=
  inferInstanceAs (Decidable (cs.IsChain fun c c' => c = '?' → c'.isDigit = false))

/-- The text does not begin with a digit. -/
def ClearStart (cs : List Char) : Prop := ∀ c ∈ cs.head?, c.isDigit = false

theorem tokens_append_of_not_mem {cs : List Char} (h : '$' ∉ cs) (cs' : List Char) :
    tokens (cs ++ cs') = tokens cs' := by
  induction cs with
  | nil => rfl
  | cons c cs ih =>
    simp only [List.mem_cons, not_or] at h
    rw [List.cons_append, tokens, if_neg (Ne.symm h.1), ih h.2]

theorem takeWhile_append_of_clearStart {cs cs' : List Char} (h : ClearStart cs') :
    (cs ++ cs').takeWhile Char.isDigit = cs.takeWhile Char.isDigit := by
  have hstop : cs'.takeWhile Char.isDigit = [] := by
    cases cs' with
    | nil => rfl
    | cons c cs' => simp [h c (by simp)]
  rw [List.takeWhile_append]
  split
  · next hall =>
    rw [hstop, List.append_nil]
    exact ((List.takeWhile_prefix Char.isDigit).eq_of_length hall).symm
  · rfl

theorem tokens_append {cs cs' : List Char} (h : ClearStart cs') :
    tokens (cs ++ cs') = tokens cs ++ tokens cs' := by
  induction cs with
  | nil => rfl
  | cons c cs ih =>
    rw [List.cons_append, tokens, tokens, takeWhile_append_of_clearStart h, ih]
    split <;> rfl

theorem tokens_of_not_mem {cs : List Char} (h : '$' ∉ cs) : tokens cs = [] := by
  simpa [tokens] using tokens_append_of_not_mem h []

theorem dollar_not_mem_ofNat (n : Nat) : '$' ∉ Digits.ofNat n := by
  intro h
  have := Digits.isDigit_of_mem_ofNat h
  revert this
  decide

@[simp] theorem tokens_numbered (n : Nat) : tokens (numbered n) = [numbered n] := by
  have hdigits : (Digits.ofNat n).takeWhile Char.isDigit = Digits.ofNat n :=
    List.takeWhile_eq_self_iff.mpr fun _ h => Digits.isDigit_of_mem_ofNat h
  rw [numbered, tokens, if_pos rfl, hdigits, tokens_of_not_mem (dollar_not_mem_ofNat n)]

/-- A text whose placeholders are spelled as numbered ones shows their numbers. -/
theorem numbers_eq {cs : List Char} {ns : List Nat} (h : tokens cs = ns.map numbered) :
    numbers cs = ns := by
  rw [numbers, h, List.filterMap_map]
  have hread : (fun t : List Char => Digits.toNat? t.tail) ∘ numbered = some := by
    funext n
    exact Digits.toNat?_ofNat n
  rw [hread, List.filterMap_some]

theorem clearStart_numberFrom {cs : List Char} (h : ClearStart cs) (start : Nat) (quoted : Bool) :
    ClearStart (numberFrom start quoted cs) := by
  cases cs with
  | nil => exact h
  | cons c cs =>
    rw [numberFrom]
    split
    · exact h
    · split
      · intro c hc
        cases hc
        decide
      · exact h

/-- Numbering writes one placeholder for each question mark that it counts. -/
theorem tokens_numberFrom {cs : List Char} (hdollar : '$' ∉ cs) (hnumeral : NoNumeral cs)
    (start : Nat) (quoted : Bool) :
    tokens (numberFrom start quoted cs) =
      (List.range' (start + 1) (asked quoted cs)).map numbered := by
  induction cs generalizing start quoted with
  | nil => rfl
  | cons c cs ih =>
    simp only [List.mem_cons, not_or] at hdollar
    obtain ⟨hnext, hnumeral⟩ := List.isChain_cons.mp hnumeral
    have skip (cs' : List Char) : tokens (c :: cs') = tokens cs' := by
      rw [tokens, if_neg (Ne.symm hdollar.1)]
    rw [numberFrom, asked]
    split
    · rw [skip, ih hdollar.2 hnumeral]
    · split
      · next hmark =>
        have hclear : ClearStart cs := fun c' hc' => hnext c' hc' hmark.1
        rw [tokens_append (clearStart_numberFrom hclear _ _), tokens_numbered,
          ih hdollar.2 hnumeral, List.range'_succ, List.map_cons]
        rfl
      · rw [skip, ih hdollar.2 hnumeral]

end Placeholder

/-! ## Demands -/

/-- For how many arguments a place of a statement asks, and how many it is given. -/
structure Demand where
  asked : Nat
  given : Nat
  deriving DecidableEq

namespace Demand

/-- The numbers that demands call for after `bound` arguments. Each place numbers
its question marks after the arguments that are given before it. -/
def numbers (bound : Nat) : List Demand → List Nat
  | [] => []
  | x :: xs => List.range' (bound + 1) x.asked ++ numbers (bound + x.given) xs

/-- All arguments that are given. -/
def total : List Demand → Nat
  | [] => 0
  | x :: xs => x.given + total xs

theorem total_append (xs ys : List Demand) : total (xs ++ ys) = total xs + total ys := by
  induction xs with
  | nil => exact (Nat.zero_add _).symm
  | cons x xs ih => rw [List.cons_append, total, total, ih, Nat.add_assoc]

/-- Where each place is given as many arguments as it asks for, the numbers run
through all arguments. -/
theorem numbers_of_balanced {xs : List Demand} (h : ∀ x ∈ xs, x.asked = x.given) (bound : Nat) :
    numbers bound xs = List.range' (bound + 1) (total xs) := by
  induction xs generalizing bound with
  | nil => rfl
  | cons x xs ih =>
    have hnext : bound + x.given + 1 = bound + 1 + x.given := by omega
    rw [numbers, h x (by simp), ih fun y hy => h y (by simp [hy]), hnext, List.range'_append_1,
      total]

/-- No place asks while question marks before it still wait for arguments; `debt`
counts those that wait. -/
def Settled (debt : Nat) : List Demand → Prop
  | [] => True
  | x :: xs =>
    if x.asked = 0 then Settled (debt - x.given) xs
    else debt = 0 ∧ Settled (x.asked - x.given) xs

instance decidableSettled : (debt : Nat) → (xs : List Demand) → Decidable (Settled debt xs)
  | _, [] => .isTrue trivial
  | debt, x :: xs =>
    have := decidableSettled (debt - x.given) xs
    have := decidableSettled (x.asked - x.given) xs
    inferInstanceAs (Decidable (if x.asked = 0 then Settled (debt - x.given) xs
      else debt = 0 ∧ Settled (x.asked - x.given) xs))

theorem lt_of_mem_numbers {bound n : Nat} {xs : List Demand} (h : n ∈ numbers bound xs) :
    bound < n := by
  induction xs generalizing bound with
  | nil => cases h
  | cons x xs ih =>
    rcases List.mem_append.mp h with hn | hn
    · have := List.mem_range'_1.mp hn
      omega
    · have := ih hn
      omega

/-- The numbers increase, all beyond what earlier places have numbered, exactly if
no place asks too early. -/
theorem pairwise_numbers_iff (bound debt : Nat) (xs : List Demand) :
    (numbers bound xs).Pairwise (· < ·) ∧ (∀ n ∈ numbers bound xs, bound + debt < n) ↔
      Settled debt xs := by
  -- `debt` numbers after `bound` are taken already. The second part of the left side
  -- carries the induction: it keeps the later numbers off them.
  induction xs generalizing bound debt with
  | nil => simp [numbers, Settled]
  | cons x xs ih =>
    rw [numbers, Settled]
    split
    · next hnone =>
      rw [← ih (bound + x.given), hnone, List.range'_zero, List.nil_append]
      refine and_congr_right fun _ => forall₂_congr fun n hn => ?_
      have := lt_of_mem_numbers hn
      omega
    · next hsome =>
      rw [← ih (bound + x.given)]
      constructor
      · rintro ⟨hpairwise, hlow⟩
        obtain ⟨-, hrest, hcross⟩ := List.pairwise_append.mp hpairwise
        have hfirst := hlow (bound + 1)
          (List.mem_append_left _ (List.mem_range'_1.mpr ⟨by omega, by omega⟩))
        refine ⟨by omega, hrest, fun n hn => ?_⟩
        have hlast := hcross (bound + x.asked) (List.mem_range'_1.mpr ⟨by omega, by omega⟩) n hn
        have := lt_of_mem_numbers hn
        omega
      · rintro ⟨rfl, hrest, hlow⟩
        constructor
        · refine List.pairwise_append.mpr ⟨List.pairwise_lt_range', hrest, fun m hm n hn => ?_⟩
          have := List.mem_range'_1.mp hm
          have := hlow n hn
          omega
        · intro n hn
          rcases List.mem_append.mp hn with hn | hn
          · have := List.mem_range'_1.mp hn
            omega
          · have := lt_of_mem_numbers hn
            omega

/-- The numbers increase from left to right exactly if no place asks too early. -/
theorem pairwise_numbers_zero_iff (xs : List Demand) :
    (numbers 0 xs).Pairwise (· < ·) ↔ Settled 0 xs := by
  rw [← pairwise_numbers_iff 0 0]
  exact ⟨fun h => ⟨h, fun n hn => lt_of_mem_numbers hn⟩, fun h => h.1⟩

end Demand

/-! ## Pieces -/

namespace Piece

/-- What a piece asks for. Fixed text asks for nothing. -/
def demands : Piece → List Demand
  | .text _ => []
  | .bind _ => [⟨1, 1⟩]
  | .fragment sql args => [⟨Placeholder.asked false sql.toList, args.length⟩]

/-- A piece shows no numbered placeholder of its own, and no digit behind a question
mark that becomes one. -/
def Plain : Piece → Prop
  | .text sql => '$' ∉ sql.toList
  | .bind _ => True
  | .fragment sql _ => '$' ∉ sql.toList ∧ Placeholder.NoNumeral sql.toList

/-- Fixed text that begins with something other than a digit. -/
def StartsClear : Piece → Prop
  | .text sql => ∃ c cs, sql.toList = c :: cs ∧ c.isDigit = false
  | _ => False

/-- Where two pieces meet, no digit runs into a placeholder. -/
def Apart (p q : Piece) : Prop := (∃ sql, p = .text sql) ∨ q.StartsClear

theorem isChain_text_cons {sql : String} {ps : List Piece} (h : ps.IsChain Apart) :
    (.text sql :: ps).IsChain Apart :=
  h.cons fun _ _ => .inl ⟨sql, rfl⟩

theorem isChain_append_text {sql : String} {ps qs : List Piece} (hsql : (text sql).StartsClear)
    (hps : ps.IsChain Apart) (hqs : qs.IsChain Apart) :
    (ps ++ .text sql :: qs).IsChain Apart := by
  refine hps.append (isChain_text_cons hqs) fun p _ q hq => .inr ?_
  cases hq
  exact hsql

theorem isChain_bind_text {v : Value} {sql : String} {ps : List Piece}
    (hsql : (text sql).StartsClear) (h : ps.IsChain Apart) :
    (.bind v :: .text sql :: ps).IsChain Apart := by
  refine (isChain_text_cons h).cons fun q hq => .inr ?_
  cases hq
  exact hsql

theorem isChain_separated {separator : String} (hseparator : (text separator).StartsClear)
    {pss : List (List Piece)} (each : ∀ ps ∈ pss, ps.IsChain Apart) :
    (separated separator pss).IsChain Apart := by
  fun_induction separated separator pss with
  | case1 => exact .nil
  | case2 ps => exact each ps (by simp)
  | case3 ps rest _ ih =>
    have hrest := ih fun ps hps => each ps (by simp [hps])
    exact isChain_append_text hseparator (each ps (by simp)) hrest

end Piece

theorem startsClear_text {sql : String} {c : Char} {cs : List Char} (h : sql.toList = c :: cs)
    (hc : c.isDigit = false) : (Piece.text sql).StartsClear :=
  ⟨c, cs, h, hc⟩

theorem startsClear_append {sql : String} (h : (Piece.text sql).StartsClear) (sql' : String) :
    (Piece.text (sql ++ sql')).StartsClear := by
  obtain ⟨c, cs, hsql, hc⟩ := h
  exact ⟨c, cs ++ sql'.toList, by rw [String.toList_append, hsql]; rfl, hc⟩

theorem Predicate.isChain_list (vs : List Value) : (Predicate.list vs).IsChain Piece.Apart := by
  refine Piece.isChain_separated (startsClear_text rfl rfl) fun ps hps => ?_
  obtain ⟨v, _, rfl⟩ := List.mem_map.mp hps
  exact .singleton _

mutual

/-- Between the pieces of a predicate no digit runs into a placeholder. -/
theorem Predicate.isChain_pieces (p : Predicate) : p.pieces.IsChain Piece.Apart := by
  cases p with
  | compare column op v => exact Piece.isChain_text_cons (.singleton _)
  | inList negated column list =>
    exact Piece.isChain_text_cons (Piece.isChain_bind_text (startsClear_text rfl rfl) .nil)
  | between negated column low high =>
    exact Piece.isChain_text_cons
      (Piece.isChain_bind_text (startsClear_text rfl rfl) (.singleton (Piece.bind high)))
  | existence negated subquery => exact .singleton _
  | inSubquery negated column subquery => exact .singleton _
  | inValues negated column values =>
    exact Piece.isChain_text_cons (Piece.isChain_append_text (startsClear_text rfl rfl)
      (isChain_list values) .nil)
  | fragment sql args => exact .singleton _
  | junction op clauses =>
    refine Piece.isChain_separated ?_ (isChain_piecesOf clauses)
    cases op <;> exact startsClear_text rfl rfl
  | not clause =>
    exact Piece.isChain_text_cons (Piece.isChain_append_text (startsClear_text rfl rfl)
      (isChain_pieces clause) .nil)

theorem Predicate.isChain_piecesOf (clauses : List Predicate) :
    ∀ ps ∈ piecesOf clauses, ps.IsChain Piece.Apart := by
  cases clauses with
  | nil => intro ps hps; cases hps
  | cons p clauses =>
    intro ps hps
    rcases List.mem_cons.mp hps with rfl | hps
    · exact isChain_pieces p
    · exact isChain_piecesOf clauses ps hps

end

theorem RowLimit.isChain_pieces (d : Dialect) (lead : String) (l : RowLimit) :
    (l.pieces d lead).IsChain Piece.Apart := by
  cases l with
  | none => exact .nil
  | count n => exact Piece.isChain_text_cons (.singleton (Piece.bind n))
  | page skipped n =>
    cases d <;>
      exact Piece.isChain_text_cons
        (Piece.isChain_bind_text (startsClear_text rfl rfl) (.singleton _))

namespace Dialect

theorem clearStart_render {bound : Nat} {ps : List Piece} (h : ∀ p ∈ ps.head?, p.StartsClear) :
    Placeholder.ClearStart (postgresql.render bound ps).toList := by
  cases ps with
  | nil => intro c hc; cases hc
  | cons p ps =>
    cases p with
    | text sql =>
      obtain ⟨c, cs, hsql, hc⟩ := h _ rfl
      intro c' hc'
      simp only [render, renderPiece, String.toList_append, hsql] at hc'
      cases hc'
      exact hc
    | bind v => exact (h _ rfl).elim
    | fragment sql args => exact (h _ rfl).elim

/-- The placeholders of a rendered text are the numbers that its pieces call for. -/
theorem tokens_render {ps : List Piece} (plain : ∀ p ∈ ps, p.Plain) (apart : ps.IsChain Piece.Apart)
    (bound : Nat) :
    Placeholder.tokens (postgresql.render bound ps).toList =
      (Demand.numbers bound (ps.flatMap Piece.demands)).map Placeholder.numbered := by
  induction ps generalizing bound with
  | nil => rfl
  | cons p ps ih =>
    obtain ⟨hnext, apart⟩ := List.isChain_cons.mp apart
    have hp := plain p (by simp)
    have ih := ih (fun q hq => plain q (by simp [hq])) apart (bound + p.args.length)
    have hclear (hopen : ∀ sql, p ≠ .text sql) :
        Placeholder.ClearStart (postgresql.render (bound + p.args.length) ps).toList :=
      clearStart_render fun q hq => (hnext q hq).resolve_left fun ⟨sql, h⟩ => hopen sql h
    rw [render, String.toList_append]
    cases p with
    | text sql =>
      rw [renderPiece, Placeholder.tokens_append_of_not_mem hp, ih]
      rfl
    | bind v =>
      have hbind : (postgresql.renderPiece bound (.bind v)).toList =
          Placeholder.numbered (bound + 1) := String.toList_ofList
      rw [hbind, Placeholder.tokens_append (hclear (by simp)), Placeholder.tokens_numbered, ih]
      rfl
    | fragment sql args =>
      have hfragment : (postgresql.renderPiece bound (.fragment sql args)).toList =
          Placeholder.numberFrom bound false sql.toList := String.toList_ofList
      rw [hfragment, Placeholder.tokens_append (hclear (by simp)),
        Placeholder.tokens_numberFrom hp.1 hp.2, ih, ← List.map_append]
      rfl

end Dialect

end RelMap
