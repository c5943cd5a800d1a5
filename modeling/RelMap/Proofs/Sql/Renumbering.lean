-- SUMMARY: The statements of a filter in all dialects, and how their placeholders compare.
import Mathlib.Algebra.Group.Nat.Even
import RelMap.Proofs.Sql.Statements

/-!
# Renumbering

Dialects differ in how they spell placeholders, and in the order in which they take the
two values of a page. Numbering a text goes on, after any front of it, with the quotes and
the count that the front leaves. Main statement: the dialects accept the same filters with
the same arguments; where every fragment closes its quotes and asks for the arguments that
it is given, the text with numbers is the text without, numbered as a whole.
-/
namespace RelMap

/-! ## Numbering in parts -/

namespace Placeholder

/-- Whether a quoted literal is open after a text. -/
def quotedAfter : Bool → List Char → Bool
  | quoted, [] => quoted
  | quoted, c :: cs => quotedAfter (if c = '\'' then !quoted else quoted) cs

theorem quotedAfter_append (quoted : Bool) (cs cs' : List Char) :
    quotedAfter quoted (cs ++ cs') = quotedAfter (quotedAfter quoted cs) cs' := by
  induction cs generalizing quoted with
  | nil => rfl
  | cons c cs ih => exact ih _

/-- Every quote turns the state around. -/
theorem quotedAfter_eq (quoted : Bool) (cs : List Char) :
    quotedAfter quoted cs = if Even (cs.count '\'') then quoted else !quoted := by
  induction cs generalizing quoted with
  | nil => rfl
  | cons c cs ih =>
    rw [quotedAfter, ih]
    by_cases hc : c = '\''
    · subst hc
      simp only [List.count_cons_self, Nat.even_add_one, ite_not, if_true, Bool.not_not]
    · rw [if_neg hc, List.count_cons_of_ne hc]

theorem asked_append (quoted : Bool) (cs cs' : List Char) :
    asked quoted (cs ++ cs') = asked quoted cs + asked (quotedAfter quoted cs) cs' := by
  induction cs generalizing quoted with
  | nil => exact (Nat.zero_add _).symm
  | cons c cs ih =>
    rw [List.cons_append, asked, asked, quotedAfter]
    split
    · exact ih _
    · split
      · rw [ih, Nat.add_right_comm]
      · exact ih _

/-- Numbering goes on after a front with its count and its open quotes. -/
theorem numberFrom_append (start : Nat) (quoted : Bool) (cs cs' : List Char) :
    numberFrom start quoted (cs ++ cs') =
      numberFrom start quoted cs ++
        numberFrom (start + asked quoted cs) (quotedAfter quoted cs) cs' := by
  induction cs generalizing start quoted with
  | nil => rfl
  | cons c cs ih =>
    rw [List.cons_append, numberFrom, numberFrom, asked, quotedAfter]
    split
    · rw [ih, List.cons_append]
    · split
      · rw [ih, List.append_assoc, Nat.add_assoc, Nat.add_comm 1]
      · rw [ih, List.cons_append]

/-- Numbering changes nothing where nothing is asked for. -/
theorem numberFrom_of_asked_eq_zero {quoted : Bool} {cs : List Char} (h : asked quoted cs = 0)
    (start : Nat) : numberFrom start quoted cs = cs := by
  induction cs generalizing quoted with
  | nil => rfl
  | cons c cs ih =>
    rw [asked] at h
    rw [numberFrom]
    split at h
    · next hquote => rw [if_pos hquote, ih h]
    · next hquote =>
      split at h
      · cases h
      · next hmark => rw [if_neg hquote, if_neg hmark, ih h]

/-- A text without question marks asks for nothing. -/
theorem asked_of_not_mem {cs : List Char} (h : '?' ∉ cs) (quoted : Bool) : asked quoted cs = 0 := by
  induction cs generalizing quoted with
  | nil => rfl
  | cons c cs ih =>
    obtain ⟨hc, hcs⟩ := List.ne_and_not_mem_of_not_mem_cons h
    have hmark : ¬ (c = '?' ∧ quoted = false) := fun hmark => hc hmark.1.symm
    rw [asked, if_neg hmark, ih hcs, ih hcs, ite_self]

/-- A text that asks for nothing and leaves no quoted literal open. -/
def Silent (sql : String) : Prop :=
  asked false sql.toList = 0 ∧ quotedAfter false sql.toList = false

/-- A fragment that asks for its arguments and leaves no quoted literal open. -/
def Settled (sql : String) (args : Nat) : Prop :=
  asked false sql.toList = args ∧ quotedAfter false sql.toList = false

theorem quotedAfter_of_even {quoted : Bool} {cs : List Char} (h : Even (cs.count '\'')) :
    quotedAfter quoted cs = quoted := by
  rw [quotedAfter_eq, if_pos h]

theorem silent_of_not_mem {sql : String} (hmark : '?' ∉ sql.toList) (hquote : '\'' ∉ sql.toList) :
    Silent sql := by
  refine ⟨asked_of_not_mem hmark false, quotedAfter_of_even ?_⟩
  rw [List.count_eq_zero_of_not_mem hquote]
  exact Even.zero

theorem textProperty_silent : TextProperty Silent where
  of_bare h := silent_of_not_mem h.2.1 h.2.2
  append := by
    rintro sql sql' ⟨hasked, hquoted⟩ ⟨hasked', hquoted'⟩
    rw [Silent, String.toList_append, asked_append, quotedAfter_append, hquoted, hasked]
    exact ⟨by rw [hasked'], hquoted'⟩

end Placeholder

/-! ## Numbering a statement as a whole -/

namespace Dialect

/-- Only the spelling of placeholders enters the text of pieces. -/
theorem render_congr {d d' : Dialect} (h : d.numbersPlaceholders = d'.numbersPlaceholders)
    (bound : Nat) (ps : List Piece) : d.render bound ps = d'.render bound ps := by
  induction ps generalizing bound with
  | nil => rfl
  | cons p ps ih =>
    have hpiece : d.renderPiece bound p = d'.renderPiece bound p := by
      cases p <;> simp [renderPiece, h]
    rw [render, render, hpiece, ih]

/-- A piece with numbers is the piece without, numbered; it asks for its own arguments. -/
theorem numberFrom_renderPiece {p : Piece}
    (h : p.Satisfies Placeholder.Silent Placeholder.Settled) (bound : Nat) :
    let cs := (sqlite.renderPiece bound p).toList
    (postgresql.renderPiece bound p).toList = Placeholder.numberFrom bound false cs ∧
      Placeholder.asked false cs = p.args.length ∧ Placeholder.quotedAfter false cs = false := by
  cases p with
  | text sql => exact ⟨(Placeholder.numberFrom_of_asked_eq_zero h.1 bound).symm, h.1, h.2⟩
  | bind v =>
    have hmark : (sqlite.renderPiece bound (.bind v)).toList = ['?'] := by
      simp [renderPiece, numbersPlaceholders]
    rw [hmark]
    refine ⟨?_, rfl, rfl⟩
    exact String.toList_ofList.trans (List.append_nil _).symm
  | fragment sql args => exact ⟨String.toList_ofList, h.1, h.2⟩

/-- Numbering piece by piece is numbering the finished text. -/
theorem numberFrom_render {ps : List Piece}
    (h : ∀ p ∈ ps, p.Satisfies Placeholder.Silent Placeholder.Settled) (bound : Nat) :
    (postgresql.render bound ps).toList =
      Placeholder.numberFrom bound false (sqlite.render bound ps).toList := by
  -- Each piece closes its quotes and asks for its own arguments, so that the count and the
  -- state between two pieces are those that the rendering takes for granted.
  induction ps generalizing bound with
  | nil => rfl
  | cons p ps ih =>
    obtain ⟨hp, hps⟩ := List.forall_mem_cons.mp h
    obtain ⟨hnumbered, hasked, hquoted⟩ := numberFrom_renderPiece hp bound
    rw [render, render, String.toList_append, String.toList_append,
      Placeholder.numberFrom_append, hasked, hquoted, ← hnumbered, ih hps]

end Dialect

/-! ## Limits -/

/-- The values of the LIMIT of a filter, in the order of its node. -/
def Filter.limitValues : Filter → List Value
  | .condition c => c.limitOperands.filterMap Operand.value?
  | _ => []

variable {lookup : Lookup}

theorem Selects.limitOperands {c : Condition} {s : Selection} (h : Selects lookup c s) :
    c.limitOperands = s.limit.values.map .value := by
  cases h with
  | limit l => rfl
  | @limited _ _ _ _ l before after each =>
    have hbefore := Condition.among_map_fst fun c hc => each c (List.mem_append_left after hc)
    have hafter := Condition.among_map_fst fun c hc => each c (List.mem_append_right before hc)
    simp [Condition.limitOperands, RowLimit.among_append, RowLimit.among, hbefore, hafter]
  | unlimited whole => exact Condition.limitOperands_of_resolves whole

theorem Filter.limitValues_of_select {filter : Filter} {s : Selection}
    (h : filter.select lookup = .ok s) : filter.limitValues = s.limit.values := by
  cases filter with
  | none => cases h; rfl
  | condition c =>
    rw [limitValues, (Condition.select_eq_ok_iff.mp h).limitOperands, List.filterMap_map]
    exact List.filterMap_some
  | raw clause args =>
    simp only [select] at h
    split at h
    · cases h; rfl
    · cases h; rfl

namespace RowLimit

theorem pieces_mysql (lead : String) (l : RowLimit) : l.pieces .mysql lead = l.pieces .sqlite lead := by
  cases l <;> rfl

/-- Short of a page, the pieces of a limit are the same in all dialects. -/
theorem pieces_of_length_ne_two {l : RowLimit} (h : l.values.length ≠ 2) (d d' : Dialect)
    (lead : String) : l.pieces d lead = l.pieces d' lead := by
  cases l with
  | none => rfl
  | count n => rfl
  | page skipped n => exact absurd rfl h

theorem args_pieces_sqlite (lead : String) (l : RowLimit) :
    (l.pieces .sqlite lead).flatMap Piece.args = l.values := by
  cases l <;> rfl

theorem args_pieces_postgresql (lead : String) (l : RowLimit) :
    (l.pieces .postgresql lead).flatMap Piece.args = l.values.reverse := by
  cases l <;> rfl

theorem length_values_le (l : RowLimit) : l.values.length ≤ 2 := by
  cases l <;> simp [values]

end RowLimit

/-! ## Filters -/

/-- What the caller writes closes its quotes and asks for the arguments that it is given;
columns hold neither question marks nor quotes. -/
def Part.Closed : Part → Prop
  | .column name => '?' ∉ name.toList ∧ '\'' ∉ name.toList
  | .subquery sql => Even (sql.toList.count '\'') ∧ Placeholder.asked false sql.toList = 0
  | .fragment sql args =>
    Even (sql.toList.count '\'') ∧ Placeholder.asked false sql.toList = args
  | .identifier _ | .value => True

instance : DecidablePred Part.Closed
  | .column name => inferInstanceAs (Decidable ('?' ∉ name.toList ∧ '\'' ∉ name.toList))
  | .subquery sql =>
    inferInstanceAs (Decidable (Even (sql.toList.count '\'') ∧
      Placeholder.asked false sql.toList = 0))
  | .fragment sql args =>
    inferInstanceAs (Decidable (Even (sql.toList.count '\'') ∧
      Placeholder.asked false sql.toList = args))
  | .identifier _ | .value => .isTrue trivial

theorem Part.Closed.satisfies {p : Part} (h : p.Closed) :
    p.Satisfies Placeholder.Silent Placeholder.Settled := by
  cases p with
  | identifier name => trivial
  | value => trivial
  | column name => exact Placeholder.silent_of_not_mem h.1 h.2
  | subquery sql => exact ⟨h.2, Placeholder.quotedAfter_of_even h.1⟩
  | fragment sql args => exact ⟨h.2, Placeholder.quotedAfter_of_even h.1⟩

/-- The dialects fail on the same filters with the same error. Otherwise the arguments are
the same, up to the order of a page at their end. Short of a page, and where everything that
the caller wrote is closed, the numbered text is the text with question marks, numbered. -/
theorem Dialect.compile_agrees (filter : Filter) (lookup : Lookup) :
    (∃ e, ∀ d : Dialect, d.compile filter lookup = .error e) ∨
      ∃ (s t : Statement) (values : List Value),
        mysql.compile filter lookup = .ok s ∧ sqlite.compile filter lookup = .ok s ∧
        postgresql.compile filter lookup = .ok t ∧
        s.args = values ++ filter.limitValues ∧ t.args = values ++ filter.limitValues.reverse ∧
        filter.limitValues.length ≤ 2 ∧
        (filter.limitValues.length ≠ 2 → (∀ p ∈ filter.parts, p.Closed) →
          t.sql = Placeholder.number s.sql 0) := by
  unfold compile
  cases hselect : filter.select lookup with
  | error m => exact .inl ⟨m.toError, fun _ => rfl⟩
  | ok selection =>
    have hlimit := Filter.limitValues_of_select hselect
    refine .inr ⟨sqlite.assemble (selection.clause .sqlite),
      postgresql.assemble (selection.clause .postgresql),
      selection.predicatePieces.flatMap Piece.args, ?_, rfl, rfl, ?_, ?_, ?_, ?_⟩
    · have hclause : selection.clause .mysql = selection.clause .sqlite := by
        rw [Selection.clause, Selection.clause, RowLimit.pieces_mysql]
      simp only [assemble, hclause]
      rw [@render_congr mysql sqlite rfl]
    · rw [hlimit, assemble, Selection.clause, List.flatMap_append, RowLimit.args_pieces_sqlite]
    · rw [hlimit, assemble, Selection.clause, List.flatMap_append,
        RowLimit.args_pieces_postgresql]
    · rw [hlimit]
      exact selection.limit.length_values_le
    · intro hpage hclosed
      rw [hlimit] at hpage
      have hclause : selection.clause .postgresql = selection.clause .sqlite := by
        rw [Selection.clause, Selection.clause,
          RowLimit.pieces_of_length_ne_two hpage .postgresql .sqlite]
      have hpieces := Filter.satisfies_of_select Placeholder.textProperty_silent hselect
        fun p hp => (hclosed p hp).satisfies
      have hparts : ∀ q ∈ selection.clause .sqlite,
          q.Satisfies Placeholder.Silent Placeholder.Settled :=
        Selection.satisfies_clause Placeholder.textProperty_silent hpieces
      rw [assemble, hclause, Placeholder.number, ← String.toList_inj, String.toList_ofList]
      exact numberFrom_render hparts 0

/-- Fragments and subqueries with quoted question marks around a LIMIT of one value. -/
def Filter.quotedMarks : Filter :=
  .condition (.junction .and [(Condition.custom "a = ? OR b = 'it''s?'" [.bool true]).toOperand,
    (Condition.limit .null).toOperand, .raw "c <> '?'",
    (Condition.inSubquery true "d" "SELECT '?'").toOperand, .column "e"])

theorem Dialect.compile_agrees_quotedMarks :
    ∃ s t : Statement, sqlite.compile Filter.quotedMarks (fun _ => some .null) = .ok s ∧
      postgresql.compile Filter.quotedMarks (fun _ => some .null) = .ok t ∧
      Filter.quotedMarks.limitValues.length ≠ 2 ∧ (∀ p ∈ Filter.quotedMarks.parts, p.Closed) ∧
      t.sql = Placeholder.number s.sql 0 := by
  have hpage : Filter.quotedMarks.limitValues.length ≠ 2 := by decide
  have hclosed : ∀ p ∈ Filter.quotedMarks.parts, p.Closed := by decide
  rcases compile_agrees Filter.quotedMarks (fun _ => some .null) with
    ⟨e, h⟩ | ⟨s, t, values, -, hs, ht, -, -, -, h⟩
  · cases h .sqlite
  · exact ⟨s, t, hs, ht, hpage, hclosed, h hpage hclosed⟩

end RelMap
