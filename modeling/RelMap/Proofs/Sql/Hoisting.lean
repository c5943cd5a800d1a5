-- SUMMARY: A limit among the clauses of a conjunction, wherever it stands.
import RelMap.Proofs.Sql.Texts
import RelMap.Proofs.Sql.WellFormed

/-!
# Limits of conjunctions

A limit among the clauses of a conjunction is checked behind the other clauses and written behind
them. Main statement: every statement is the same wherever the limit stands, the filter on its own
is the conjunction of the other clauses and then the limit, numbered behind their arguments, and a
conjunction of more than one limit is malformed.
-/
namespace RelMap

/-! ## Texts of limits -/

/-- What stands between the two values of a page. -/
def Dialect.pageSeparator : Dialect → String
  | .postgresql => " OFFSET "
  | .mysql | .sqlite => ", "

/-- The text of a limit behind `bound` arguments. -/
def RowLimit.text (d : Dialect) (bound : Nat) : RowLimit → String
  | .none => ""
  | .count _ => "LIMIT " ++ d.placeholder (bound + 1)
  | .page _ _ =>
    "LIMIT " ++ d.placeholder (bound + 1) ++ d.pageSeparator ++ d.placeholder (bound + 2)

/-- Two texts, with a blank between them if both show something. -/
def spaced (sql sql' : String) : String :=
  if sql = "" ∨ sql' = "" then sql ++ sql' else sql ++ " " ++ sql'

theorem spaced_eq (sql sql' : String) :
    spaced sql sql' =
      sql ++ if sql' = "" then "" else (if sql = "" then "" else " ") ++ sql' := by
  by_cases hsql : sql = "" <;> by_cases hsql' : sql' = "" <;>
    simp [spaced, hsql, hsql', String.append_assoc]

namespace RowLimit

theorem text_eq_empty_iff {d : Dialect} {bound : Nat} {l : RowLimit} :
    l.text d bound = "" ↔ l.values = [] := by
  cases l <;> simp [text, values]

theorem render_pieces_alone (d : Dialect) (bound : Nat) (l : RowLimit) :
    d.render bound (l.pieces d "") = l.text d bound := by
  cases l with
  | none => rfl
  | count n =>
    simp [pieces, text, Dialect.render, Dialect.renderPiece, Dialect.placeholder, Piece.args]
  | page skipped n =>
    cases d <;> simp [pieces, text, Dialect.render, Dialect.renderPiece, Dialect.placeholder,
      Dialect.pageSeparator, Piece.args, Dialect.numbersPlaceholders, String.append_assoc]

/-- A limit behind a lead is its text behind that lead, unless it has no text. -/
theorem render_pieces_lead (d : Dialect) (bound : Nat) (lead : String) (l : RowLimit) :
    d.render bound (l.pieces d lead) =
      if l.text d bound = "" then "" else lead ++ l.text d bound := by
  rw [render_pieces, render_pieces_alone]
  exact ite_congr (propext text_eq_empty_iff.symm) (fun _ => rfl) (fun _ => rfl)

end RowLimit

namespace Selection

variable (d : Dialect) (predicate : Option Predicate) (l : RowLimit)

theorem clause_unlimited : clause d ⟨predicate, .none⟩ = predicatePieces ⟨predicate, l⟩ :=
  List.append_nil _

/-- The blank before a limit depends on the pieces of the predicate, and so on its text. -/
theorem render_clause (s : Selection) :
    d.render 0 (s.clause d) = spaced (d.render 0 s.predicatePieces)
      (s.limit.text d (s.predicatePieces.flatMap Piece.args).length) := by
  rw [clause, Dialect.render_append, RowLimit.render_pieces_lead, Nat.zero_add, spaced_eq]
  simp only [Dialect.render_eq_empty_iff]

/-- On its own, a selection is its predicate and then its limit. -/
theorem assemble_clause :
    let own := d.assemble (clause d ⟨predicate, .none⟩)
    d.assemble (clause d ⟨predicate, l⟩) =
      ⟨spaced own.sql (l.text d own.args.length), own.args ++ l.args d⟩ := by
  have hbinds : (clause d ⟨predicate, l⟩).flatMap Piece.args =
      (predicatePieces ⟨predicate, l⟩).flatMap Piece.args ++ l.args d := by
    rw [clause, List.flatMap_append, RowLimit.args_pieces]
  rw [clause_unlimited d predicate l, Dialect.assemble, Dialect.assemble, render_clause, hbinds]

end Selection

/-! ## Checking conjunctions -/

/-- The conjunction of clauses. What stands in the other slots of its node does not matter. -/
def Filter.conjunction (left right : Option Operand) (clauses : List Operand) : Filter :=
  .condition ⟨.junction .and, left, right, clauses⟩

/-- Check the clauses of a conjunction, if there are any. -/
def Operand.resolveClauses (lookup : Lookup) : List Operand → Checked (Option Predicate)
  | [] => pure none
  | clauses => some <$> resolveConjunction lookup clauses

theorem RowLimit.length_among (clauses : List Operand) :
    (among clauses).length = clauses.countP (·.isLimit) := by
  induction clauses with
  | nil => rfl
  | cons o clauses ih =>
    cases ho : o.isLimit with
    | false => rw [among_cons_of_not_isLimit ho, ih, List.countP_cons_of_neg (by simp [ho])]
    | true =>
      obtain ⟨left, right, args, rfl⟩ := Operand.isLimit_iff.mp ho
      rw [among, List.length_cons, ih, List.countP_cons_of_pos ho]

namespace Filter

variable {lookup : Lookup} {left right limitLeft limitRight : Option Operand}
variable {before after clauses limitArgs : List Operand}

/-- The clauses around a limit are checked before it, wherever it stands. -/
theorem select_around_limit (hclauses : ∀ o ∈ before ++ after, o.isLimit = false) :
    (conjunction left right
        (before ++ [.node .limit limitLeft limitRight limitArgs] ++ after)).select lookup = do
      let predicate ← Operand.resolveClauses lookup (before ++ after)
      return ⟨predicate, ← RowLimit.resolve limitArgs⟩ := by
  obtain ⟨hbefore, hafter⟩ := List.forall_mem_append.mp hclauses
  have hbefore := RowLimit.among_eq_nil_iff.mpr hbefore
  have hafter := RowLimit.among_eq_nil_iff.mpr hafter
  simp only [conjunction, select, Condition.select, List.append_assoc, List.singleton_append,
    RowLimit.among_append, RowLimit.among, hbefore, hafter, List.nil_append,
    Condition.filter_around_limit hbefore hafter]
  cases before ++ after <;> rfl

theorem select_limit_last (hclauses : ∀ o ∈ clauses, o.isLimit = false) :
    (conjunction left right
        (clauses ++ [.node .limit limitLeft limitRight limitArgs])).select lookup = do
      let predicate ← Operand.resolveClauses lookup clauses
      return ⟨predicate, ← RowLimit.resolve limitArgs⟩ := by
  have hlast : ∀ o ∈ clauses ++ [], o.isLimit = false := by simpa using hclauses
  simpa only [List.append_nil] using
    @select_around_limit lookup left right limitLeft limitRight clauses [] limitArgs hlast

theorem select_unlimited (hclauses : ∀ o ∈ clauses, o.isLimit = false) (hne : clauses ≠ []) :
    (conjunction left right clauses).select lookup = do
      return ⟨← Operand.resolveClauses lookup clauses, .none⟩ := by
  simp only [conjunction, select, Condition.select, RowLimit.among_eq_nil_iff.mpr hclauses]
  cases clauses with
  | nil => exact absurd rfl hne
  | cons o clauses =>
    show _ = (some <$> Operand.resolveConjunction lookup (o :: clauses)) >>= _
    have hslots : Operand.resolve lookup (.node (.junction .and) left right (o :: clauses)) =
        Operand.resolveConjunction lookup (o :: clauses) := by
      rw [Operand.resolveConjunction, Operand.resolve, Operand.resolve]
    rw [Condition.toOperand, hslots]
    cases Operand.resolveConjunction lookup (o :: clauses) <;> rfl

/-- A limit is checked behind the conjunction of the clauses around it. -/
theorem select_limited (hclauses : ∀ o ∈ before ++ after, o.isLimit = false)
    (hne : before ++ after ≠ []) :
    (conjunction left right
        (before ++ [.node .limit limitLeft limitRight limitArgs] ++ after)).select lookup = do
      let rest ← (conjunction left right (before ++ after)).select lookup
      return ⟨rest.predicate, ← RowLimit.resolve limitArgs⟩ := by
  rw [select_around_limit hclauses, select_unlimited hclauses hne]
  cases Operand.resolveClauses lookup (before ++ after) <;> rfl

theorem ne_nil_of_select {s : Selection}
    (h : (conjunction left right clauses).select lookup = .ok s) : clauses ≠ [] := by
  rintro rfl
  have hnone : (conjunction left right []).select lookup = .error (.noClauses .and) := rfl
  rw [hnone] at h
  cases h

/-- The operands of a well-formed limit are the values of one. -/
theorem exists_limit
    (h : (Filter.condition ⟨.limit, limitLeft, limitRight, limitArgs⟩).WellFormed lookup) :
    ∃ l : RowLimit, limitArgs = l.values.map .value := by
  cases h with
  | limit values => exact limitArgs_iff.mp values
  | tree valid => cases valid

theorem select_two_limits (htwo : 2 ≤ clauses.countP (·.isLimit)) :
    (conjunction left right clauses).select lookup = .error .twoLimits := by
  rw [← RowLimit.length_among] at htwo
  simp only [conjunction, select, Condition.select]
  split
  · next hnone => simp [hnone] at htwo
  · next hone => simp [hone] at htwo
  · rfl

end Filter

/-! ## Statements -/

namespace Dialect

/-- All statements are the same with the one filter as with the other. -/
structure RendersAlike (d : Dialect) (lookup : Lookup) (f g : Filter) : Prop where
  compile : d.compile f lookup = d.compile g lookup
  select : ∀ table columns, d.select table columns f lookup = d.select table columns g lookup
  update : ∀ table assignments,
    d.update table assignments f lookup = d.update table assignments g lookup
  delete : ∀ table, d.delete table f lookup = d.delete table g lookup
  count : ∀ table, d.count table f lookup = d.count table g lookup

/-- All statements fail with the error of the filter. One that has nothing to name fails with that
before the filter is looked at. -/
structure Refuses (d : Dialect) (lookup : Lookup) (f : Filter) (e : Error) : Prop where
  compile : d.compile f lookup = .error e
  select : ∀ table columns, d.select table columns f lookup =
    .error (if columns = [] then noColumns "SELECT from" table "column" else e)
  update : ∀ table assignments, d.update table assignments f lookup =
    .error (if assignments = [] then noColumns "UPDATE of" table "assignment" else e)
  delete : ∀ table, d.delete table f lookup = .error e
  count : ∀ table, d.count table f lookup = .error e

variable {d : Dialect} {lookup : Lookup} {f g : Filter}

theorem rendersAlike_of_select (h : f.select lookup = g.select lookup) :
    d.RendersAlike lookup f g := by
  have htail (head : List Piece) : d.withFilter head f lookup = d.withFilter head g lookup := by
    rw [withFilter, withFilter, h]
  exact {
    compile := by rw [Dialect.compile, Dialect.compile, h]
    select := fun table columns => by rw [Dialect.select, Dialect.select, htail]
    update := fun table assignments => by rw [Dialect.update, Dialect.update, htail]
    delete := fun table => htail _
    count := fun table => htail _ }

theorem refuses_of_select {m : Malformed} (h : f.select lookup = .error m) :
    d.Refuses lookup f m.toError := by
  have htail (head : List Piece) : d.withFilter head f lookup = .error m.toError := by
    rw [withFilter, h]
  exact {
    compile := by rw [Dialect.compile, h]
    select := fun table columns => by
      rw [Dialect.select, htail]
      cases columns <;> rfl
    update := fun table assignments => by
      rw [Dialect.update, htail]
      cases assignments <;> rfl
    delete := fun table => htail _
    count := fun table => htail _ }

theorem compile_of_select {s : Selection} (h : f.select lookup = .ok s) :
    d.compile f lookup = .ok (d.assemble (s.clause d)) := by
  rw [Dialect.compile, h]

/-- A filter that a limit is added to keeps its text and its arguments, and the limit comes behind
them. -/
theorem compile_limited {left right limitLeft limitRight : Option Operand}
    {before after : List Operand} {l : RowLimit} {own : Statement}
    (hclauses : ∀ o ∈ before ++ after, o.isLimit = false) (hne : before ++ after ≠ [])
    (hown : d.compile (.conjunction left right (before ++ after)) lookup = .ok own) :
    d.compile (.conjunction left right
        (before ++ [.node .limit limitLeft limitRight (l.values.map .value)] ++ after)) lookup =
      .ok ⟨spaced own.sql (l.text d own.args.length), own.args ++ l.args d⟩ := by
  have hlimit : RowLimit.resolve (l.values.map .value) = .ok l := RowLimit.resolve_eq_ok_iff.mpr rfl
  unfold compile at hown
  rw [Filter.select_unlimited hclauses hne] at hown
  rw [compile, Filter.select_limited hclauses hne, Filter.select_unlimited hclauses hne, hlimit]
  cases hresolve : Operand.resolveClauses lookup (before ++ after) with
  | error m => rw [hresolve] at hown; cases hown
  | ok predicate =>
    rw [hresolve] at hown
    cases hown
    exact congrArg Except.ok (Selection.assemble_clause d predicate l)

/-- A limit that is the whole filter is its text and its arguments. -/
theorem compile_limit (d : Dialect) (lookup : Lookup) (left right : Option Operand)
    (l : RowLimit) :
    d.compile (.condition ⟨.limit, left, right, l.values.map .value⟩) lookup =
      .ok ⟨l.text d 0, l.args d⟩ := by
  have hselect : Condition.select lookup ⟨.limit, left, right, l.values.map .value⟩ =
      .ok ⟨none, l⟩ := Condition.select_eq_ok_iff.mpr (.limit l)
  rw [compile, Filter.select, hselect]
  refine congrArg Except.ok ((Selection.assemble_clause d none l).trans ?_)
  simp [Selection.clause, Selection.predicatePieces, RowLimit.pieces, assemble, render, spaced]

/-- The place of a limit among the clauses of a conjunction does not matter: all statements are the
same as with the limit in the last place. Where the other clauses and the limit are well-formed, the
filter on its own is the conjunction of the other clauses and then the limit, with a blank between
them if both show something, and with the values of the limit behind the other arguments and
numbered behind them. With more limits than one, the filter is malformed, and every statement that
has something to name fails with that. -/
theorem limit_stands_anywhere (d : Dialect) (lookup : Lookup) (left right : Option Operand) :
    (∀ (before after limitArgs : List Operand) (limitLeft limitRight : Option Operand),
      (∀ o ∈ before ++ after, o.isLimit = false) →
      let limit := Operand.node .limit limitLeft limitRight limitArgs
      let limited := Filter.conjunction left right (before ++ [limit] ++ after)
      let rest := Filter.conjunction left right (before ++ after)
      d.RendersAlike lookup limited (.conjunction left right (before ++ after ++ [limit])) ∧
        (rest.WellFormed lookup →
          (Filter.condition ⟨.limit, limitLeft, limitRight, limitArgs⟩).WellFormed lookup →
          ∃ (own : Statement) (l : RowLimit),
            limitArgs = l.values.map .value ∧ d.compile rest lookup = .ok own ∧
            d.compile (.condition ⟨.limit, limitLeft, limitRight, limitArgs⟩) lookup =
              .ok ⟨l.text d 0, l.args d⟩ ∧
            d.compile limited lookup =
              .ok ⟨spaced own.sql (l.text d own.args.length), own.args ++ l.args d⟩)) ∧
      ∀ clauses : List Operand, 2 ≤ clauses.countP (·.isLimit) →
        ∃ e : Error, e.is .malformedCondition = true ∧
          d.Refuses lookup (.conjunction left right clauses) e := by
  refine ⟨fun before after limitArgs limitLeft limitRight hclauses => ⟨?_, ?_⟩,
    fun clauses htwo => ⟨Malformed.twoLimits.toError, rfl, ?_⟩⟩
  · apply rendersAlike_of_select
    rw [Filter.select_around_limit hclauses, Filter.select_limit_last hclauses]
  · intro hrest hlimit
    obtain ⟨l, rfl⟩ := Filter.exists_limit hlimit
    obtain ⟨s, hs⟩ := Filter.wellFormed_iff.mp hrest
    have hown := compile_of_select (d := d) hs
    exact ⟨d.assemble (s.clause d), l, rfl, hown, d.compile_limit lookup limitLeft limitRight l,
      compile_limited hclauses (Filter.ne_nil_of_select hs) hown⟩
  · exact refuses_of_select (Filter.select_two_limits htwo)

/-- A page between two clauses, and two limits around one. -/
theorem limit_stands_anywhere_page :
    let limit := (Condition.limitOffset (.string "offset") (.string "count")).toOperand
    let clause := (Condition.compare .eq "a" .null).toOperand
    let lookup : Lookup := fun name => some (.string name)
    (∀ o ∈ [clause] ++ [.column "b"], o.isLimit = false) ∧
      (Filter.conjunction none none ([clause] ++ [.column "b"])).WellFormed lookup ∧
      (Filter.condition (.limitOffset (.string "offset") (.string "count"))).WellFormed lookup ∧
      postgresql.compile (.conjunction none none ([clause] ++ [limit] ++ [.column "b"])) lookup =
        .ok ⟨"a = $1 AND b = $2 LIMIT $3 OFFSET $4",
          [.null, .string "b", .string "count", .string "offset"]⟩ ∧
      2 ≤ [limit, clause, limit].countP (·.isLimit) ∧
      ∃ e : Error, e.is .malformedCondition = true ∧
        postgresql.Refuses lookup (.conjunction none none [limit, clause, limit]) e := by
  intro limit clause lookup
  have hclauses : ∀ o ∈ [clause] ++ [.column "b"], o.isLimit = false := by
    simp [clause, Condition.toOperand, Condition.compare, Operand.isLimit]
  have hrest : (Filter.conjunction none none ([clause] ++ [.column "b"])).WellFormed lookup :=
    Filter.wellFormed_iff.mpr ⟨_, rfl⟩
  have hlimit : (Filter.condition (.limitOffset (.string "offset") (.string "count"))).WellFormed
      lookup := Filter.wellFormed_iff.mpr ⟨_, rfl⟩
  have htwo : 2 ≤ [limit, clause, limit].countP (·.isLimit) := Nat.le_refl 2
  obtain ⟨hplaces, hrefused⟩ := postgresql.limit_stands_anywhere lookup none none
  obtain ⟨-, hcompile⟩ := hplaces [clause] [.column "b"] _ none none hclauses
  obtain ⟨own, l, hvalues, hown, -, hlimited⟩ := hcompile hrest hlimit
  have hl : [.string "offset", .string "count"] = l.values := Operand.map_value_inj.mp hvalues
  have halone : postgresql.compile (.conjunction none none ([clause] ++ [.column "b"])) lookup =
      .ok ⟨"a = $1 AND b = $2", [.null, .string "b"]⟩ := rfl
  cases hown.symm.trans halone
  cases l with
  | page skipped n =>
    cases hl
    exact ⟨hclauses, hrest, hlimit, hlimited, htwo, hrefused _ htwo⟩
  | none => cases hl
  | count n => cases hl

/-- A SELECT of nothing fails with that, although its filter has two limits; and a limit without
values is well-formed, but no blank stands before it. -/
theorem limit_exceptions :
    let limit := (Condition.limit .null).toOperand
    let clause := (Condition.compare .eq "a" .null).toOperand
    let lookup : Lookup := fun _ => none
    (∃ e, sqlite.select "t" [] (.conjunction none none [limit, limit]) lookup = .error e ∧
        e.is .malformedCondition = false) ∧
      ∃ own alone both : Statement,
        sqlite.compile (.conjunction none none [clause]) lookup = .ok own ∧
        sqlite.compile (.condition { kind := .limit }) lookup = .ok alone ∧
        sqlite.compile (.conjunction none none [clause, .node .limit none none []]) lookup =
          .ok both ∧
        own.sql ≠ "" ∧ both.sql ≠ own.sql ++ " " ++ alone.sql :=
  ⟨⟨_, rfl, rfl⟩, _, _, _, rfl, rfl, rfl, by decide, by decide⟩

end Dialect

end RelMap
