-- SUMMARY: Conditions written with the constructors, and the values that they bind.
import RelMap.Proofs.Sql.Pieces
import RelMap.Proofs.Sql.Resolution
import RelMap.Sql.Render

/-!
# Formulas

A `Formula` is a condition as a caller writes it: a nest of constructor calls, with
any operands in junctions and negations. Its values are read off the calls, without
the node that a call makes. Main statement: a formula that compiles has exactly these
values as its arguments, in this order.
-/
namespace RelMap

/-! ## Constructor calls -/

mutual

/-- A call of one of the constructors of conditions. -/
inductive Formula where
  | compare (op : Comparison) (column : String) (v : Value)
  | inList (negated : Bool) (column : String) (values : List Value)
  | between (negated : Bool) (column : String) (low high : Value)
  | existence (negated : Bool) (subquery : String)
  | inSubquery (negated : Bool) (column subquery : String)
  | inValues (negated : Bool) (column : String) (values : List Value)
  | limit (count : Value)
  | limitOffset (offset count : Value)
  | custom (sql : String) (args : List Value)
  | junction (op : Junction) (terms : List Term)
  | negate (term : Term)

/-- What a caller passes to a junction or a negation. -/
inductive Term where
  | value (v : Value)
  | column (name : String)
  | raw (sql : String)
  | formula (f : Formula)

end

mutual

/-- The condition that a call makes. -/
def Formula.condition : Formula → Condition
  | .compare op column v => .compare op column v
  | .inList negated column values => .inList negated column values
  | .between negated column low high => .between negated column low high
  | .existence negated subquery => .existence negated subquery
  | .inSubquery negated column subquery => .inSubquery negated column subquery
  | .inValues negated column values => .inValues negated column values
  | .limit count => .limit count
  | .limitOffset offset count => .limitOffset offset count
  | .custom sql args => .custom sql args
  | .junction op terms => .junction op (Term.operands terms)
  | .negate term => .negate term.operand

def Term.operand : Term → Operand
  | .value v => .value v
  | .column name => .column name
  | .raw sql => .raw sql
  | .formula f => f.condition.toOperand

def Term.operands : List Term → List Operand
  | [] => []
  | t :: ts => t.operand :: Term.operands ts

end

/-! ## Bound values -/

mutual

/-- The values that a formula binds, left to right and depth first. A limit does not
bind its values in place. -/
def Formula.boundValues (lookup : Lookup) : Formula → List Value
  | .compare _ _ v => [v]
  | .inList _ _ values => [.list values]
  | .between _ _ low high => [low, high]
  | .existence _ _ => []
  | .inSubquery _ _ _ => []
  | .inValues _ _ values => values
  | .limit _ => []
  | .limitOffset _ _ => []
  | .custom _ args => args
  | .junction _ terms => Term.boundValuesOfAll lookup terms
  | .negate term => term.boundValues lookup

def Term.boundValues (lookup : Lookup) : Term → List Value
  | .value _ => []
  | .column name => (lookup name).toList
  | .raw _ => []
  | .formula f => f.boundValues lookup

def Term.boundValuesOfAll (lookup : Lookup) : List Term → List Value
  | [] => []
  | t :: ts => t.boundValues lookup ++ Term.boundValuesOfAll lookup ts

end

/-- The order in which a dialect takes the two values of a page. -/
def Dialect.page (d : Dialect) (offset count : Value) : List Value :=
  match d with
  | .postgresql => [count, offset]
  | .mysql | .sqlite => [offset, count]

/-- The values of a call of a limit. -/
def Formula.ownLimit (d : Dialect) : Formula → List Value
  | .limit count => [count]
  | .limitOffset offset count => d.page offset count
  | _ => []

def Term.ownLimit (d : Dialect) : Term → List Value
  | .formula f => f.ownLimit d
  | _ => []

/-- The values of the limit that is the whole formula, or that stands anywhere among
the terms of a conjunction at the root. -/
def Formula.limitValues (d : Dialect) : Formula → List Value
  | .junction .and terms => terms.flatMap (Term.ownLimit d)
  | f => f.ownLimit d

/-! ## Arguments of predicates -/

namespace Predicate

/-- The arguments of a predicate. -/
def args (p : Predicate) : List Value := p.pieces.flatMap Piece.args

theorem args_inValues (negated : Bool) (column : String) (values : List Value) :
    (inValues negated column values).args = values := by
  simp [args, pieces, Piece.args, args_list]

theorem args_fragment (sql : String) (args : List Value) : (fragment sql args).args = args := by
  simp [Predicate.args, pieces, Piece.args]

theorem args_junction (op : Junction) (clauses : List Predicate) :
    (junction op clauses).args = clauses.flatMap args := by
  rw [args, pieces, Piece.flatMap_separated rfl, piecesOf_eq_map, List.flatMap_map]
  rfl

theorem args_not (clause : Predicate) : (not clause).args = clause.args := by
  simp [args, pieces, Piece.args]

end Predicate

variable {lookup : Lookup}

mutual

/-- The predicate that a formula reads as has the values of the formula. -/
theorem Formula.args_of_resolves (f : Formula) {p : Predicate}
    (h : Resolves lookup f.condition.toOperand p) : p.args = f.boundValues lookup := by
  cases f with
  | compare op column v => cases h; rfl
  | inList negated column values => cases h; rfl
  | between negated column low high => cases h; rfl
  | existence negated subquery => cases h; rfl
  | inSubquery negated column subquery => cases h; rfl
  | inValues negated column values =>
    obtain ⟨name, vs, -, hargs, rfl⟩ := h.inValues_inv
    rw [Predicate.args_inValues, ← Operand.map_value_inj.mp hargs]
    rfl
  | limit count => cases h
  | limitOffset offset count => cases h
  | custom sql args =>
    obtain ⟨sql', vs, hargs, rfl⟩ := h.custom_inv
    rw [Predicate.args_fragment, ← Operand.map_value_inj.mp (List.cons.inj hargs).2]
    rfl
  | junction op terms =>
    obtain ⟨clauses, hterms, -, each, rfl⟩ := h.junction_inv
    rw [Predicate.args_junction]
    exact Term.args_of_clauses terms hterms each
  | negate term =>
    cases h with
    | not clause =>
      rw [Predicate.args_not]
      exact term.args_of_resolves clause

theorem Term.args_of_resolves (t : Term) {p : Predicate} (h : Resolves lookup t.operand p) :
    p.args = t.boundValues lookup := by
  cases t with
  | value v => cases h
  | column name =>
    cases h with
    | column found => rw [Term.boundValues, found]; rfl
  | raw sql => cases h; rfl
  | formula f => exact f.args_of_resolves h

theorem Term.args_of_clauses (ts : List Term) {clauses : List (Operand × Predicate)}
    (hterms : Term.operands ts = clauses.map Prod.fst)
    (each : ∀ c ∈ clauses, Resolves lookup c.1 c.2) :
    (clauses.map Prod.snd).flatMap Predicate.args = Term.boundValuesOfAll lookup ts := by
  cases ts with
  | nil =>
    obtain rfl := List.map_eq_nil_iff.mp hterms.symm
    rfl
  | cons t ts =>
    obtain ⟨c, clauses, rfl, ht, hts⟩ := List.map_eq_cons_iff.mp hterms.symm
    have hhead := t.args_of_resolves (ht ▸ each c (by simp))
    have htail := Term.args_of_clauses ts hts.symm fun c hc => each c (by simp [hc])
    simp only [List.map_cons, List.flatMap_cons, hhead, htail, Term.boundValuesOfAll]

end

/-! ## Arguments of limits -/

variable {d : Dialect}

/-- The arguments of a limit, in the order of a dialect. -/
def RowLimit.args (d : Dialect) : RowLimit → List Value
  | .none => []
  | .count n => [n]
  | .page skipped n => d.page skipped n

theorem RowLimit.args_pieces (d : Dialect) (lead : String) (l : RowLimit) :
    (l.pieces d lead).flatMap Piece.args = l.args d := by
  cases l with
  | none => rfl
  | count n => rfl
  | page skipped n => cases d <;> rfl

/-- A term that reads as a clause is no limit. -/
private theorem Term.ownLimit_of_resolves {t : Term} {p : Predicate}
    (h : Resolves lookup t.operand p) : t.ownLimit d = [] := by
  cases t with
  | formula f =>
    cases f with
    | limit count => cases h
    | limitOffset offset count => cases h
    | _ => rfl
  | _ => rfl

private theorem Term.ownLimit_of_limit {t : Term} {left right : Option Operand} {l : RowLimit}
    (h : t.operand = .node .limit left right (l.values.map .value)) :
    t.ownLimit d = l.args d := by
  cases t with
  | value v => cases h
  | column name => cases h
  | raw sql => cases h
  | formula f =>
    cases f with
    | limit count =>
      have hvalues : [count] = l.values := Operand.map_value_inj.mp (Operand.node.inj h).2.2.2
      cases l with
      | count n => cases hvalues; rfl
      | none => cases hvalues
      | page skipped n => cases hvalues
    | limitOffset offset count =>
      have hvalues : [offset, count] = l.values :=
        Operand.map_value_inj.mp (Operand.node.inj h).2.2.2
      cases l with
      | page skipped n => cases hvalues; rfl
      | none => cases hvalues
      | count n => cases hvalues
    | _ => cases h

private theorem Term.boundValues_of_limit {t : Term} {left right : Option Operand}
    {args : List Operand} (h : t.operand = .node .limit left right args) :
    t.boundValues lookup = [] := by
  cases t with
  | formula f =>
    cases f with
    | limit count => rfl
    | limitOffset offset count => rfl
    | _ => cases h
  | _ => cases h

private theorem Term.operands_eq_map (ts : List Term) : Term.operands ts = ts.map Term.operand := by
  induction ts with
  | nil => rfl
  | cons t ts ih => rw [Term.operands, ih, List.map_cons]

private theorem Term.boundValuesOfAll_eq_flatMap (ts : List Term) :
    Term.boundValuesOfAll lookup ts = ts.flatMap (Term.boundValues lookup) := by
  induction ts with
  | nil => rfl
  | cons t ts ih => rw [Term.boundValuesOfAll, ih, List.flatMap_cons]

private theorem Term.ownLimits_of_clauses {ts : List Term} {clauses : List (Operand × Predicate)}
    (hterms : Term.operands ts = clauses.map Prod.fst)
    (each : ∀ c ∈ clauses, Resolves lookup c.1 c.2) : ts.flatMap (Term.ownLimit d) = [] := by
  rw [List.flatMap_eq_nil_iff]
  intro t ht
  have hmem : t.operand ∈ clauses.map Prod.fst := by
    rw [← hterms, Term.operands_eq_map]
    exact List.mem_map_of_mem ht
  obtain ⟨c, hc, hfst⟩ := List.mem_map.mp hmem
  exact Term.ownLimit_of_resolves (hfst ▸ each c hc)

/-- The arguments of a selection's predicate. -/
def Selection.predicateArgs (s : Selection) : List Value := s.predicatePieces.flatMap Piece.args

theorem Selection.predicateArgs_conjunction? (clauses : List Predicate) (l : RowLimit) :
    predicateArgs ⟨Predicate.conjunction? clauses, l⟩ = clauses.flatMap Predicate.args := by
  cases clauses with
  | nil => rfl
  | cons p ps => exact Predicate.args_junction .and (p :: ps)

/-- Where a LIMIT stands among the terms of a conjunction, the other terms bind what
they bind without it. -/
private theorem Formula.args_of_limited {terms : List Term} {left right : Option Operand}
    {l : RowLimit} {before after : List (Operand × Predicate)}
    (each : ∀ c ∈ before ++ after, Resolves lookup c.1 c.2)
    (hterms : Term.operands terms = before.map Prod.fst ++
      .node .limit left right (l.values.map .value) :: after.map Prod.fst) :
    ((before ++ after).map Prod.snd).flatMap Predicate.args ++ l.args d =
      Term.boundValuesOfAll lookup terms ++ terms.flatMap (Term.ownLimit d) := by
  rw [Term.operands_eq_map] at hterms
  obtain ⟨front, rest, rfl, hfront, hrest⟩ := List.map_eq_append_iff.mp hterms
  obtain ⟨t, back, rfl, ht, hback⟩ := List.map_eq_cons_iff.mp hrest
  rw [← Term.operands_eq_map] at hfront hback
  have eachFront := fun c hc => each c (List.mem_append_left after hc)
  have eachBack := fun c hc => each c (List.mem_append_right before hc)
  have hbound : t.boundValues lookup = [] := Term.boundValues_of_limit ht
  simp only [List.map_append, List.flatMap_append, List.flatMap_cons,
    Term.args_of_clauses front hfront eachFront, Term.args_of_clauses back hback eachBack,
    Term.ownLimits_of_clauses hfront eachFront, Term.ownLimits_of_clauses hback eachBack,
    Term.ownLimit_of_limit ht, Term.boundValuesOfAll_eq_flatMap, hbound, List.nil_append,
    List.append_nil]

private theorem Formula.args_of_selects (f : Formula) {s : Selection}
    (h : Selects lookup f.condition s) :
    s.predicateArgs ++ s.limit.args d = f.boundValues lookup ++ f.limitValues d := by
  have unlimited {p : Predicate} (whole : Resolves lookup f.condition.toOperand p)
      (hlimit : f.limitValues d = []) :
      Selection.predicateArgs ⟨some p, .none⟩ ++ RowLimit.args d .none =
        f.boundValues lookup ++ f.limitValues d := by
    rw [← f.args_of_resolves whole, hlimit]
    rfl
  cases f with
  | limit count => cases Condition.select_eq_ok_iff.mpr h; rfl
  | limitOffset offset count => cases Condition.select_eq_ok_iff.mpr h; rfl
  | junction op terms =>
    cases op with
    | or => cases h with | unlimited whole => exact unlimited whole rfl
    | and =>
      obtain ⟨p, whole, rfl⟩ | ⟨_, _, l, before, after, hterms, each, rfl⟩ := h.conjunction_inv
      · obtain ⟨clauses, hclauses, -, each, -⟩ := whole.junction_inv
        exact unlimited whole (Term.ownLimits_of_clauses hclauses each)
      · rw [Selection.predicateArgs_conjunction?]
        exact Formula.args_of_limited each hterms
  | _ => cases h with | unlimited whole => exact unlimited whole rfl

/-- A formula that compiles binds its values in order, and those of its limit last. -/
theorem Formula.args_of_compile (d : Dialect) (lookup : Lookup) (f : Formula) {s : Statement}
    (h : d.compile (.condition f.condition) lookup = .ok s) :
    s.args = f.boundValues lookup ++ f.limitValues d := by
  unfold Dialect.compile at h
  split at h
  · next selection hselect =>
    cases h
    rw [← f.args_of_selects (Condition.select_eq_ok_iff.mp hselect), ← RowLimit.args_pieces]
    exact List.flatMap_append
  · cases h

/-- A page among the terms of a conjunction. -/
def Formula.paged : Formula :=
  .junction .and [.formula (.between false "age" (.string "low") (.string "high")),
    .formula (.limitOffset (.string "offset") (.string "count")),
    .formula (.negate (.formula (.custom "f(?, ?)" [.null, .bool true]))), .column "name"]

theorem Formula.args_of_compile_paged :
    ∃ s, Dialect.postgresql.compile (.condition paged.condition) (fun c => some (.string c)) =
        .ok s ∧
      s.args = [.string "low", .string "high", .null, .bool true, .string "name",
        .string "count", .string "offset"] :=
  ⟨_, rfl, args_of_compile .postgresql (fun c => some (.string c)) paged rfl⟩

end RelMap
