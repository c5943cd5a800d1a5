-- SUMMARY: How many arguments a filter binds, against how many values it holds.
import RelMap.Proofs.Sql.Attachment

/-!
# Counting arguments

`Filter.valueCount` counts the values of a filter before it is checked, in every slot of every
node. What is rendered binds those of them that stand where the kind of their node looks;
`idleCount` counts the others. Main statement: a statement binds at most as many arguments as were
counted, and exactly as many if its condition is written with the constructors.
-/
namespace RelMap

/-! ## Values that are not read -/

mutual

/-- How many of the values that `Operand.valueCount` counts stand in slots that no kind reads. -/
def Operand.idleCount : Operand → Nat
  | .node (.junction _) left right args =>
    valueCountOption true left + valueCountOption true right + idleCountList args
  | .node .not left right args =>
    idleCountOption left + valueCountOption true right + valueCountList true args
  | .node (.compare _) _ _ args => valueCountList false args
  | .node (.inList _) _ _ args => valueCountList false args
  | .node (.inSubquery _) _ _ args => valueCountList false args
  | .node (.between _) _ right _ => valueCountOption false right
  | .node (.inValues _) _ right _ => valueCountOption false right
  | .node (.existence _) _ right args => valueCountOption false right + valueCountList false args
  | .node .custom left right _ => valueCountOption false left + valueCountOption false right
  | .node .limit left right _ => valueCountOption false left + valueCountOption false right
  | _ => 0

def Operand.idleCountOption : Option Operand → Nat
  | none => 0
  | some o => o.idleCount

def Operand.idleCountList : List Operand → Nat
  | [] => 0
  | o :: os => o.idleCount + idleCountList os

end

/-- How many of the counted values of a filter are not read. A blank clause reads none. -/
def Filter.idleCount : Filter → Nat
  | .none => 0
  | .condition c => c.toOperand.idleCount
  | .raw clause args => if isBlank clause then args.length else 0

namespace Operand

theorem valueCountList_append (clause : Bool) (os os' : List Operand) :
    valueCountList clause (os ++ os') = valueCountList clause os + valueCountList clause os' := by
  induction os with
  | nil => exact (Nat.zero_add _).symm
  | cons o os ih => rw [List.cons_append, valueCountList, ih, valueCountList, Nat.add_assoc]

theorem idleCountList_append (os os' : List Operand) :
    idleCountList (os ++ os') = idleCountList os + idleCountList os' := by
  induction os with
  | nil => exact (Nat.zero_add _).symm
  | cons o os ih => rw [List.cons_append, idleCountList, ih, idleCountList, Nat.add_assoc]

@[simp] theorem valueCountList_map_value (clause : Bool) (vs : List Value) :
    valueCountList clause (vs.map .value) = vs.length := by
  induction vs with
  | nil => rfl
  | cons v vs ih => simp only [List.map_cons, valueCountList, valueCount, ih, List.length_cons]; omega

end Operand

/-! ## Arguments of clauses -/

variable {lookup : Lookup}

/-- Clauses that bind what is counted of them do so together. -/
theorem length_args_of_clauses {clauses : List (Operand × Predicate)}
    (each : ∀ c ∈ clauses, c.2.args.length + c.1.idleCount = c.1.valueCount true) :
    ((clauses.map Prod.snd).flatMap Predicate.args).length +
        Operand.idleCountList (clauses.map Prod.fst) =
      Operand.valueCountList true (clauses.map Prod.fst) := by
  induction clauses with
  | nil => rfl
  | cons c clauses ih =>
    have hhead := each c (by simp)
    have htail := ih fun c hc => each c (by simp [hc])
    simp only [List.map_cons, List.flatMap_cons, List.length_append, Operand.idleCountList,
      Operand.valueCountList]
    omega

/-- A clause binds the values that are counted of it, but for the idle ones. -/
theorem Resolves.length_args {o : Operand} {p : Predicate} (h : Resolves lookup o p) :
    p.args.length + o.idleCount = o.valueCount true := by
  induction h with
  | column found => rfl
  | raw => rfl
  | @compare op name v args =>
    show 1 + Operand.valueCountList false args = 0 + 1 + Operand.valueCountList false args
    omega
  | @inList negated name v args =>
    show 1 + Operand.valueCountList false args = 0 + 1 + Operand.valueCountList false args
    omega
  | @between negated name low high right =>
    show 2 + Operand.valueCountOption false right =
      0 + Operand.valueCountOption false right + (1 + (1 + 0))
    omega
  | @existence negated subquery right args =>
    show 0 + (Operand.valueCountOption false right + Operand.valueCountList false args) =
      0 + Operand.valueCountOption false right + Operand.valueCountList false args
    omega
  | inSubquery => rfl
  | @inValues negated name v vs right =>
    rw [Predicate.args_inValues]
    show (v :: vs).length + Operand.valueCountOption false right =
      0 + Operand.valueCountOption false right +
        Operand.valueCountList false ((v :: vs).map .value)
    rw [Operand.valueCountList_map_value]
    omega
  | @custom sql vs left right =>
    rw [Predicate.args_fragment]
    show vs.length +
        (Operand.valueCountOption false left + Operand.valueCountOption false right) =
      Operand.valueCountOption false left + Operand.valueCountOption false right +
        (0 + Operand.valueCountList false (vs.map .value))
    rw [Operand.valueCountList_map_value]
    omega
  | @junction op left right clauses nonempty each ih =>
    rw [Predicate.args_junction]
    have hclauses := length_args_of_clauses ih
    show _ + (Operand.valueCountOption true left + Operand.valueCountOption true right +
        Operand.idleCountList (clauses.map Prod.fst)) =
      Operand.valueCountOption true left + Operand.valueCountOption true right +
        Operand.valueCountList true (clauses.map Prod.fst)
    omega
  | @not o p right args clause ih =>
    rw [Predicate.args_not]
    show p.args.length + (o.idleCount + Operand.valueCountOption true right +
        Operand.valueCountList true args) =
      o.valueCount true + Operand.valueCountOption true right + Operand.valueCountList true args
    omega

/-! ## Arguments of filters -/

theorem RowLimit.length_args (d : Dialect) (l : RowLimit) :
    (l.args d).length = l.values.length := by
  cases l with
  | none => rfl
  | count n => rfl
  | page skipped n => cases d <;> rfl

/-- The arguments of a selection are those of its predicate and its limit. -/
theorem Selection.length_args_clause (d : Dialect) (s : Selection) :
    ((s.clause d).flatMap Piece.args).length =
      s.predicateArgs.length + s.limit.values.length := by
  rw [clause, List.flatMap_append, RowLimit.args_pieces, List.length_append, RowLimit.length_args]
  rfl

theorem Selection.predicateArgs_some (p : Predicate) (l : RowLimit) :
    predicateArgs ⟨some p, l⟩ = p.args := rfl

/-- A condition that is a whole filter binds the values that are counted of it, but for the idle
ones. -/
theorem Selects.length_args {c : Condition} {s : Selection} (h : Selects lookup c s) :
    s.predicateArgs.length + s.limit.values.length + c.toOperand.idleCount = c.valueCount := by
  cases h with
  | @limit left right l =>
    show 0 + l.values.length +
        (Operand.valueCountOption false left + Operand.valueCountOption false right) =
      Operand.valueCountOption false left + Operand.valueCountOption false right +
        Operand.valueCountList false (l.values.map .value)
    rw [Operand.valueCountList_map_value]
    omega
  | @limited left right limitLeft limitRight l before after each =>
    have hclauses := length_args_of_clauses fun c hc => (each c hc).length_args
    rw [Selection.predicateArgs_conjunction?]
    simp only [List.map_append, Operand.valueCountList_append, Operand.idleCountList_append]
      at hclauses
    show _ + l.values.length +
        (Operand.valueCountOption true left + Operand.valueCountOption true right +
          Operand.idleCountList (before.map Prod.fst ++
            .node .limit limitLeft limitRight (l.values.map .value) :: after.map Prod.fst)) =
      Operand.valueCountOption true left + Operand.valueCountOption true right +
        Operand.valueCountList true (before.map Prod.fst ++
            .node .limit limitLeft limitRight (l.values.map .value) :: after.map Prod.fst)
    simp only [List.map_append, Operand.valueCountList_append, Operand.idleCountList_append,
      Operand.valueCountList, Operand.idleCountList, Operand.valueCount, Operand.idleCount,
      ConditionKind.takesClauses, Operand.valueCountList_map_value]
    omega
  | unlimited whole => exact whole.length_args

theorem Filter.length_args {filter : Filter} {s : Selection}
    (h : filter.select lookup = .ok s) :
    s.predicateArgs.length + s.limit.values.length + filter.idleCount = filter.valueCount := by
  cases filter with
  | none => cases h; rfl
  | condition c => exact (Condition.select_eq_ok_iff.mp h).length_args
  | raw clause args =>
    simp only [select] at h
    rw [idleCount, valueCount]
    split at h
    · next hblank =>
      cases h
      rw [if_pos hblank]
      exact Nat.zero_add _
    · next hblank =>
      cases h
      rw [if_neg hblank, Selection.predicateArgs_some, Predicate.args_fragment]
      rfl

/-- A statement binds the values that it assigns and those that are counted of its filter, but for
the idle ones. -/
theorem Request.length_args {d : Dialect} {r : Request} {s : Statement}
    (h : r.render d lookup = .ok s) :
    s.args.length + r.filter.idleCount = r.assignments.length + r.filter.valueCount := by
  obtain ⟨selection, hselect, rfl⟩ := render_eq_ok h
  have htail : (r.tail d selection).flatMap Piece.args =
      (selection.clause d).flatMap Piece.args := by
    cases r with
    | compile filter => rfl
    | _ => exact selection.args_tail d
  have hfilter := Filter.length_args hselect
  simp only [Dialect.assemble, List.flatMap_append, List.length_append, args_head, htail,
    List.length_map, Selection.length_args_clause]
  omega

/-! ## Constructor calls -/

mutual

/-- Constructors fill no slot that the kind does not read. -/
theorem Formula.idleCount_eq_zero (f : Formula) : f.condition.toOperand.idleCount = 0 := by
  cases f with
  | junction op terms =>
    show 0 + 0 + Operand.idleCountList (Term.operands terms) = 0
    rw [Term.idleCountList_eq_zero terms]
  | negate term =>
    show term.operand.idleCount + 0 + 0 = 0
    rw [term.idleCount_eq_zero]
  | _ => rfl

theorem Term.idleCount_eq_zero (t : Term) : t.operand.idleCount = 0 := by
  cases t with
  | formula f => exact f.idleCount_eq_zero
  | _ => rfl

theorem Term.idleCountList_eq_zero (ts : List Term) :
    Operand.idleCountList (Term.operands ts) = 0 := by
  cases ts with
  | nil => rfl
  | cons t ts =>
    rw [Term.operands, Operand.idleCountList, t.idleCount_eq_zero, Term.idleCountList_eq_zero ts]

end

/-- As many arguments as are counted are enough. A statement binds at most one for each assignment
and for each value that is counted of its filter. A condition that is written with the constructors
binds exactly as many as are counted of it. -/
theorem Dialect.args_fit (d : Dialect) (lookup : Lookup) :
    (∀ (r : Request) (s : Statement), r.render d lookup = .ok s →
      s.args.length ≤ r.assignments.length + r.filter.valueCount) ∧
      ∀ (f : Formula) (s : Statement), d.compile (.condition f.condition) lookup = .ok s →
        s.args.length = f.condition.valueCount := by
  constructor
  · intro r s h
    have hargs := Request.length_args h
    omega
  · intro f s h
    have hargs := Request.length_args (r := .compile (.condition f.condition)) h
    have hidle : (Filter.condition f.condition).idleCount = 0 := f.idleCount_eq_zero
    have hnone : (Request.compile (.condition f.condition)).assignments.length = 0 := rfl
    rw [hnone, Request.filter, hidle, Nat.zero_add, Nat.add_zero] at hargs
    exact hargs

/-- A comparison with values in slots that comparisons do not read. -/
def Condition.crowded : Condition :=
  { kind := .compare .eq, left := some (.column "a"), right := some (.value .null)
    args := [.value .null, .node .not none (some (.column "b")) []] }

theorem Dialect.args_fit_crowded :
    (∃ s, mysql.update "t" [("a", .null)] (.condition .crowded) (fun _ => none) = .ok s ∧
      s.args.length = 2 ∧ s.args.length ≤ 1 + Condition.crowded.valueCount ∧
      Condition.crowded.valueCount = 3) ∧
      ∃ s, postgresql.compile (.condition Formula.paged.condition) (fun c => some (.string c)) =
        .ok s ∧ s.args.length = Formula.paged.condition.valueCount := by
  refine ⟨⟨_, rfl, rfl, ?_, rfl⟩, _, rfl, ?_⟩
  · exact (mysql.args_fit (fun _ => none)).1
      (.update "t" [("a", .null)] (.condition .crowded)) _ rfl
  · exact (postgresql.args_fit fun c => some (.string c)).2 Formula.paged _ rfl

end RelMap
