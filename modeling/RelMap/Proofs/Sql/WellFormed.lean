-- SUMMARY: The filters that have SQL, described by their shape alone.
import RelMap.Proofs.Sql.Resolution
import RelMap.Sql.Render

/-!
# Well-formed filters

`ValidClause` and `Filter.WellFormed` describe the accepted conditions by their
shape. They speak of no predicate and no text. Main statement: `Dialect.compile`
succeeds on the well-formed filters, and calls every other filter malformed.
-/
namespace RelMap

/-! ## Shapes -/

/-- An operand that can stand as a clause. Slots that a kind does not use hold
anything. No rule admits a LIMIT or a bare value. -/
inductive ValidClause (lookup : Lookup) : Operand → Prop
  | column {name v} (found : lookup name = some v) : ValidClause lookup (.column name)
  | raw {sql} : ValidClause lookup (.raw sql)
  | junction {op left right args} (nonempty : args ≠ [])
    (each : ∀ o ∈ args, ValidClause lookup o) :
    ValidClause lookup (.node (.junction op) left right args)
  | not {o right args} (clause : ValidClause lookup o) :
    ValidClause lookup (.node .not (some o) right args)
  | compare {op name v args} :
    ValidClause lookup (.node (.compare op) (some (.column name)) (some (.value v)) args)
  | inList {negated name v args} :
    ValidClause lookup (.node (.inList negated) (some (.column name)) (some (.value v)) args)
  | between {negated name low high right} :
    ValidClause lookup
      (.node (.between negated) (some (.column name)) right [.value low, .value high])
  | inValues {negated name right} {vs : List Value} (nonempty : vs ≠ []) :
    ValidClause lookup (.node (.inValues negated) (some (.column name)) right (vs.map .value))
  | existence {negated subquery right args} :
    ValidClause lookup (.node (.existence negated) (some (.raw subquery)) right args)
  | inSubquery {negated name subquery args} :
    ValidClause lookup
      (.node (.inSubquery negated) (some (.column name)) (some (.raw subquery)) args)
  | custom {left right sql} {vs : List Value} :
    ValidClause lookup (.node .custom left right (.raw sql :: vs.map .value))

/-- At most two operands, all of them values. -/
def LimitArgs (args : List Operand) : Prop :=
  args.length ≤ 2 ∧ ∀ o ∈ args, ∃ v, o = .value v

/-- A filter that has SQL. A LIMIT is the whole condition, or the one LIMIT among
the clauses of a conjunction at the root, which needs no other clause then. -/
inductive Filter.WellFormed (lookup : Lookup) : Filter → Prop
  | none : Filter.WellFormed lookup .none
  | raw {clause args} : Filter.WellFormed lookup (.raw clause args)
  | limit {left right args} (values : LimitArgs args) :
    Filter.WellFormed lookup (.condition ⟨.limit, left, right, args⟩)
  | limited {left right limitLeft limitRight limitArgs before after} (values : LimitArgs limitArgs)
    (valid : ∀ o ∈ before ++ after, ValidClause lookup o) :
    Filter.WellFormed lookup
      (.condition ⟨.junction .and, left, right,
        before ++ .node .limit limitLeft limitRight limitArgs :: after⟩)
  | tree {c : Condition} (valid : ValidClause lookup c.toOperand) :
    Filter.WellFormed lookup (.condition c)

/-! ## Shapes and rules -/

variable {lookup : Lookup}

private theorem exists_clauses {args : List Operand} (h : ∀ o ∈ args, ∃ p, Resolves lookup o p) :
    ∃ clauses : List (Operand × Predicate),
      args = clauses.map Prod.fst ∧ ∀ c ∈ clauses, Resolves lookup c.1 c.2 := by
  induction args with
  | nil => exact ⟨[], rfl, by simp⟩
  | cons o args ih =>
    obtain ⟨p, hp⟩ := h o (by simp)
    obtain ⟨clauses, rfl, each⟩ := ih fun o ho => h o (by simp [ho])
    exact ⟨(o, p) :: clauses, rfl, by simpa [hp] using each⟩

private theorem ValidClause.exists_resolves {o : Operand} (h : ValidClause lookup o) :
    ∃ p, Resolves lookup o p := by
  induction h with
  | column found => exact ⟨_, .column found⟩
  | raw => exact ⟨_, .raw⟩
  | junction nonempty _ ih =>
    obtain ⟨clauses, rfl, each⟩ := exists_clauses ih
    exact ⟨_, .junction (fun hnil => nonempty (by simp [hnil])) each⟩
  | not _ ih =>
    obtain ⟨p, hp⟩ := ih
    exact ⟨_, .not hp⟩
  | compare => exact ⟨_, .compare⟩
  | inList => exact ⟨_, .inList⟩
  | between => exact ⟨_, .between⟩
  | @inValues _ _ _ vs nonempty =>
    cases vs with
    | nil => exact absurd rfl nonempty
    | cons v vs => exact ⟨_, .inValues⟩
  | existence => exact ⟨_, .existence⟩
  | inSubquery => exact ⟨_, .inSubquery⟩
  | custom => exact ⟨_, .custom⟩

private theorem Resolves.validClause {o : Operand} {p : Predicate} (h : Resolves lookup o p) :
    ValidClause lookup o := by
  induction h with
  | column found => exact .column found
  | raw => exact .raw
  | compare => exact .compare
  | inList => exact .inList
  | between => exact .between
  | existence => exact .existence
  | inSubquery => exact .inSubquery
  | inValues => exact .inValues (by simp)
  | custom => exact .custom
  | junction nonempty _ ih =>
    refine .junction (by simpa using nonempty) fun o ho => ?_
    obtain ⟨c, hc, rfl⟩ := List.mem_map.mp ho
    exact ih c hc
  | not _ ih => exact .not ih

/-- The shapes of clauses are those that read as predicates. -/
theorem validClause_iff {o : Operand} : ValidClause lookup o ↔ ∃ p, Resolves lookup o p :=
  ⟨fun h => h.exists_resolves, fun ⟨_, h⟩ => h.validClause⟩

theorem limitArgs_iff {args : List Operand} :
    LimitArgs args ↔ ∃ l : RowLimit, args = l.values.map .value := by
  constructor
  · rintro ⟨hlength, hvalues⟩
    match args, hlength with
    | [], _ => exact ⟨.none, rfl⟩
    | [o], _ =>
      obtain ⟨n, rfl⟩ := hvalues o (by simp)
      exact ⟨.count n, rfl⟩
    | [o, o'], _ =>
      obtain ⟨skipped, rfl⟩ := hvalues o (by simp)
      obtain ⟨n, rfl⟩ := hvalues o' (by simp)
      exact ⟨.page skipped n, rfl⟩
  · rintro ⟨l, rfl⟩
    cases l <;> simp [LimitArgs, RowLimit.values]

private theorem Filter.WellFormed.exists_selects {c : Condition}
    (h : Filter.WellFormed lookup (.condition c)) : ∃ s, Selects lookup c s := by
  cases h with
  | limit values =>
    obtain ⟨l, rfl⟩ := limitArgs_iff.mp values
    exact ⟨_, .limit l⟩
  | limited values valid =>
    obtain ⟨l, rfl⟩ := limitArgs_iff.mp values
    obtain ⟨clauses, hclauses, each⟩ := exists_clauses fun o ho => (valid o ho).exists_resolves
    obtain ⟨before, after, rfl, rfl, rfl⟩ := List.append_eq_map_iff.mp hclauses
    exact ⟨_, .limited l each⟩
  | tree valid =>
    obtain ⟨p, whole⟩ := valid.exists_resolves
    exact ⟨_, .unlimited whole⟩

private theorem Selects.wellFormed {c : Condition} {s : Selection} (h : Selects lookup c s) :
    Filter.WellFormed lookup (.condition c) := by
  cases h with
  | limit l => exact .limit (limitArgs_iff.mpr ⟨l, rfl⟩)
  | limited l each =>
    refine .limited (limitArgs_iff.mpr ⟨l, rfl⟩) fun o ho => ?_
    rw [← List.map_append] at ho
    obtain ⟨c, hc, rfl⟩ := List.mem_map.mp ho
    exact (each c hc).validClause
  | unlimited whole => exact .tree whole.validClause

theorem Filter.wellFormed_iff {filter : Filter} :
    filter.WellFormed lookup ↔ ∃ s, filter.select lookup = .ok s := by
  cases filter with
  | none => exact ⟨fun _ => ⟨_, rfl⟩, fun _ => .none⟩
  | raw clause args =>
    refine ⟨fun _ => ?_, fun _ => .raw⟩
    simp only [select]
    split
    · exact ⟨_, rfl⟩
    · exact ⟨_, rfl⟩
  | condition c =>
    simp only [select, Condition.select_eq_ok_iff]
    exact ⟨fun h => h.exists_selects, fun ⟨_, h⟩ => h.wellFormed⟩

/-! ## Compiling -/

/-- A filter compiles exactly if it is well-formed, and otherwise the error says
that its condition is malformed. -/
theorem Dialect.compile_ok_iff_wellFormed (d : Dialect) (filter : Filter) (lookup : Lookup) :
    ((∃ s, d.compile filter lookup = .ok s) ↔ filter.WellFormed lookup) ∧
      ((∃ e, d.compile filter lookup = .error e ∧ e.is .malformedCondition = true) ↔
        ¬ filter.WellFormed lookup) := by
  rw [Filter.wellFormed_iff]
  unfold compile
  cases filter.select lookup with
  | ok selection => simp
  | error m =>
    have hm : m.toError.is .malformedCondition = true := rfl
    simp [hm]

end RelMap
