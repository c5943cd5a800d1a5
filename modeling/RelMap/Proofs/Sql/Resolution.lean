-- SUMMARY: What the checks of operands, conditions, and filters accept, as relations.
import RelMap.Sql.Selection

/-!
# Resolution as a relation

`Resolves` says which predicate a clause reads as, `Selects` which selection a
condition reads as, one rule for each shape. Slots that a kind does not use hold
anything. Main statements: checking succeeds with exactly what the rules give.
-/
namespace RelMap

theorem Checked.bind_eq_ok {x : Checked α} {f : α → Checked β} {b : β} :
    x >>= f = .ok b ↔ ∃ a, x = .ok a ∧ f a = .ok b := by
  cases x <;> simp [bind, Except.bind]

theorem Checked.pure_eq_ok {a b : α} : (pure a : Checked α) = .ok b ↔ a = b := by
  simp [pure, Except.pure]

theorem Checked.map_eq_ok {x : Checked α} {f : α → β} {b : β} :
    f <$> x = .ok b ↔ ∃ a, x = .ok a ∧ f a = b := by
  cases x <;> simp [Functor.map, Except.map]

/-! ## Slots -/

namespace Operand

theorem column?_eq_some {o : Operand} {name : String} :
    o.column? = some name ↔ o = .column name := by
  cases o <;> simp [column?]

theorem value?_eq_some {o : Operand} {v : Value} : o.value? = some v ↔ o = .value v := by
  cases o <;> simp [value?]

theorem raw?_eq_some {o : Operand} {sql : String} : o.raw? = some sql ↔ o = .raw sql := by
  cases o <;> simp [raw?]

theorem map_value_inj {vs ws : List Value} : vs.map value = ws.map value ↔ vs = ws :=
  List.map_inj_right fun _ _ h => Operand.value.inj h

theorem isLimit_iff {o : Operand} :
    o.isLimit = true ↔ ∃ left right args, o = .node .limit left right args := by
  unfold isLimit
  split
  · simp
  · next hne => simpa using hne

theorem bind_raw?_eq_some {slot : Option Operand} {sql : String} :
    slot.bind raw? = some sql ↔ slot = some (.raw sql) := by
  simp [Option.bind_eq_some_iff, raw?_eq_some]

theorem leftColumn_eq_ok {kind : ConditionKind} {left : Option Operand} {name : String} :
    leftColumn kind left = .ok name ↔ left = some (.column name) := by
  have h : left.bind column? = some name ↔ left = some (.column name) := by
    simp [Option.bind_eq_some_iff, column?_eq_some]
  rw [← h, leftColumn]
  cases left.bind column? <;> simp

theorem rightValue_eq_ok {kind : ConditionKind} {right : Option Operand} {v : Value} :
    rightValue kind right = .ok v ↔ right = some (.value v) := by
  have h : right.bind value? = some v ↔ right = some (.value v) := by
    simp [Option.bind_eq_some_iff, value?_eq_some]
  rw [← h, rightValue]
  cases right.bind value? <;> simp

theorem mapM_value?_eq_some {args : List Operand} {vs : List Value} :
    args.mapM value? = some vs ↔ args = vs.map .value := by
  induction args generalizing vs with
  | nil => cases vs <;> simp
  | cons o os ih =>
    cases vs with
    | nil => simp [Option.bind_eq_some_iff]
    | cons v vs =>
      simp only [List.mapM_cons, Option.bind_eq_bind, Option.bind_eq_some_iff, value?_eq_some, ih,
        Option.pure_def, Option.some.injEq, List.map_cons, List.cons.injEq]
      constructor
      · rintro ⟨_, rfl, _, rfl, rfl, rfl⟩
        exact ⟨rfl, rfl⟩
      · rintro ⟨rfl, rfl⟩
        exact ⟨v, rfl, vs, rfl, rfl, rfl⟩

theorem argValues_eq_ok {kind : ConditionKind} {args : List Operand} {vs : List Value} :
    argValues kind args = .ok vs ↔ args = vs.map .value := by
  rw [← mapM_value?_eq_some, argValues]
  cases args.mapM value? <;> simp

end Operand

/-! ## Clauses -/

/-- The predicate that an operand reads as where it stands as a clause. A LIMIT
never reads as one, and neither does a bare value. -/
inductive Resolves (lookup : Lookup) : Operand → Predicate → Prop
  | column {name v} (found : lookup name = some v) :
    Resolves lookup (.column name) (.compare name .eq v)
  | raw {sql} : Resolves lookup (.raw sql) (.fragment sql [])
  | compare {op name v args} :
    Resolves lookup (.node (.compare op) (some (.column name)) (some (.value v)) args)
      (.compare name op v)
  | inList {negated name v args} :
    Resolves lookup (.node (.inList negated) (some (.column name)) (some (.value v)) args)
      (.inList negated name v)
  | between {negated name low high right} :
    Resolves lookup
      (.node (.between negated) (some (.column name)) right [.value low, .value high])
      (.between negated name low high)
  | existence {negated subquery right args} :
    Resolves lookup (.node (.existence negated) (some (.raw subquery)) right args)
      (.existence negated subquery)
  | inSubquery {negated name subquery args} :
    Resolves lookup
      (.node (.inSubquery negated) (some (.column name)) (some (.raw subquery)) args)
      (.inSubquery negated name subquery)
  | inValues {negated name v vs right} :
    Resolves lookup
      (.node (.inValues negated) (some (.column name)) right (List.map .value (v :: vs)))
      (.inValues negated name (v :: vs))
  | custom {sql vs left right} :
    Resolves lookup (.node .custom left right (.raw sql :: List.map .value vs)) (.fragment sql vs)
  | junction {op left right} {clauses : List (Operand × Predicate)} (nonempty : clauses ≠ [])
    (each : ∀ c ∈ clauses, Resolves lookup c.1 c.2) :
    Resolves lookup (.node (.junction op) left right (clauses.map Prod.fst))
      (.junction op (clauses.map Prod.snd))
  | not {o p right args} (clause : Resolves lookup o p) :
    Resolves lookup (.node .not (some o) right args) (.not p)

namespace Operand

variable {lookup : Lookup}

private theorem resolves_of_resolveAtom {kind : ConditionKind} {left right : Option Operand}
    {args : List Operand} {p : Predicate} (h : resolveAtom kind left right args = .ok p) :
    Resolves lookup (.node kind left right args) p := by
  cases kind with
  | compare op =>
    simp only [resolveAtom, Checked.bind_eq_ok, leftColumn_eq_ok, rightValue_eq_ok,
      Checked.pure_eq_ok] at h
    obtain ⟨name, rfl, v, rfl, rfl⟩ := h
    exact .compare
  | inList negated =>
    simp only [resolveAtom, Checked.bind_eq_ok, leftColumn_eq_ok, rightValue_eq_ok,
      Checked.pure_eq_ok] at h
    obtain ⟨name, rfl, v, rfl, rfl⟩ := h
    exact .inList
  | between negated =>
    simp only [resolveAtom, Checked.bind_eq_ok, leftColumn_eq_ok, argValues_eq_ok] at h
    obtain ⟨name, rfl, vs, rfl, h⟩ := h
    split at h
    · cases Checked.pure_eq_ok.mp h
      exact .between
    · cases h
  | existence negated =>
    simp only [resolveAtom] at h
    split at h
    · next hleft =>
      obtain rfl := bind_raw?_eq_some.mp hleft
      cases h
      exact .existence
    · cases h
  | inSubquery negated =>
    simp only [resolveAtom, Checked.bind_eq_ok, leftColumn_eq_ok] at h
    obtain ⟨name, rfl, h⟩ := h
    split at h
    · next hright =>
      obtain rfl := bind_raw?_eq_some.mp hright
      cases Checked.pure_eq_ok.mp h
      exact .inSubquery
    · cases h
  | inValues negated =>
    simp only [resolveAtom, Checked.bind_eq_ok, leftColumn_eq_ok, argValues_eq_ok] at h
    obtain ⟨name, rfl, vs, rfl, h⟩ := h
    cases vs with
    | nil => cases h
    | cons v vs =>
      cases Checked.pure_eq_ok.mp h
      exact .inValues
  | custom =>
    simp only [resolveAtom] at h
    split at h
    · simp only [Checked.bind_eq_ok, argValues_eq_ok, Checked.pure_eq_ok] at h
      obtain ⟨vs, rfl, rfl⟩ := h
      exact .custom
    · cases h
  | limit => cases h
  | junction op => cases h
  | not => cases h

mutual

private theorem resolves_of_resolve (o : Operand) {p : Predicate}
    (h : o.resolve lookup = .ok p) : Resolves lookup o p := by
  cases o with
  | value v => simp [resolve] at h
  | column name =>
    simp only [resolve] at h
    split at h
    · next found => cases h; exact .column found
    · cases h
  | raw sql => cases h; exact .raw
  | node kind left right args =>
    cases kind with
    | junction op =>
      simp only [resolve] at h
      split at h
      · cases h
      · next ps hne hall =>
        obtain ⟨clauses, rfl, rfl, each⟩ := resolves_of_resolveAll args hall
        cases h
        exact .junction (fun hnil => hne (by simp [hnil])) each
      · cases h
    | not =>
      cases left with
      | none => simp [resolve, resolveOption] at h
      | some o =>
        simp only [resolve, resolveOption] at h
        split at h
        · next clause => cases h; exact .not (resolves_of_resolve o clause)
        · cases h
    | _ => exact resolves_of_resolveAtom h

private theorem resolves_of_resolveAll (os : List Operand) {ps : List Predicate}
    (h : resolveAll lookup os = .ok ps) :
    ∃ clauses : List (Operand × Predicate),
      clauses.map Prod.fst = os ∧ clauses.map Prod.snd = ps ∧
        ∀ c ∈ clauses, Resolves lookup c.1 c.2 := by
  cases os with
  | nil => cases h; exact ⟨[], rfl, rfl, by simp⟩
  | cons o os =>
    simp only [resolveAll] at h
    split at h
    · next p hhead =>
      split at h
      · next ps htail =>
        obtain ⟨clauses, rfl, rfl, each⟩ := resolves_of_resolveAll os htail
        cases h
        have hhead := resolves_of_resolve o hhead
        exact ⟨(o, p) :: clauses, rfl, rfl, by simpa [hhead] using each⟩
      · cases h
    · cases h

end

private theorem resolveAll_map {clauses : List (Operand × Predicate)}
    (h : ∀ c ∈ clauses, c.1.resolve lookup = .ok c.2) :
    resolveAll lookup (clauses.map Prod.fst) = .ok (clauses.map Prod.snd) := by
  induction clauses with
  | nil => rfl
  | cons c clauses ih =>
    have hhead := h c (by simp)
    have htail := ih fun c hc => h c (by simp [hc])
    simp [resolveAll, hhead, htail]

private theorem resolve_of_resolves {o : Operand} {p : Predicate} (h : Resolves lookup o p) :
    o.resolve lookup = .ok p := by
  induction h with
  | column found => simp [resolve, found]
  | @junction op left right clauses nonempty each ih =>
    simp only [resolve, resolveAll_map ih]
    cases clauses with
    | nil => exact absurd rfl nonempty
    | cons c clauses => rfl
  | not clause ih => simp only [resolve, resolveOption, ih]
  | @inValues negated name v vs right =>
    have hargs : argValues (.inValues negated) (List.map .value (v :: vs)) = .ok (v :: vs) :=
      argValues_eq_ok.mpr rfl
    simp only [resolve, resolveAtom, hargs]
    rfl
  | @custom sql vs left right =>
    have hargs : argValues .custom (List.map .value vs) = .ok vs := argValues_eq_ok.mpr rfl
    simp only [resolve, resolveAtom, hargs]
    rfl
  | raw => rfl
  | compare => rfl
  | inList => rfl
  | between => rfl
  | existence => rfl
  | inSubquery => rfl

/-- Checking a clause gives a predicate exactly where a rule does. -/
theorem resolve_eq_ok_iff {o : Operand} {p : Predicate} :
    o.resolve lookup = .ok p ↔ Resolves lookup o p :=
  ⟨resolves_of_resolve o, resolve_of_resolves⟩

end Operand

/-! ## Limits -/

namespace RowLimit

/-- The values of a limit, in the order in which a LIMIT node lists them. -/
def values : RowLimit → List Value
  | .none => []
  | .count n => [n]
  | .page skipped n => [skipped, n]

theorem resolve_eq_ok_iff {args : List Operand} {l : RowLimit} :
    resolve args = .ok l ↔ args = l.values.map .value := by
  simp only [resolve, Checked.bind_eq_ok, Operand.argValues_eq_ok]
  constructor
  · rintro ⟨vs, rfl, h⟩
    split at h
    · cases Checked.pure_eq_ok.mp h; rfl
    · cases Checked.pure_eq_ok.mp h; rfl
    · cases Checked.pure_eq_ok.mp h; rfl
    · cases h
  · rintro rfl
    refine ⟨l.values, rfl, ?_⟩
    cases l <;> rfl

theorem among_append (os os' : List Operand) : among (os ++ os') = among os ++ among os' := by
  fun_induction among os with
  | case1 => rfl
  | case2 left right args rest ih => simp [among, ih]
  | case3 o rest hne ih => simp [among, ih]

theorem among_cons_of_not_isLimit {o : Operand} (h : o.isLimit = false) (os : List Operand) :
    among (o :: os) = among os := by
  cases o with
  | node kind left right args =>
    cases kind with
    | limit => cases h
    | _ => rfl
  | _ => rfl

theorem among_eq_nil_iff {os : List Operand} :
    among os = [] ↔ ∀ o ∈ os, o.isLimit = false := by
  induction os with
  | nil => simp [among]
  | cons o os ih =>
    cases ho : o.isLimit with
    | false => simp [among_cons_of_not_isLimit ho, ih, ho]
    | true =>
      obtain ⟨left, right, args, rfl⟩ := Operand.isLimit_iff.mp ho
      simp [among, ho]

theorem exists_of_among_eq_singleton {os args : List Operand} (h : among os = [args]) :
    ∃ before left right after, os = before ++ .node .limit left right args :: after ∧
      among before = [] ∧ among after = [] := by
  induction os with
  | nil => cases h
  | cons o os ih =>
    cases ho : o.isLimit with
    | false =>
      rw [among_cons_of_not_isLimit ho] at h
      obtain ⟨before, left, right, after, rfl, hbefore, hafter⟩ := ih h
      refine ⟨o :: before, left, right, after, rfl, ?_, hafter⟩
      rw [among_cons_of_not_isLimit ho, hbefore]
    | true =>
      obtain ⟨left, right, args', rfl⟩ := Operand.isLimit_iff.mp ho
      simp only [among, List.cons.injEq] at h
      obtain ⟨rfl, hafter⟩ := h
      exact ⟨[], left, right, os, rfl, rfl, hafter⟩

end RowLimit

/-! ## Filters -/

/-- The conjunction of clauses. Without clauses there is no predicate. -/
def Predicate.conjunction? : List Predicate → Option Predicate
  | [] => none
  | clauses => some (.junction .and clauses)

theorem Predicate.conjunction?_of_ne_nil {clauses : List Predicate} (h : clauses ≠ []) :
    conjunction? clauses = some (.junction .and clauses) := by
  cases clauses with
  | nil => exact absurd rfl h
  | cons p ps => rfl

/-- The selection that a condition reads as. A LIMIT is the whole condition, or
one clause of a conjunction at the root. -/
inductive Selects (lookup : Lookup) : Condition → Selection → Prop
  | limit {left right} (l : RowLimit) :
    Selects lookup ⟨.limit, left, right, l.values.map .value⟩ ⟨none, l⟩
  | limited {left right limitLeft limitRight} (l : RowLimit)
    {before after : List (Operand × Predicate)}
    (each : ∀ c ∈ before ++ after, Resolves lookup c.1 c.2) :
    Selects lookup
      ⟨.junction .and, left, right, before.map Prod.fst ++
        .node .limit limitLeft limitRight (l.values.map .value) :: after.map Prod.fst⟩
      ⟨Predicate.conjunction? ((before ++ after).map Prod.snd), l⟩
  | unlimited {c : Condition} {p} (whole : Resolves lookup c.toOperand p) :
    Selects lookup c ⟨some p, .none⟩

theorem Resolves.inValues_inv {lookup : Lookup} {negated : Bool} {left right : Option Operand}
    {args : List Operand} {p : Predicate}
    (h : Resolves lookup (.node (.inValues negated) left right args) p) :
    ∃ name vs, left = some (.column name) ∧ args = vs.map .value ∧
      p = .inValues negated name vs := by
  cases h with
  | @inValues _ name v vs => exact ⟨name, v :: vs, rfl, rfl, rfl⟩

theorem Resolves.custom_inv {lookup : Lookup} {left right : Option Operand}
    {args : List Operand} {p : Predicate} (h : Resolves lookup (.node .custom left right args) p) :
    ∃ sql vs, args = .raw sql :: vs.map .value ∧ p = .fragment sql vs := by
  cases h with
  | @custom sql vs => exact ⟨sql, vs, rfl, rfl⟩

theorem Resolves.junction_inv {lookup : Lookup} {op : Junction} {left right : Option Operand}
    {args : List Operand} {p : Predicate}
    (h : Resolves lookup (.node (.junction op) left right args) p) :
    ∃ clauses : List (Operand × Predicate), args = clauses.map Prod.fst ∧ clauses ≠ [] ∧
      (∀ c ∈ clauses, Resolves lookup c.1 c.2) ∧ p = .junction op (clauses.map Prod.snd) := by
  cases h with
  | @junction _ _ _ clauses nonempty each => exact ⟨clauses, rfl, nonempty, each, rfl⟩

theorem Selects.conjunction_inv {lookup : Lookup} {left right : Option Operand}
    {args : List Operand} {s : Selection}
    (h : Selects lookup ⟨.junction .and, left, right, args⟩ s) :
    (∃ p, Resolves lookup (.node (.junction .and) left right args) p ∧ s = ⟨some p, .none⟩) ∨
      ∃ limitLeft limitRight l, ∃ before after : List (Operand × Predicate),
        args = before.map Prod.fst ++
          .node .limit limitLeft limitRight (l.values.map .value) :: after.map Prod.fst ∧
        (∀ c ∈ before ++ after, Resolves lookup c.1 c.2) ∧
        s = ⟨Predicate.conjunction? ((before ++ after).map Prod.snd), l⟩ := by
  cases h with
  | @limited _ _ limitLeft limitRight l before after each =>
    exact .inr ⟨limitLeft, limitRight, l, before, after, rfl, each, rfl⟩
  | unlimited whole => exact .inl ⟨_, whole, rfl⟩

theorem Resolves.isLimit_eq_false {lookup : Lookup} {o : Operand} {p : Predicate}
    (h : Resolves lookup o p) : o.isLimit = false := by
  cases h <;> rfl

namespace Condition

variable {lookup : Lookup}

/-- What remains of clauses once their one LIMIT is taken out. -/
theorem filter_around_limit {before after : List Operand} {left right : Option Operand}
    {args : List Operand} (hbefore : RowLimit.among before = [])
    (hafter : RowLimit.among after = []) :
    (before ++ .node .limit left right args :: after).filter (!·.isLimit) = before ++ after := by
  have keep {os : List Operand} (h : RowLimit.among os = []) : os.filter (!·.isLimit) = os :=
    List.filter_eq_self.mpr fun o ho => by simp [RowLimit.among_eq_nil_iff.mp h o ho]
  rw [List.filter_append, keep hbefore]
  exact congrArg (before ++ ·) (keep hafter)

/-- No clause that resolves is a LIMIT. -/
theorem among_map_fst {clauses : List (Operand × Predicate)}
    (each : ∀ c ∈ clauses, Resolves lookup c.1 c.2) :
    RowLimit.among (clauses.map Prod.fst) = [] := by
  refine RowLimit.among_eq_nil_iff.mpr fun o ho => ?_
  obtain ⟨c, hc, rfl⟩ := List.mem_map.mp ho
  exact (each c hc).isLimit_eq_false

private theorem selects_of_select {c : Condition} {s : Selection}
    (h : c.select lookup = .ok s) : Selects lookup c s := by
  unfold select at h
  split at h
  · next hkind =>
    simp only [Checked.bind_eq_ok, RowLimit.resolve_eq_ok_iff, Checked.pure_eq_ok] at h
    obtain ⟨l, hargs, rfl⟩ := h
    obtain ⟨kind, left, right, args⟩ := c
    cases hkind
    cases hargs
    exact .limit l
  · next hkind =>
    split at h
    · simp only [Checked.bind_eq_ok, Operand.resolve_eq_ok_iff, Checked.pure_eq_ok] at h
      obtain ⟨p, whole, rfl⟩ := h
      exact .unlimited whole
    · next limitArgs hamong =>
      obtain ⟨kind, left, right, args⟩ := c
      cases hkind
      obtain ⟨before, limitLeft, limitRight, after, rfl, hbefore, hafter⟩ :=
        RowLimit.exists_of_among_eq_singleton hamong
      rw [filter_around_limit hbefore hafter] at h
      split at h
      · next hnil =>
        obtain ⟨rfl, rfl⟩ := List.append_eq_nil_iff.mp hnil
        simp only [Checked.bind_eq_ok, RowLimit.resolve_eq_ok_iff, Checked.pure_eq_ok] at h
        obtain ⟨_, rfl, l, rfl, rfl⟩ := h
        have each : ∀ c ∈ ([] ++ [] : List (Operand × Predicate)), Resolves lookup c.1 c.2 := by
          simp
        exact .limited l each
      · simp only [Checked.bind_eq_ok, Checked.map_eq_ok, Operand.resolveConjunction,
          Operand.resolve_eq_ok_iff, RowLimit.resolve_eq_ok_iff, Checked.pure_eq_ok] at h
        obtain ⟨_, ⟨p, whole, rfl⟩, l, rfl, rfl⟩ := h
        obtain ⟨clauses, hclauses, nonempty, each, rfl⟩ := whole.junction_inv
        obtain ⟨before, after, rfl, rfl, rfl⟩ := List.append_eq_map_iff.mp hclauses
        rw [← Predicate.conjunction?_of_ne_nil (by simpa using nonempty)]
        exact .limited l each
    · cases h
  · simp only [Checked.bind_eq_ok, Operand.resolve_eq_ok_iff, Checked.pure_eq_ok] at h
    obtain ⟨p, whole, rfl⟩ := h
    exact .unlimited whole

private theorem select_of_selects {c : Condition} {s : Selection} (h : Selects lookup c s) :
    c.select lookup = .ok s := by
  cases h with
  | limit l =>
    have hl : RowLimit.resolve (l.values.map .value) = .ok l := RowLimit.resolve_eq_ok_iff.mpr rfl
    simp only [select, hl]
    rfl
  | @limited left right limitLeft limitRight l before after each =>
    have hl : RowLimit.resolve (l.values.map .value) = .ok l := RowLimit.resolve_eq_ok_iff.mpr rfl
    have hbefore := among_map_fst fun c hc => each c (List.mem_append_left after hc)
    have hafter := among_map_fst fun c hc => each c (List.mem_append_right before hc)
    simp only [select, RowLimit.among_append, RowLimit.among, hbefore, hafter, List.nil_append,
      filter_around_limit hbefore hafter, ← List.map_append, hl]
    generalize before ++ after = clauses at each
    cases clauses with
    | nil => rfl
    | cons c clauses =>
      have hwhole : Operand.resolveConjunction lookup ((c :: clauses).map Prod.fst) =
          .ok (.junction .and ((c :: clauses).map Prod.snd)) :=
        Operand.resolve_eq_ok_iff.mpr (.junction (by simp) each)
      simp only [List.map_cons] at hwhole ⊢
      rw [hwhole]
      rfl
  | @unlimited c p whole =>
    have hwhole := Operand.resolve_eq_ok_iff.mpr whole
    unfold select
    split
    · next hkind =>
      have := whole.isLimit_eq_false
      rw [Condition.toOperand, hkind] at this
      cases this
    · next hkind =>
      obtain ⟨kind, left, right, args⟩ := c
      cases hkind
      obtain ⟨clauses, rfl, _, each, _⟩ := whole.junction_inv
      simp only [among_map_fst each, hwhole]
      rfl
    · rw [hwhole]
      rfl

/-- Checking a condition gives a selection exactly where a rule does. -/
theorem select_eq_ok_iff {c : Condition} {s : Selection} :
    c.select lookup = .ok s ↔ Selects lookup c s :=
  ⟨selects_of_select, select_of_selects⟩

end Condition

end RelMap
