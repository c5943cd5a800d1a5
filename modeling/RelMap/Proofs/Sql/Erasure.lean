-- SUMMARY: Requests without the values that they bind, and why their text does not need them.
import RelMap.Proofs.Sql.Pieces
import RelMap.Proofs.Sql.Request

/-!
# Erasure

Erasing puts null in place of every value that a caller binds, and keeps the shape of the
tree, the columns, and the SQL. It commutes with every step from a request to its
statement: checking, writing, and rendering. Main statement: requests that are the same
once erased both fail, or have the same text and equally many arguments.
-/
namespace RelMap

/-! ## What a caller writes -/

/-- The value that stands for any other. -/
def Value.erased (_ : Value) : Value := .null

mutual

/-- The operand without its values. -/
def Operand.erased : Operand → Operand
  | .value v => .value v.erased
  | .column name => .column name
  | .raw sql => .raw sql
  | .node kind left right args =>
    .node kind (erasedOption left) (erasedOption right) (erasedAll args)

def Operand.erasedOption : Option Operand → Option Operand
  | none => none
  | some o => some o.erased

def Operand.erasedAll : List Operand → List Operand
  | [] => []
  | o :: os => o.erased :: erasedAll os

end

def Condition.erased (c : Condition) : Condition :=
  ⟨c.kind, Operand.erasedOption c.left, Operand.erasedOption c.right, Operand.erasedAll c.args⟩

def Filter.erased : Filter → Filter
  | .none => .none
  | .condition c => .condition c.erased
  | .raw clause args => .raw clause (args.map Value.erased)

def Assignments.erased (assignments : Assignments) : Assignments :=
  assignments.map fun a => (a.1, a.2.erased)

def Request.erased : Request → Request
  | .compile filter => .compile filter.erased
  | .insert table values returning => .insert table values.erased returning
  | .select table columns filter => .select table columns filter.erased
  | .update table assignments filter => .update table assignments.erased filter.erased
  | .delete table filter => .delete table filter.erased
  | .count table filter => .count table filter.erased

/-- What remains of the values of bound columns: which columns have one. -/
def Lookup.erased (lookup : Lookup) : Lookup := fun name => (lookup name).map Value.erased

/-! ## What becomes of it -/

mutual

def Predicate.erased : Predicate → Predicate
  | .compare column op v => .compare column op v.erased
  | .inList negated column list => .inList negated column list.erased
  | .between negated column low high => .between negated column low.erased high.erased
  | .existence negated subquery => .existence negated subquery
  | .inSubquery negated column subquery => .inSubquery negated column subquery
  | .inValues negated column values => .inValues negated column (values.map Value.erased)
  | .fragment sql args => .fragment sql (args.map Value.erased)
  | .junction op clauses => .junction op (erasedAll clauses)
  | .not clause => .not clause.erased

def Predicate.erasedAll : List Predicate → List Predicate
  | [] => []
  | p :: ps => p.erased :: erasedAll ps

end

def RowLimit.erased : RowLimit → RowLimit
  | .none => .none
  | .count n => .count n.erased
  | .page skipped n => .page skipped.erased n.erased

def Selection.erased (s : Selection) : Selection := ⟨s.predicate.map Predicate.erased, s.limit.erased⟩

/-- Only the misfit of a bare value names a value, by its variant. -/
def Malformed.erased : Malformed → Malformed
  | .bareValue _ => .bareValue Value.null.variantName
  | m => m

/-- The result of a check once values are erased by `f`. -/
def Checked.erased (f : α → α) : Checked α → Checked α
  | .ok a => .ok (f a)
  | .error m => .error m.erased

def Piece.erased : Piece → Piece
  | .text sql => .text sql
  | .bind v => .bind v.erased
  | .fragment sql args => .fragment sql (args.map Value.erased)

def Statement.erased (s : Statement) : Statement := ⟨s.sql, s.args.map Value.erased⟩

/-- Lookups of the same columns are the same once values are erased. -/
theorem Lookup.erased_congr {lookup lookup' : Lookup}
    (found : ∀ name, (lookup name).isSome = (lookup' name).isSome) :
    lookup.erased = lookup'.erased := by
  funext name
  have hname := found name
  unfold erased
  cases h : lookup name with
  | none =>
    cases h' : lookup' name with
    | none => rfl
    | some v' =>
      rw [h, h'] at hname
      cases hname
  | some v =>
    cases h' : lookup' name with
    | none =>
      rw [h, h'] at hname
      cases hname
    | some v' => rfl

/-! ## Checking -/

variable {lookup : Lookup}

namespace Operand

theorem column?_erased (o : Operand) : o.erased.column? = o.column? := by
  cases o <;> rfl

theorem value?_erased (o : Operand) : o.erased.value? = o.value?.map Value.erased := by
  cases o <;> rfl

theorem raw?_erased (o : Operand) : o.erased.raw? = o.raw? := by
  cases o <;> rfl

theorem isLimit_erased (o : Operand) : o.erased.isLimit = o.isLimit := by
  cases o with
  | node kind left right args => cases kind <;> rfl
  | _ => rfl

theorem erasedAll_eq_map (os : List Operand) : erasedAll os = os.map erased := by
  induction os with
  | nil => rfl
  | cons o os ih => rw [erasedAll, ih, List.map_cons]

theorem leftColumn_erased (kind : ConditionKind) (left : Option Operand) :
    leftColumn kind (erasedOption left) = leftColumn kind left := by
  cases left with
  | none => rfl
  | some o => simp only [leftColumn, erasedOption, Option.bind_some, column?_erased]

theorem bind_raw?_erased (slot : Option Operand) :
    (erasedOption slot).bind raw? = slot.bind raw? := by
  cases slot with
  | none => rfl
  | some o => exact raw?_erased o

theorem bind_value?_erased (slot : Option Operand) :
    (erasedOption slot).bind value? = (slot.bind value?).map Value.erased := by
  cases slot with
  | none => rfl
  | some o => exact value?_erased o

theorem mapM_value?_erased (args : List Operand) :
    (erasedAll args).mapM value? = (args.mapM value?).map (List.map Value.erased) := by
  induction args with
  | nil => rfl
  | cons o os ih =>
    rw [erasedAll, List.mapM_cons, List.mapM_cons, value?_erased, ih]
    cases o.value? with
    | none => rfl
    | some v => cases os.mapM value? <;> rfl

/-- Erasing commutes with the check of a node that holds no clauses. -/
theorem resolveAtom_erased (kind : ConditionKind) (left right : Option Operand)
    (args : List Operand) :
    resolveAtom kind (erasedOption left) (erasedOption right) (erasedAll args) =
      Checked.erased Predicate.erased (resolveAtom kind left right args) := by
  cases kind with
  | compare op | inList negated =>
    simp only [resolveAtom, leftColumn_erased, rightValue, bind_value?_erased]
    unfold leftColumn
    cases left.bind column? with
    | none => rfl
    | some name => cases right.bind value? <;> rfl
  | between negated =>
    simp only [resolveAtom, leftColumn_erased, argValues, mapM_value?_erased]
    unfold leftColumn
    cases left.bind column? with
    | none => rfl
    | some name =>
      cases args.mapM value? with
      | none => rfl
      | some vs => rcases vs with _ | ⟨_, _ | ⟨_, _ | ⟨_, _⟩⟩⟩ <;> rfl
  | existence negated =>
    simp only [resolveAtom, bind_raw?_erased]
    cases left.bind raw? <;> rfl
  | inSubquery negated =>
    simp only [resolveAtom, leftColumn_erased, bind_raw?_erased]
    unfold leftColumn
    cases left.bind column? with
    | none => rfl
    | some name => cases right.bind raw? <;> rfl
  | inValues negated =>
    simp only [resolveAtom, leftColumn_erased, argValues, mapM_value?_erased]
    unfold leftColumn
    cases left.bind column? with
    | none => rfl
    | some name =>
      cases args.mapM value? with
      | none => rfl
      | some vs => cases vs <;> rfl
  | custom =>
    cases args with
    | nil => rfl
    | cons o rest =>
      cases o with
      | raw sql =>
        simp only [resolveAtom, erasedAll, erased, argValues, mapM_value?_erased]
        cases rest.mapM value? <;> rfl
      | _ => rfl
  | limit => rfl
  | junction op => rfl
  | not => rfl

mutual

/-- Erasing commutes with the check of a clause. -/
theorem resolve_erased (o : Operand) :
    o.erased.resolve lookup.erased = Checked.erased Predicate.erased (o.resolve lookup) := by
  cases o with
  | value v => rfl
  | column name =>
    simp only [erased, resolve, Lookup.erased]
    cases lookup name <;> rfl
  | raw sql => rfl
  | node kind left right args =>
    cases kind with
    | junction op =>
      simp only [erased, resolve, resolveAll_erased args]
      cases resolveAll lookup args with
      | error m => rfl
      | ok ps => cases ps <;> rfl
    | not =>
      cases left with
      | none => rfl
      | some o =>
        simp only [erased, erasedOption, resolve, resolveOption, resolve_erased o]
        cases o.resolve lookup <;> rfl
    | _ =>
      simp only [erased, resolve]
      exact resolveAtom_erased _ left right args

theorem resolveAll_erased (os : List Operand) :
    resolveAll lookup.erased (erasedAll os) =
      Checked.erased Predicate.erasedAll (resolveAll lookup os) := by
  cases os with
  | nil => rfl
  | cons o os =>
    simp only [erasedAll, resolveAll, resolve_erased o, resolveAll_erased os]
    cases o.resolve lookup with
    | error m => rfl
    | ok p => cases resolveAll lookup os <;> rfl

end

end Operand

theorem RowLimit.resolve_erased (args : List Operand) :
    RowLimit.resolve (Operand.erasedAll args) =
      Checked.erased RowLimit.erased (RowLimit.resolve args) := by
  simp only [resolve, Operand.argValues, Operand.mapM_value?_erased]
  cases args.mapM Operand.value? with
  | none => rfl
  | some vs => rcases vs with _ | ⟨_, _ | ⟨_, _ | ⟨_, _⟩⟩⟩ <;> rfl

theorem RowLimit.among_erased (os : List Operand) :
    RowLimit.among (Operand.erasedAll os) = (RowLimit.among os).map Operand.erasedAll := by
  induction os with
  | nil => rfl
  | cons o os ih =>
    cases ho : o.isLimit with
    | true =>
      obtain ⟨left, right, args, rfl⟩ := Operand.isLimit_iff.mp ho
      exact congrArg (Operand.erasedAll args :: ·) ih
    | false =>
      rw [Operand.erasedAll, among_cons_of_not_isLimit ho,
        among_cons_of_not_isLimit ((Operand.isLimit_erased o).trans ho), ih]

theorem Operand.filter_isLimit_erased (os : List Operand) :
    (erasedAll os).filter (!·.isLimit) = erasedAll (os.filter (!·.isLimit)) := by
  rw [erasedAll_eq_map, erasedAll_eq_map, List.filter_map]
  have hkeep : (fun o : Operand => !o.isLimit) ∘ erased = fun o => !o.isLimit := by
    funext o
    exact congrArg Bool.not (isLimit_erased o)
  rw [hkeep]

theorem Operand.resolveConjunction_erased (clauses : List Operand) :
    resolveConjunction lookup.erased (erasedAll clauses) =
      Checked.erased Predicate.erased (resolveConjunction lookup clauses) :=
  resolve_erased (.node (.junction .and) none none clauses)

/-- Erasing commutes with the check of a condition that is a whole filter. -/
theorem Condition.select_erased (c : Condition) :
    c.erased.select lookup.erased = Checked.erased Selection.erased (c.select lookup) := by
  have whole : (do return ⟨some (← c.erased.toOperand.resolve lookup.erased), .none⟩) =
      Checked.erased Selection.erased
        (do return ⟨some (← c.toOperand.resolve lookup), .none⟩) := by
    have hresolve : c.erased.toOperand.resolve lookup.erased = _ := c.toOperand.resolve_erased
    rw [hresolve]
    cases c.toOperand.resolve lookup <;> rfl
  obtain ⟨kind, left, right, args⟩ := c
  cases kind with
  | limit =>
    simp only [select, erased, RowLimit.resolve_erased]
    cases RowLimit.resolve args <;> rfl
  | junction op =>
    cases op with
    | or => exact whole
    | and =>
      simp only [select, erased, RowLimit.among_erased]
      cases RowLimit.among args with
      | nil => exact whole
      | cons limitArgs more =>
        cases more with
        | cons _ _ => rfl
        | nil =>
          simp only [List.map_cons, List.map_nil, Operand.filter_isLimit_erased,
            RowLimit.resolve_erased]
          cases args.filter (!·.isLimit) with
          | nil => cases RowLimit.resolve limitArgs <;> rfl
          | cons o os =>
            have hrest : Operand.resolveConjunction lookup.erased
                (o.erased :: Operand.erasedAll os) = _ :=
              Operand.resolveConjunction_erased (o :: os)
            simp only [Operand.erasedAll, hrest]
            cases Operand.resolveConjunction lookup (o :: os) with
            | error m => rfl
            | ok p => cases RowLimit.resolve limitArgs <;> rfl
  | _ => exact whole

/-- Erasing commutes with the check of a filter. -/
theorem Filter.select_erased (filter : Filter) :
    filter.erased.select lookup.erased = Checked.erased Selection.erased (filter.select lookup) := by
  cases filter with
  | none => rfl
  | condition c => exact c.select_erased
  | raw clause args =>
    simp only [erased, select]
    split <;> rfl

/-! ## Writing -/

namespace Predicate

theorem list_erased (vs : List Value) :
    list (vs.map Value.erased) = (list vs).map Piece.erased := by
  rw [list, list, Piece.map_separated rfl, List.map_map, List.map_map]
  rfl

mutual

/-- Erasing commutes with writing a predicate. -/
theorem pieces_erased (p : Predicate) : p.erased.pieces = p.pieces.map Piece.erased := by
  cases p with
  | inValues negated column values =>
    simp only [erased, pieces, list_erased, List.map_cons, List.map_append, List.map_nil]
    rfl
  | junction op clauses =>
    simp only [erased, pieces, piecesOf_erased clauses]
    exact (Piece.map_separated rfl _).symm
  | not clause =>
    simp only [erased, pieces, pieces_erased clause, List.map_cons, List.map_append, List.map_nil]
    rfl
  | _ => rfl

theorem piecesOf_erased (ps : List Predicate) :
    piecesOf (erasedAll ps) = (piecesOf ps).map (List.map Piece.erased) := by
  cases ps with
  | nil => rfl
  | cons p ps => simp only [erasedAll, piecesOf, pieces_erased p, piecesOf_erased ps, List.map_cons]

end

end Predicate

theorem RowLimit.pieces_erased (d : Dialect) (lead : String) (l : RowLimit) :
    l.erased.pieces d lead = (l.pieces d lead).map Piece.erased := by
  cases l with
  | page skipped n => cases d <;> rfl
  | _ => rfl

theorem Piece.isEmpty_erased (p : Piece) : p.erased.isEmpty = p.isEmpty := by
  cases p <;> rfl

namespace Selection

variable (d : Dialect) (s : Selection)

theorem predicatePieces_erased :
    s.erased.predicatePieces = s.predicatePieces.map Piece.erased := by
  obtain ⟨predicate, limit⟩ := s
  cases predicate with
  | none => rfl
  | some p => exact p.pieces_erased

theorem clause_erased : s.erased.clause d = (s.clause d).map Piece.erased := by
  have hlead : s.erased.predicatePieces.all Piece.isEmpty = s.predicatePieces.all Piece.isEmpty := by
    rw [predicatePieces_erased, List.all_map]
    exact congrArg s.predicatePieces.all (funext Piece.isEmpty_erased)
  have hlimit (lead : String) :
      s.erased.limit.pieces d lead = (s.limit.pieces d lead).map Piece.erased :=
    s.limit.pieces_erased d lead
  simp only [clause, hlead, hlimit]
  rw [predicatePieces_erased, List.map_append]

theorem tail_erased : s.erased.tail d = (s.tail d).map Piece.erased := by
  obtain ⟨predicate, limit⟩ := s
  cases predicate with
  | none => exact limit.pieces_erased d " "
  | some p =>
    simp only [tail, erased, Option.map_some, p.pieces_erased, limit.pieces_erased,
      List.map_append, List.map_cons]
    rfl

end Selection

/-! ## Rendering -/

theorem Piece.args_erased (p : Piece) : p.erased.args = p.args.map Value.erased := by
  cases p <;> rfl

namespace Dialect

variable (d : Dialect)

/-- A text has a place for each value, and not the value. -/
theorem render_erased (bound : Nat) (ps : List Piece) :
    d.render bound (ps.map Piece.erased) = d.render bound ps := by
  induction ps generalizing bound with
  | nil => rfl
  | cons p ps ih =>
    have hpiece : d.renderPiece bound p.erased = d.renderPiece bound p := by
      cases p <;> rfl
    rw [List.map_cons, render, render, hpiece, Piece.args_erased, List.length_map, ih]

theorem assemble_erased (ps : List Piece) :
    d.assemble (ps.map Piece.erased) = (d.assemble ps).erased := by
  have hargs : (ps.map Piece.erased).flatMap Piece.args =
      (ps.flatMap Piece.args).map Value.erased := by
    simp only [List.flatMap_map, List.map_flatMap, Piece.args_erased]
  simp only [assemble, Statement.erased, render_erased, hargs]

theorem columnList_erased (columns : List String) :
    (d.columnList columns).map Piece.erased = d.columnList columns := by
  rw [columnList, Piece.map_separated rfl, List.map_map]
  rfl

theorem insertPieces_erased (table : String) (values : Assignments) (returning : Option String) :
    d.insertPieces table values.erased returning =
      (d.insertPieces table values returning).map Piece.erased := by
  have hcolumns : values.erased.map (·.1) = values.map (·.1) := List.map_map
  have hvalues : values.erased.map (·.2) = (values.map (·.2)).map Value.erased := by
    rw [Assignments.erased, List.map_map, List.map_map]
    rfl
  have hempty : values.erased.isEmpty = values.isEmpty := List.isEmpty_map
  simp only [insertPieces, hcolumns, hvalues, hempty, Predicate.list_erased, List.map_append,
    List.map_cons]
  congr 1
  · congr 1
    split
    · cases d <;> rfl
    · simp only [List.map_append, List.map_cons, columnList_erased]
      rfl
  · cases returning <;> rfl

theorem updateHead_erased (table : String) (assignments : Assignments) :
    d.updateHead table assignments.erased =
      (d.updateHead table assignments).map Piece.erased := by
  rw [updateHead, updateHead, List.map_cons, Piece.map_separated rfl, Assignments.erased,
    List.map_map, List.map_map]
  rfl

end Dialect

namespace Request

variable (d : Dialect)

theorem missing?_erased (r : Request) : r.erased.missing? = r.missing? := by
  cases r with
  | update table assignments filter => simp only [erased, missing?, Assignments.erased, List.isEmpty_map]
  | _ => rfl

theorem filter_erased (r : Request) : r.erased.filter = r.filter.erased := by
  cases r <;> rfl

theorem head_erased (r : Request) : r.erased.head d = (r.head d).map Piece.erased := by
  cases r with
  | compile filter => rfl
  | insert table values returning => exact d.insertPieces_erased table values returning
  | select table columns filter =>
    simp only [erased, head, Dialect.selectHead, List.map_append, List.map_cons,
      Dialect.columnList_erased]
    rfl
  | update table assignments filter => exact d.updateHead_erased table assignments
  | delete table filter => rfl
  | count table filter => rfl

theorem tail_erased (r : Request) (s : Selection) :
    r.erased.tail d s.erased = (r.tail d s).map Piece.erased := by
  cases r with
  | compile filter => exact s.clause_erased d
  | _ => exact s.tail_erased d

/-- Erasing commutes with rendering. -/
theorem render_erased (lookup : Lookup) (r : Request) :
    (r.erased.render d lookup.erased).toOption =
      (r.render d lookup).toOption.map Statement.erased := by
  rw [render_eq, render_eq, missing?_erased, filter_erased, Filter.select_erased]
  cases r.missing? with
  | some e => rfl
  | none =>
    cases r.filter.select lookup with
    | error m => rfl
    | ok selection =>
      simp only [Checked.erased, head_erased, tail_erased, ← List.map_append,
        Dialect.assemble_erased]
      rfl

/-- Requests that differ in bound values only, and look up values for the same columns,
both fail, or have the same text and equally many arguments. -/
theorem text_of_erased {r r' : Request} {lookup lookup' : Lookup} (same : r.erased = r'.erased)
    (found : ∀ name, (lookup name).isSome = (lookup' name).isSome) :
    (∃ e e', r.render d lookup = .error e ∧ r'.render d lookup' = .error e') ∨
      ∃ s s', r.render d lookup = .ok s ∧ r'.render d lookup' = .ok s' ∧
        s.sql = s'.sql ∧ s.args.length = s'.args.length := by
  have hrender := r.render_erased d lookup
  rw [same, Lookup.erased_congr found, r'.render_erased d lookup'] at hrender
  cases hr : r.render d lookup with
  | error e =>
    cases hr' : r'.render d lookup' with
    | error e' => exact .inl ⟨e, e', rfl, rfl⟩
    | ok s' =>
      rw [hr, hr'] at hrender
      cases hrender
  | ok s =>
    cases hr' : r'.render d lookup' with
    | error e' =>
      rw [hr, hr'] at hrender
      cases hrender
    | ok s' =>
      rw [hr, hr'] at hrender
      have hstatement : s'.erased = s.erased := Option.some.inj hrender
      have hargs : (s'.args.map Value.erased).length = (s.args.map Value.erased).length :=
        congrArg (fun s : Statement => s.args.length) hstatement
      rw [List.length_map, List.length_map] at hargs
      exact .inr ⟨s, s', rfl, rfl, (congrArg Statement.sql hstatement).symm, hargs.symm⟩

/-- An UPDATE with `v` for every value that its caller binds. -/
def uniformUpdate (v : Value) : Request :=
  .update "people" [("name", v), ("age", v)] (.condition (.junction .and
    [(Condition.inList true "a" [v]).toOperand, (Condition.custom "f(?) < '?'" [v]).toOperand,
      (Condition.limitOffset v v).toOperand,
      (Condition.negate (Condition.between false "b" v v).toOperand).toOperand, .column "c"]))

theorem text_of_erased_uniformUpdate :
    let hostile : Value := .string "x' OR '?' = '$1"
    (uniformUpdate hostile).erased = (uniformUpdate .null).erased ∧
      ∃ s s', (uniformUpdate hostile).render .postgresql (fun _ => some hostile) = .ok s ∧
        (uniformUpdate .null).render .postgresql (fun _ => some .null) = .ok s' ∧
        s.sql = s'.sql ∧ s.args.length = s'.args.length := by
  intro hostile
  have same : (uniformUpdate hostile).erased = (uniformUpdate .null).erased := rfl
  have found : ∀ name : String, ((fun _ => some hostile : Lookup) name).isSome =
      ((fun _ => some .null : Lookup) name).isSome := fun _ => rfl
  refine ⟨same, ?_⟩
  rcases text_of_erased .postgresql same found with ⟨_, _, h, _⟩ | h
  · cases h
  · exact h

end Request

end RelMap
