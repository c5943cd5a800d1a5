-- SUMMARY: Filters with checked operands: a predicate and a row limit.
import RelMap.Sql.Predicate

/-!
# Selections

A `Selection` is a checked filter: what remains of it as a predicate, and the row
limit that is split off. A limit is split off where the filter is one, or is a
conjunction with one among its clauses; the place among the clauses does not
matter. `Selection.clause` writes a selection on its own, `Selection.tail` writes
it after the head of a statement.
-/
namespace RelMap

/-- How many rows are wanted, after how many that are skipped. -/
inductive RowLimit where
  | none
  | count (count : Value)
  | page (offset count : Value)

/-- A checked filter. -/
structure Selection where
  predicate : Option Predicate
  limit : RowLimit

/-! ## Checking filters -/

namespace RowLimit

/-- The limit with the given operands. -/
def resolve (args : List Operand) : Checked RowLimit := do
  match ← Operand.argValues .limit args with
  | [] => return .none
  | [n] => return .count n
  | [skipped, n] => return .page skipped n
  | _ => .error .tooManyLimitValues

/-- The operands of the limits among some clauses. -/
def among : List Operand → List (List Operand)
  | [] => []
  | .node .limit _ _ args :: rest => args :: among rest
  | _ :: rest => among rest

end RowLimit

/-- Check a conjunction of at least one clause. -/
def Operand.resolveConjunction (lookup : Lookup) (clauses : List Operand) : Checked Predicate :=
  Operand.resolve lookup (.node (.junction .and) none none clauses)

namespace Condition

/-- Check a condition that is a whole filter. -/
def select (lookup : Lookup) (c : Condition) : Checked Selection :=
  match c.kind with
  | .limit => do return ⟨none, ← RowLimit.resolve c.args⟩
  | .junction .and =>
    match RowLimit.among c.args with
    | [] => do return ⟨some (← c.toOperand.resolve lookup), .none⟩
    | [limitArgs] => do
      let predicate ←
        match c.args.filter (!·.isLimit) with
        | [] => pure none
        | clauses => some <$> Operand.resolveConjunction lookup clauses
      return ⟨predicate, ← RowLimit.resolve limitArgs⟩
    | _ => .error .twoLimits
  | _ => do return ⟨some (← c.toOperand.resolve lookup), .none⟩

end Condition

namespace Filter

/-- Check a filter. A blank clause selects everything. -/
def select (lookup : Lookup) : Filter → Checked Selection
  | .none => .ok ⟨Option.none, .none⟩
  | .condition c => c.select lookup
  | .raw clause args =>
    if isBlank clause then .ok ⟨Option.none, .none⟩
    else .ok ⟨some (.fragment clause args), .none⟩

end Filter

/-! ## Writing -/

namespace RowLimit

/-- The pieces of a limit, after `lead` where there are any. -/
def pieces (d : Dialect) (lead : String) : RowLimit → List Piece
  | .none => []
  | .count n => [.text (lead ++ "LIMIT "), .bind n]
  | .page skipped n =>
    match d with
    | .postgresql => [.text (lead ++ "LIMIT "), .bind n, .text " OFFSET ", .bind skipped]
    | .mysql | .sqlite => [.text (lead ++ "LIMIT "), .bind skipped, .text ", ", .bind n]

end RowLimit

namespace Selection

/-- The pieces of the predicate, if there is one. -/
def predicatePieces (s : Selection) : List Piece :=
  match s.predicate with
  | some p => p.pieces
  | none => []

/-- The selection on its own. A blank keeps the limit apart from a predicate that
shows. -/
def clause (d : Dialect) (s : Selection) : List Piece :=
  let lead := if s.predicatePieces.all Piece.isEmpty then "" else " "
  s.predicatePieces ++ s.limit.pieces d lead

/-- The selection after the head of a statement. -/
def tail (d : Dialect) (s : Selection) : List Piece :=
  let condition :=
    match s.predicate with
    | some p => .text " WHERE " :: p.pieces
    | none => []
  condition ++ s.limit.pieces d " "

end Selection

end RelMap
