-- SUMMARY: Conditions with checked operands, and their SQL.
import RelMap.Condition
import RelMap.Sql.Piece

/-!
# Predicates

A `Predicate` is a condition whose operands fit their kinds and whose clauses that
name a column carry the column's current value. `Operand.resolve` checks a
condition from left to right and reports the first misfit; after that nothing can
fail, and `Predicate.pieces` writes the SQL. No dialect is involved.

Junctions are written without grouping, `NOT` encloses its clause.
-/
namespace RelMap

/-- Looks up the current value of a bound column. -/
abbrev Lookup := String → Option Value

/-- A condition with checked operands. -/
inductive Predicate where
  | compare (column : String) (op : Comparison) (v : Value)
  | inList (negated : Bool) (column : String) (list : Value)
  | between (negated : Bool) (column : String) (low high : Value)
  | existence (negated : Bool) (subquery : String)
  | inSubquery (negated : Bool) (column subquery : String)
  | inValues (negated : Bool) (column : String) (values : List Value)
  | fragment (sql : String) (args : List Value)
  | junction (op : Junction) (clauses : List Predicate)
  | not (clause : Predicate)

/-! ## Misfits -/

/-- What is wrong with a condition. -/
inductive Malformed where
  | noLeftColumn (kind : ConditionKind)
  | noRightValue (kind : ConditionKind)
  | argumentNotValue (kind : ConditionKind)
  | noClauses (op : Junction)
  | noClause
  | notTwoBounds (negated : Bool)
  | noSubquery (negated : Bool)
  | noRightSubquery (negated : Bool)
  | noValues (negated : Bool)
  | noFragment
  | unknownColumn (name : String)
  | bareValue (variant : String)
  | limitInside
  | twoLimits
  | tooManyLimitValues
  deriving DecidableEq, Repr

namespace Malformed

def message : Malformed → String
  | .noLeftColumn kind => kind.label ++ " requires a column on the left"
  | .noRightValue kind => kind.label ++ " requires a value on the right"
  | .argumentNotValue kind => kind.label ++ " arguments must be values"
  | .noClauses op => op.keyword ++ " requires at least one operand"
  | .noClause => "NOT requires an operand"
  | .notTwoBounds negated =>
    (ConditionKind.between negated).label ++ " requires exactly two bounds"
  | .noSubquery negated => (ConditionKind.existence negated).label ++ " requires a subquery"
  | .noRightSubquery negated =>
    (ConditionKind.inSubquery negated).label ++ " requires a subquery on the right"
  | .noValues negated =>
    (ConditionKind.inValues negated).label ++ " requires at least one value"
  | .noFragment => "CUSTOM requires a SQL fragment"
  | .unknownColumn name => "unknown column \x60" ++ name ++ "\x60"
  | .bareValue variant => "a bare " ++ variant ++ " value is not a clause"
  | .limitInside => "LIMIT must be the filter root or a direct child of the root AND"
  | .twoLimits => "LIMIT appears more than once"
  | .tooManyLimitValues => "LIMIT takes at most two values"

/-- The misfit as an error. -/
def toError (m : Malformed) : Error := .malformedCondition m.message

end Malformed

/-- Results of checking conditions. -/
abbrev Checked := Except Malformed

/-! ## Checking operands -/

namespace Operand

/-- The column on the left. -/
def leftColumn (kind : ConditionKind) (left : Option Operand) : Checked String :=
  match left.bind column? with
  | some name => .ok name
  | none => .error (.noLeftColumn kind)

/-- The value on the right. -/
def rightValue (kind : ConditionKind) (right : Option Operand) : Checked Value :=
  match right.bind value? with
  | some v => .ok v
  | none => .error (.noRightValue kind)

/-- The values that all further operands are. -/
def argValues (kind : ConditionKind) (args : List Operand) : Checked (List Value) :=
  match args.mapM value? with
  | some values => .ok values
  | none => .error (.argumentNotValue kind)

/-- Check a node that holds no clauses. -/
def resolveAtom (kind : ConditionKind) (left right : Option Operand) (args : List Operand) :
    Checked Predicate :=
  match kind with
  | .compare op => do
    let name ← leftColumn kind left
    let v ← rightValue kind right
    return .compare name op v
  | .inList negated => do
    let name ← leftColumn kind left
    let list ← rightValue kind right
    return .inList negated name list
  | .between negated => do
    let name ← leftColumn kind left
    match ← argValues kind args with
    | [low, high] => return .between negated name low high
    | _ => .error (.notTwoBounds negated)
  | .existence negated =>
    match left.bind raw? with
    | some subquery => .ok (.existence negated subquery)
    | none => .error (.noSubquery negated)
  | .inSubquery negated => do
    let name ← leftColumn kind left
    match right.bind raw? with
    | some subquery => return .inSubquery negated name subquery
    | none => .error (.noRightSubquery negated)
  | .inValues negated => do
    let name ← leftColumn kind left
    match ← argValues kind args with
    | [] => .error (.noValues negated)
    | values => return .inValues negated name values
  | .custom =>
    match args with
    | .raw sql :: rest => return .fragment sql (← argValues kind rest)
    | _ => .error .noFragment
  | .limit | .junction _ | .not => .error .limitInside

mutual

/-- Check an operand that stands as a clause. -/
def resolve (lookup : Lookup) : Operand → Checked Predicate
  | .value v => .error (.bareValue v.variantName)
  | .column name =>
    match lookup name with
    | some v => .ok (.compare name .eq v)
    | none => .error (.unknownColumn name)
  | .raw sql => .ok (.fragment sql [])
  | .node (.junction op) _ _ args =>
    match resolveAll lookup args with
    | .ok [] => .error (.noClauses op)
    | .ok clauses => .ok (.junction op clauses)
    | .error m => .error m
  | .node .not left _ _ =>
    match resolveOption lookup left with
    | .ok clause => .ok (.not clause)
    | .error m => .error m
  | .node kind left right args => resolveAtom kind left right args

/-- Check the operand of a negation. -/
def resolveOption (lookup : Lookup) : Option Operand → Checked Predicate
  | none => .error .noClause
  | some o => resolve lookup o

/-- Check clauses from left to right. -/
def resolveAll (lookup : Lookup) : List Operand → Checked (List Predicate)
  | [] => .ok []
  | o :: os =>
    match resolve lookup o with
    | .ok clause =>
      match resolveAll lookup os with
      | .ok clauses => .ok (clause :: clauses)
      | .error m => .error m
    | .error m => .error m

end

end Operand

/-! ## Writing -/

namespace Predicate

/-- Values to bind, with commas between them. -/
def list (values : List Value) : List Piece :=
  Piece.separated ", " (values.map fun v => [.bind v])

mutual

/-- The pieces of a predicate. -/
def pieces : Predicate → List Piece
  | .compare column op v => [.text (column ++ " " ++ op.operator ++ " "), .bind v]
  | .inList negated column list =>
    [.text (column ++ " " ++ ConditionKind.negation negated ++ "IN ("), .bind list, .text ")"]
  | .between negated column low high =>
    [.text (column ++ " " ++ ConditionKind.negation negated ++ "BETWEEN "), .bind low,
      .text " AND ", .bind high]
  | .existence negated subquery =>
    [.text (ConditionKind.negation negated ++ "EXISTS (" ++ subquery ++ ")")]
  | .inSubquery negated column subquery =>
    [.text (column ++ " " ++ ConditionKind.negation negated ++ "IN (" ++ subquery ++ ")")]
  | .inValues negated column values =>
    .text (column ++ " " ++ ConditionKind.negation negated ++ "IN (") ::
      list values ++ [.text ")"]
  | .fragment sql args => [.fragment sql args]
  | .junction op clauses => Piece.separated (" " ++ op.keyword ++ " ") (piecesOf clauses)
  | .not clause => .text "NOT (" :: clause.pieces ++ [.text ")"]

/-- The pieces of each clause. -/
def piecesOf : List Predicate → List (List Piece)
  | [] => []
  | clause :: clauses => clause.pieces :: piecesOf clauses

end

end Predicate

end RelMap
