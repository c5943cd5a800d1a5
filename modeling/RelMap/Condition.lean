-- SUMMARY: Query conditions as trees, their constructors, and filters.
import RelMap.Condition.Kind
import RelMap.Coercion

/-!
# Conditions

A condition is a node of some kind with an optional left and right operand and a
list of further operands. The constructors only shape the tree; whether the
operands fit the kind is checked where a condition is resolved. A `Filter` is what
restricts a statement: nothing, a condition, or a clause that the caller wrote.
-/
namespace RelMap

/-- A slot of a condition node. -/
inductive Operand where
  /-- A value, bound as an argument. -/
  | value (v : Value)
  /-- A column. As a clause it stands for the column having its current value. -/
  | column (name : String)
  /-- SQL text of the caller. -/
  | raw (sql : String)
  /-- A nested condition. -/
  | node (kind : ConditionKind) (left right : Option Operand) (args : List Operand)

/-- A condition node. -/
structure Condition where
  kind : ConditionKind
  left : Option Operand := none
  right : Option Operand := none
  args : List Operand := []

namespace Operand

/-- The value, if the operand is one. -/
def value? : Operand → Option Value
  | .value v => some v
  | _ => none

/-- The column, if the operand is one. -/
def column? : Operand → Option String
  | .column name => some name
  | _ => none

/-- The SQL text, if the operand is one. -/
def raw? : Operand → Option String
  | .raw sql => some sql
  | _ => none

/-- Whether the operand is a LIMIT node. -/
def isLimit : Operand → Bool
  | .node .limit .. => true
  | _ => false

/-! ## Counting values -/

mutual

/-- How many arguments an operand binds at most; a column binds one where it is a
clause. -/
def valueCount (clause : Bool) : Operand → Nat
  | .value _ => 1
  | .column _ => if clause then 1 else 0
  | .raw _ => 0
  | .node kind left right args =>
    valueCountOption kind.takesClauses left + valueCountOption kind.takesClauses right +
      valueCountList kind.takesClauses args

/-- `valueCount` of an operand that may be missing. -/
def valueCountOption (clause : Bool) : Option Operand → Nat
  | none => 0
  | some o => valueCount clause o

/-- `valueCount` summed over operands. -/
def valueCountList (clause : Bool) : List Operand → Nat
  | [] => 0
  | o :: os => valueCount clause o + valueCountList clause os

end

end Operand

namespace Condition

/-- The condition as an operand of another. -/
def toOperand (c : Condition) : Operand := .node c.kind c.left c.right c.args

/-- How many arguments the condition binds at most. -/
def valueCount (c : Condition) : Nat := c.toOperand.valueCount false

/-! ## Constructors -/

/-- A column against one value. -/
def compare (op : Comparison) (column : String) (v : Value) : Condition :=
  { kind := .compare op, left := some (.column column), right := some (.value v) }

/-- A column in a list of values that is bound as one argument. -/
def inList (negated : Bool) (column : String) (values : List Value) : Condition :=
  { kind := .inList negated, left := some (.column column), right := some (.value (.list values)) }

/-- A column between two bounds. -/
def between (negated : Bool) (column : String) (low high : Value) : Condition :=
  { kind := .between negated, left := some (.column column), args := [.value low, .value high] }

/-- Whether a subquery yields a row. -/
def existence (negated : Bool) (subquery : String) : Condition :=
  { kind := .existence negated, left := some (.raw subquery) }

/-- A column in the result of a subquery. -/
def inSubquery (negated : Bool) (column subquery : String) : Condition :=
  { kind := .inSubquery negated, left := some (.column column), right := some (.raw subquery) }

/-- A column in a list of values that are bound one by one. -/
def inValues (negated : Bool) (column : String) (values : List Value) : Condition :=
  { kind := .inValues negated, left := some (.column column), args := values.map .value }

/-- At most so many rows. -/
def limit (count : Value) : Condition := { kind := .limit, args := [.value count] }

/-- At most so many rows, after the first ones are skipped. -/
def limitOffset (offset count : Value) : Condition :=
  { kind := .limit, args := [.value offset, .value count] }

/-- A fragment of SQL with the arguments of its placeholders. -/
def custom (sql : String) (args : List Value) : Condition :=
  { kind := .custom, args := .raw sql :: args.map .value }

/-- The conjunction or disjunction of clauses. -/
def junction (op : Junction) (clauses : List Operand) : Condition :=
  { kind := .junction op, args := clauses }

/-- The negation of a clause. -/
def negate (clause : Operand) : Condition := { kind := .not, left := some clause }

end Condition

/-- What restricts a statement. -/
inductive Filter where
  | none
  | condition (c : Condition)
  /-- A clause that the caller wrote, with the arguments of its placeholders. -/
  | raw (clause : String) (args : List Value)

namespace Filter

/-- A clause that renders nothing: blank, or a dash. -/
def isBlank (clause : String) : Bool :=
  let cs := Text.trim clause.toList
  cs.isEmpty || cs == ['-']

/-- Whether the filter has nothing to render. A condition always has. -/
def isEmpty : Filter → Bool
  | .none => true
  | .condition _ => false
  | .raw clause _ => isBlank clause

/-- How many arguments the filter binds at most. -/
def valueCount : Filter → Nat
  | .none => 0
  | .condition c => c.valueCount
  | .raw _ args => args.length

/-- A condition that may be missing. -/
def ofOption : Option Condition → Filter
  | some c => .condition c
  | Option.none => .none

/-- A clause without arguments. -/
def ofText (clause : String) : Filter := .raw clause []

end Filter

end RelMap
