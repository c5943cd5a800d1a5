-- SUMMARY: The kinds of condition nodes and their codes.
import RelMap.Error

/-!
# Kinds of conditions

Each kind of condition node has a stable numeric code and a label that errors use.
Main statement: codes and kinds determine each other.
-/
namespace RelMap

/-- The two junctions of any number of clauses. -/
inductive Junction where
  | and | or
  deriving DecidableEq, Repr

/-- The operators between a column and one value. -/
inductive Comparison where
  | eq | ne | gt | lt | gte | lte | like | notLike
  deriving DecidableEq, Repr

/-- The kind of a condition node. Where a kind has a negated form, the flag tells
the two apart. -/
inductive ConditionKind where
  | junction (op : Junction)
  | not
  | compare (op : Comparison)
  /-- A column in a list that is bound as one argument. -/
  | inList (negated : Bool)
  | between (negated : Bool)
  | existence (negated : Bool)
  | inSubquery (negated : Bool)
  /-- A column in a list of values that are bound one by one. -/
  | inValues (negated : Bool)
  | limit
  | custom
  deriving DecidableEq, Repr

namespace Junction

/-- The keyword of the junction. -/
def keyword : Junction → String
  | .and => "AND"
  | .or => "OR"

end Junction

namespace Comparison

/-- The operator in SQL. -/
def operator : Comparison → String
  | .eq => "="
  | .ne => "<>"
  | .gt => ">"
  | .lt => "<"
  | .gte => ">="
  | .lte => "<="
  | .like => "LIKE"
  | .notLike => "NOT LIKE"

def label : Comparison → String
  | .eq => "EQ"
  | .ne => "NE"
  | .gt => "GT"
  | .lt => "LT"
  | .gte => "GTE"
  | .lte => "LTE"
  | .like => "LIKE"
  | .notLike => "NOT LIKE"

end Comparison

namespace ConditionKind

/-- `NOT ` before the keyword of a negated kind. -/
def negation (negated : Bool) : String := if negated then "NOT " else ""

def label : ConditionKind → String
  | .junction op => op.keyword
  | .not => "NOT"
  | .compare op => op.label
  | .inList negated => negation negated ++ "IN"
  | .between negated => negation negated ++ "BETWEEN"
  | .existence negated => negation negated ++ "EXISTS"
  | .inSubquery negated => negation negated ++ "IN (subquery)"
  | .inValues negated => negation negated ++ "IN (values)"
  | .limit => "LIMIT"
  | .custom => "CUSTOM"

def code : ConditionKind → Nat
  | .junction .or => 1
  | .junction .and => 2
  | .not => 3
  | .inList false => 4
  | .inList true => 5
  | .compare .eq => 6
  | .compare .ne => 7
  | .compare .gt => 8
  | .compare .lt => 9
  | .compare .gte => 10
  | .compare .lte => 11
  | .compare .like => 12
  | .compare .notLike => 13
  | .between false => 14
  | .between true => 15
  | .existence false => 16
  | .existence true => 17
  | .inSubquery false => 18
  | .inValues false => 19
  | .inSubquery true => 20
  | .inValues true => 21
  | .limit => 22
  | .custom => 23

/-- All kinds, in the order of their codes. -/
def all : List ConditionKind :=
  [.junction .or, .junction .and, .not, .inList false, .inList true,
    .compare .eq, .compare .ne, .compare .gt, .compare .lt, .compare .gte, .compare .lte,
    .compare .like, .compare .notLike, .between false, .between true, .existence false,
    .existence true, .inSubquery false, .inValues false, .inSubquery true, .inValues true,
    .limit, .custom]

/-- The kind with a code. -/
def ofCode (code : Nat) : Result ConditionKind :=
  match all.find? (·.code == code) with
  | some kind => .ok kind
  | none => .error (.unknownConditionKind code)

/-- Whether columns that stand as operands are clauses. -/
def takesClauses : ConditionKind → Bool
  | .junction _ | .not => true
  | _ => false

end ConditionKind

end RelMap
