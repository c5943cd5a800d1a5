-- SUMMARY: The storage classes of SQLite, binding values into them and reading them back.
import RelMap.Error
import RelMap.Executor

/-!
# SQLite storage

SQLite keeps a value in one of five storage classes. `Storage.bind` chooses the
class of an argument, and `Storage.load` reads a column back. Narrowing to the kind
of a field comes later, in coercion.
-/
namespace RelMap.Sqlite

/-- A stored value. Text is the bytes that encode it. -/
inductive Storage where
  | null
  | integer (n : Int64)
  | real (x : Binary64)
  | text (b : Bytes)
  | blob (b : Bytes)

/-- Why a value cannot be bound. -/
inductive BindError where
  /-- An integer beyond 64 bits with a sign. -/
  | tooLarge
  | list
  deriving DecidableEq, Repr

namespace BindError

def message : BindError → String
  | .tooLarge => "number too large to fit in target type"
  | .list => "SQLite cannot bind a list as a single argument"

/-- The driver reports the conversion failure, and the same message as its source. -/
def toError (e : BindError) : Error := .ofCause (.driver e.message [e.message])

end BindError

namespace Storage

/-- A stored number; NaN is stored as null. -/
def ofReal : Binary64 → Storage
  | .nan => .null
  | x => .real x

/-- The stored form of an argument. -/
def bind : Value → Except BindError Storage
  | .bool b => .ok (.integer (if b then 1 else 0))
  | .int n => if IntType.i64.Holds n.val then .ok (.integer (.ofInt n.val)) else .error .tooLarge
  | .f32 x => .ok (ofReal x.widen)
  | .f64 x => .ok (ofReal x)
  | .string s => .ok (.text (.ofText s))
  | .bytes b => .ok (.blob b)
  | .timestamp t => .ok (.text (.ofText (String.ofList t.text)))
  | .list _ => .error .list
  | .null => .ok .null

/-- Bind arguments in order, up to the first that cannot be bound. -/
def bindAll : List Value → Except BindError (List Storage)
  | [] => .ok []
  | v :: vs =>
    match bind v with
    | .error e => .error e
    | .ok x =>
      match bindAll vs with
      | .error e => .error e
      | .ok xs => .ok (x :: xs)

/-- The value of a column. Text that is not UTF-8 is bytes. -/
def load : Storage → Value
  | .null => .null
  | .integer n => .int (.ofInt64 n)
  | .real x => .f64 x
  | .text b =>
    match b.text? with
    | some s => .string s
    | none => .bytes b
  | .blob b => .bytes b

/-- The name of the storage class. -/
def typeName : Storage → String
  | .null => "null"
  | .integer _ => "integer"
  | .real _ => "real"
  | .text _ => "text"
  | .blob _ => "blob"

/-- The row of arguments that are selected as they are, each with its class. -/
def echo (args : List Value) : Result Row :=
  match bindAll args with
  | .error e => .error e.toError
  | .ok xs => .ok ⟨xs.flatMap fun x => [x.load, .string x.typeName]⟩

/-! ## Comparison with a row id -/

/-- The blanks that may stand around a number. -/
def isSpace (c : Char) : Bool := c ∈ [' ', '\t', '\n', '\x0b', '\x0c', '\r']

/-- The number that a text consists of. -/
def number? (cs : List Char) : Option Binary64 :=
  let cs := ((cs.dropWhile isSpace).reverse.dropWhile isSpace).reverse
  match cs with
  | '-' :: digits => (Decimal.ofText? digits).map (·.toBinary64 true)
  | '+' :: digits => (Decimal.ofText? digits).map (·.toBinary64 false)
  | digits => (Decimal.ofText? digits).map (·.toBinary64 false)

/-- The integer that a number equals, within 64 bits with a sign. -/
def integerOf (x : Binary64) : Option Int64 :=
  x.integer?.bind fun n => if IntType.i64.Holds n then some (.ofInt n) else none

/-- The row id that compares equal to a stored value: numbers compare by value,
text that reads as a number is one, and nothing equals null or a blob. -/
def rowId? : Storage → Option Int64
  | .integer n => some n
  | .real x => integerOf x
  | .text b => b.text?.bind fun s => (number? s.toList).bind integerOf
  | .null | .blob _ => none

/-! ## Laws -/

@[simp] theorem load_text_ofText (s : String) : (Storage.text (.ofText s)).load = .string s := by
  simp [load]

end Storage

end RelMap.Sqlite
