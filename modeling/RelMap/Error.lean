-- SUMMARY: What can go wrong, with the context added on the way.

/-!
# Errors

An `Error` is a root cause under any number of contexts. Its text lists the
contexts, outermost first, and ends with the root cause. What kind of error it is
depends on the root cause alone, so context never changes it.
-/
namespace RelMap

/-- One reason for a failure. -/
inductive Cause where
  /-- An error of another library: its message and those of its sources. -/
  | foreign (message : String) (sources : List String)
  /-- A free-form message. -/
  | adhoc (message : String)
  /-- An error of a database driver: its message and those of its sources. -/
  | driver (message : String) (sources : List String)
  | invalidArgument (problem : String)
  | invalidDialect (name : String)
  | malformedCondition (problem : String)
  | notRegistered (typeName : String)
  | recordNotFound (detail : String)
  | typeConversion (source target : String)
  | unknownConditionKind (code : Nat)
  deriving DecidableEq, Repr

/-- The kinds of error that a caller can ask for. -/
inductive Category where
  | driver
  | invalidArgument
  | invalidDialect
  | malformedCondition
  | notRegistered
  | recordNotFound
  | typeConversion
  | unknownConditionKind
  deriving DecidableEq, Repr

namespace Cause

/-- Messages of a chain of sources, each after the one that it explains. -/
def chainText (messages : List String) : String := ": ".intercalate messages

def message : Cause → String
  | .foreign message _ => message
  | .adhoc message => message
  | .driver message sources => chainText (message :: sources)
  | .invalidArgument problem => "invalid argument: " ++ problem
  | .invalidDialect name => "unsupported SQL dialect: \x60" ++ name ++ "\x60"
  | .malformedCondition problem => "malformed condition: " ++ problem
  | .notRegistered typeName => "model not registered: " ++ typeName
  | .recordNotFound detail =>
    if detail.isEmpty then "record not found" else "record not found: " ++ detail
  | .typeConversion source target => "cannot convert " ++ source ++ " to " ++ target
  | .unknownConditionKind code => "unknown condition kind: " ++ toString code

/-- Foreign errors and free-form messages belong to no category. -/
def category : Cause → Option Category
  | .foreign .. | .adhoc _ => none
  | .driver .. => some .driver
  | .invalidArgument _ => some .invalidArgument
  | .invalidDialect _ => some .invalidDialect
  | .malformedCondition _ => some .malformedCondition
  | .notRegistered _ => some .notRegistered
  | .recordNotFound _ => some .recordNotFound
  | .typeConversion .. => some .typeConversion
  | .unknownConditionKind _ => some .unknownConditionKind

/-- The messages of the errors behind a cause. A driver error stands for itself
first, with its whole chain in one text. -/
def sources : Cause → List String
  | .foreign message rest => message :: rest
  | .driver message rest => chainText (message :: rest) :: message :: rest
  | _ => []

end Cause

/-- A root cause and the contexts around it, outermost first. -/
structure Error where
  root : Cause
  contexts : List Cause
  deriving DecidableEq, Repr

/-- Results of operations that can fail. -/
abbrev Result := Except Error

namespace Error

/-- The error with a cause and no context. -/
def ofCause (c : Cause) : Error := ⟨c, []⟩

/-- All causes, outermost context first, root cause last. -/
def causes (e : Error) : List Cause := e.contexts ++ [e.root]

/-- The cause that stands outermost. -/
def outermost (e : Error) : Cause := e.contexts.headD e.root

/-- The texts of all causes, outermost first. -/
def message (e : Error) : String := Cause.chainText (e.causes.map Cause.message)

/-- The category of the root cause. -/
def category (e : Error) : Option Category := e.root.category

/-- Whether the error is of a category. -/
def is (e : Error) (c : Category) : Bool := e.category == some c

/-- The messages of the errors behind the outermost cause. -/
def sources (e : Error) : List String := e.outermost.sources

/-- Add a context. Of a context that is a chain itself, only the outermost cause
is added. -/
def context (e c : Error) : Error := { e with contexts := c.outermost :: e.contexts }

/-- Add a context that is still in use elsewhere: only its text can be taken. -/
def contextShared (e c : Error) : Error :=
  { e with contexts := .adhoc c.outermost.message :: e.contexts }

/-- Wrap an error as one of a driver. -/
def driver (e : Error) : Error := ofCause (.driver e.message e.sources)

def adhoc (message : String) : Error := ofCause (.adhoc message)
def invalidArgument (problem : String) : Error := ofCause (.invalidArgument problem)
def invalidDialect (name : String) : Error := ofCause (.invalidDialect name)
def malformedCondition (problem : String) : Error := ofCause (.malformedCondition problem)
def notRegistered (typeName : String) : Error := ofCause (.notRegistered typeName)
def recordNotFound (detail : String) : Error := ofCause (.recordNotFound detail)
def typeConversion (source target : String) : Error := ofCause (.typeConversion source target)
def unknownConditionKind (code : Nat) : Error := ofCause (.unknownConditionKind code)

/-- A driver error with one message and no source. -/
def driverMessage (message : String) : Error := ofCause (.driver message [])

/-! ## Laws -/

@[simp] theorem category_context (e c : Error) : (e.context c).category = e.category := rfl

@[simp] theorem category_contextShared (e c : Error) :
    (e.contextShared c).category = e.category := rfl

/-- An error is of one category at most. -/
theorem eq_of_is {e : Error} {c d : Category} (hc : e.is c = true) (hd : e.is d = true) :
    c = d := by
  simp only [is, beq_iff_eq] at hc hd
  exact Option.some.inj (hc.symm.trans hd)

end Error

end RelMap
