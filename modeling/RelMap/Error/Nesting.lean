-- SUMMARY: Errors that are made of errors, of this library or of others.
import RelMap.Error

/-!
# Errors in errors

An `Error` holds the texts of the errors that it was made of. A `Chain` holds these errors
themselves: those of other libraries, which may hold errors of this one again, and so on. What is
displayed of a driver error is put together by a walk through the errors behind the one that it was
made of, each of which displays itself in its own way.
-/
namespace RelMap

namespace Error

mutual

/-- An error of any library. -/
inductive Failure where
  /-- An error of another library that has no source. -/
  | last (message : String)
  /-- An error of another library with its source. -/
  | after (message : String) (source : Failure)
  /-- An error of this library. -/
  | own (e : Chain)

/-- An error of this library: a cause, or one that is a context of another error. -/
inductive Chain where
  | root (l : Link)
  | context (l : Link) (behind : Chain)

/-- A cause with the error that it was made of. -/
inductive Link where
  /-- A cause that was made of none. -/
  | plain (c : Cause) (alone : c.sources = [])
  | foreign (f : Failure)
  | driver (f : Failure)

end

/-- What a walk writes that visits errors with these texts. -/
def trail : List String → String
  | [] => ""
  | m :: ms => ": " ++ m ++ trail ms

mutual

/-- What is displayed of an error. -/
def Failure.text : Failure → String
  | .last message => message
  | .after message _ => message
  | .own e => e.text

def Chain.text : Chain → String
  | .root l => l.text
  | .context l behind => l.text ++ ": " ++ behind.text

/-- A foreign error displays itself only. A driver error displays what it was made of, and then all
errors behind that. -/
def Link.text : Link → String
  | .plain c _ => c.message
  | .foreign f => f.text
  | .driver f => f.text ++ trail f.sources

/-- What is displayed of the errors behind one, nearest first. -/
def Failure.sources : Failure → List String
  | .last _ => []
  | .after _ f => f.text :: f.sources
  | .own e => e.sources

/-- Only the outermost cause is asked. -/
def Chain.sources : Chain → List String
  | .root l => l.sources
  | .context l _ => l.sources

/-- The source of a foreign error is what it was made of. That of a driver error displays all that
the driver error does, and what it was made of comes only then. -/
def Link.sources : Link → List String
  | .plain .. => []
  | .foreign f => f.text :: f.sources
  | .driver f => (f.text ++ trail f.sources) :: f.text :: f.sources

end

/-- The driver error that is made of an error of any library. -/
def Chain.ofFailure (f : Failure) : Chain := .root (.driver f)

/-- The driver error that is made of an error of this library. -/
def Chain.wrap (e : Chain) : Chain := ofFailure (.own e)

/-- The cause with texts in place of errors. -/
def Link.cause : Link → Cause
  | .plain c _ => c
  | .foreign f => .foreign f.text f.sources
  | .driver f => .driver f.text f.sources

/-- The error with texts in place of errors. -/
def Chain.error : Chain → Error
  | .root l => .ofCause l.cause
  | .context l behind => behind.error.context (.ofCause l.cause)

end Error

end RelMap
