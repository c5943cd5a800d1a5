-- SUMMARY: The connection that a PostgreSQL URL describes.
import RelMap.Error
import RelMap.Url

/-!
# PostgreSQL connection URLs

A connection URL has a scheme of PostgreSQL, a host and a path. User, password and
database are taken as the URL stores them, percent-encoded.
-/
namespace RelMap.Postgres

/-- Where to connect to, and as whom. -/
structure Config where
  host : String
  port : Option Nat
  user : Option String
  password : Option String
  database : String
  deriving DecidableEq, Repr

namespace Config

def isScheme (scheme : String) : Bool := scheme = "postgresql" ∨ scheme = "postgres"

/-- The connection of a URL. -/
def ofUrl (u : Url) : Result Config :=
  if !isScheme u.scheme then
    .error (.invalidArgument
      ("connection URL does not have a \x60postgresql\x60 scheme; url=" ++ u.text))
  else
    match u.host with
    | none => .error (.invalidArgument ("missing host in connection URL; url=" ++ u.text))
    | some host =>
      if u.path.isEmpty then
        .error (.invalidArgument
          ("no database specified - missing path in connection URL; url=" ++ u.text))
      else .ok {
        host := String.ofList host
        port := u.port
        user := if u.username.isEmpty then none else some (String.ofList u.username)
        password := u.password.map String.ofList
        database := String.ofList (u.path.dropWhile (· = '/')) }

/-- The connection of a URL that is given as text. -/
def ofText (url : String) : Result Config :=
  match Url.ofText url with
  | .ok u => ofUrl u
  | .error e => .error (.driverMessage e.message)

end Config

end RelMap.Postgres
