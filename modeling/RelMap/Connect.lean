-- SUMMARY: Databases of the bundled drivers, chosen by the scheme of a URL.
import RelMap.Database
import RelMap.Postgres.Config
import RelMap.Sqlite.Connection

/-!
# Connecting by URL

The scheme of a URL chooses the driver, and the driver checks the rest of the URL.
The driver's dialect is used unless another was chosen.
-/
namespace RelMap

/-- What a bundled driver connects to. -/
inductive Endpoint where
  | sqlite (path : String)
  | postgresql (config : Postgres.Config)
  deriving DecidableEq, Repr

namespace Endpoint

/-- The dialect of the driver. -/
def dialect : Endpoint → Dialect
  | .sqlite _ => .sqlite
  | .postgresql _ => .postgresql

/-- The endpoint that a URL names. -/
def ofText (url : String) : Result Endpoint :=
  match Url.ofText url with
  | .error e =>
    .error (.invalidArgument ("invalid database url \x60" ++ url ++ "\x60: " ++ e.message))
  | .ok u =>
    if Postgres.Config.isScheme u.scheme then .postgresql <$> Postgres.Config.ofUrl u
    else if u.scheme = "sqlite" then .sqlite <$> Sqlite.pathOf url
    else if u.scheme = "mysql" then
      .error (.invalidArgument "no bundled MySQL driver; pass an executor to \x60build\x60")
    else
      .error (.invalidArgument
        ("unsupported database; scheme=" ++ u.scheme ++ "; url=" ++ url))

end Endpoint

/-- Build the database that a URL names. -/
def Builder.connect (b : Builder) (url : String) : Result Database :=
  match Endpoint.ofText url with
  | .ok endpoint => b.build (some endpoint.dialect)
  | .error e => .error e

/-- The database that a URL names, with no other setting. -/
def Database.connect (url : String) : Result Database := ({} : Builder).connect url

end RelMap
