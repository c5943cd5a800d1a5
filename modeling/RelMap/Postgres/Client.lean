-- SUMMARY: A PostgreSQL client: what it sends to a server and what it makes of the answer.
import RelMap.Executor
import RelMap.Postgres.Config
import RelMap.Postgres.Decode

/-!
# The PostgreSQL client

A `Server` is what the other side will say: the types of a prepared statement, the
rows or the refusal of its execution. An `Exchange` is the outcome of one operation
together with everything that reached the server. The client logs in, prepares the
statement, counts and encodes the arguments, and only then executes it.
-/
namespace RelMap.Postgres

/-- A column of a result. -/
structure Column where
  name : String
  type : PgType
  deriving DecidableEq, Repr

/-- What a server says in the course of one operation. -/
structure Server where
  params : List PgType
  columns : List Column
  rows : List (List (Option Bytes))
  /-- The command tag that ends an execution. -/
  tag : String
  /-- The message with which the execution is refused. -/
  refusal : Option String
  asksPassword : Bool

/-- What reached a server. -/
structure Sent where
  user : Option String
  database : String
  password : Option String := none
  sql : Option String := none
  batch : Option String := none
  params : Option (List (Option Bytes)) := none

/-- The outcome of an operation, and what was sent if the client got to connect. -/
structure Exchange (α : Type) where
  result : Result α
  sent : Option Sent

/-- A failure to log in, and what was sent until then. -/
structure LoginFailure where
  error : Error
  sent : Option Sent

/-- An error of the client and the error behind it. -/
def clientError (message : String) (sources : List String) : Error :=
  .ofCause (.driver message sources)

namespace Server

/-- Fail if the server refuses the execution. -/
def execute (s : Server) (a : α) : Result α :=
  match s.refusal with
  | some message => .error (clientError "db error" ["ERROR: " ++ message])
  | none => .ok a

end Server

/-! ## Arguments -/

/-- Encode arguments in order, the first being number `i`, up to the first that
fails. -/
def encodeAll (i : Nat) : List (PgType × Value) → Result (List (Option Bytes))
  | [] => .ok []
  | (ty, v) :: rest =>
    match encode ty v with
    | .error e =>
      .error (clientError ("error serializing parameter " ++ Digits.natText i) [e.message])
    | .ok b =>
      match encodeAll (i + 1) rest with
      | .error e => .error e
      | .ok bs => .ok (b :: bs)

/-- The arguments of a statement with parameters of the given types. -/
def bindArgs (types : List PgType) (args : List Value) : Result (List (Option Bytes)) :=
  if types.length = args.length then encodeAll 0 (types.zip args)
  else
    .error (clientError ("expected " ++ Digits.natText types.length ++ " parameters but got " ++
      Digits.natText args.length) [])

/-! ## Results -/

/-- Column number `i` of a row. -/
def loadColumn (i : Nat) (c : Column) (b : Option Bytes) : Result Value :=
  match decode? c.type b with
  | some (.ok v) => .ok v
  | some (.error e) =>
    .error (clientError ("error deserializing column " ++ Digits.natText i) [e.message])
  | none =>
    .error (.ofCause (.foreign ("unsupported PostgreSQL column type; ty=" ++ c.type.label ++
      "; column=" ++ c.name) []))

/-- The columns of a row, the first being number `i`, up to the first that fails. -/
def loadColumns (i : Nat) : List (Column × Option Bytes) → Result (List Value)
  | [] => .ok []
  | (c, b) :: rest =>
    match loadColumn i c b with
    | .error e => .error e
    | .ok v =>
      match loadColumns (i + 1) rest with
      | .error e => .error e
      | .ok vs => .ok (v :: vs)

/-- A row of a result. -/
def loadRow (columns : List Column) (raw : List (Option Bytes)) : Result Row :=
  match loadColumns 0 (columns.zip raw) with
  | .ok values => .ok ⟨values⟩
  | .error e => .error e

/-- The rows of a result; each is read on its own. -/
def Server.loadRows (s : Server) : Rows := s.rows.map (loadRow s.columns)

/-- The number of rows that a command tag reports: its last word, or 0. -/
def affectedRows (tag : String) : Nat :=
  let word := (tag.toList.reverse.takeWhile (· ≠ ' ')).reverse
  match Digits.toInt? false word with
  | some n => if IntType.u64.Holds n then n.toNat else 0
  | none => 0

/-! ## Operations -/

namespace Config

/-- Log in. -/
def login (c : Config) (s : Server) : Except LoginFailure Sent :=
  let sent : Sent := { user := c.user, database := c.database }
  if s.asksPassword then
    match c.password with
    | some password => .ok { sent with password := some password }
    | none =>
      .error ⟨clientError "invalid configuration" ["password missing"], some sent⟩
  else .ok sent

end Config

/-- Connect by a URL, and log in. -/
def connect (url : String) (s : Server) : Except LoginFailure Sent :=
  match Config.ofText url with
  | .ok c => c.login s
  | .error e => .error ⟨e, none⟩

/-- Go on after a login. -/
def Exchange.after (login : Except LoginFailure Sent) (next : Sent → Exchange α) : Exchange α :=
  match login with
  | .ok sent => next sent
  | .error f => ⟨.error f.error, f.sent⟩

/-- Prepare a statement, bind its arguments and execute it, for the answer `a`. -/
def runPrepared (s : Server) (sql : String) (args : List Value) (a : α) (sent : Sent) :
    Exchange α :=
  let sent := { sent with sql := some sql }
  match bindArgs s.params args with
  | .error e => ⟨.error e, some sent⟩
  | .ok params => ⟨s.execute a, some { sent with params := some params }⟩

/-- A client shows nothing of its connection in diagnostics. -/
def describe : String := "PostgreSQL \x7b .. \x7d"

/-- Run a statement for the number of rows that it affects. -/
def exec (url : String) (s : Server) (sql : String) (args : List Value) : Exchange ExecReply :=
  Exchange.after (connect url s) (runPrepared s sql args ⟨affectedRows s.tag, none⟩)

/-- Run a statement for its rows. -/
def query (url : String) (s : Server) (sql : String) (args : List Value) : Exchange Rows :=
  Exchange.after (connect url s) (runPrepared s sql args s.loadRows)

/-- Run a statement for its first row. -/
def queryRow (url : String) (s : Server) (sql : String) (args : List Value) :
    Exchange (Option Row) :=
  let x := query url s sql args
  ⟨x.result.bind Rows.first, x.sent⟩

/-- Run statements without arguments. -/
def batch (url : String) (s : Server) (sql : String) : Exchange Unit :=
  Exchange.after (connect url s) fun sent => ⟨s.execute (), some { sent with batch := some sql }⟩

end RelMap.Postgres
