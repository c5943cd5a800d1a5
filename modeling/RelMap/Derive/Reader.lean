-- SUMMARY: Reading tokens one after the other, and what is said when one is missing.
import RelMap.Derive.Token

/-!
# Readers

A `Reader` takes tokens from the front of those ahead. Within a group it sees only
the tokens of the group, and tokens that are left there are noted: the first of
them is an error if nothing else fails. An error says what was expected. What is
read is written again on the way, with the signs of one operator joint and all others
apart.
-/
namespace RelMap.Derive

/-- What is wrong with source text. -/
inductive SyntaxError where
  /-- The text has no tokens. -/
  | lexical
  /-- Something else was expected, perhaps after the last token. -/
  | expected (what : List String) (atEnd : Bool)
  /-- A keyword stands for a name. -/
  | keyword (name : String)
  /-- A token is left in a group, or after everything if that is invisible. -/
  | stray (d : Delimiter)
  /-- An attribute lacks its arguments. -/
  | bareAttribute (name : String)
  /-- An attribute has its value after an equals sign. -/
  | valueAttribute (name : String)
  /-- Another rule is broken. -/
  | rule (text : String)
  deriving DecidableEq, Repr

namespace SyntaxError

/-- The alternatives that were expected. -/
def alternatives : List String → String
  | [] => "unexpected token"
  | [a] => "expected " ++ a
  | [a, b] => "expected " ++ a ++ " or " ++ b
  | many => "expected one of: " ++ ", ".intercalate many

def message : SyntaxError → String
  | .lexical => "cannot parse string into token stream"
  | .expected [] true => "unexpected end of input"
  | .expected what atEnd => (if atEnd then "unexpected end of input, " else "") ++ alternatives what
  | .keyword name => "expected identifier, found keyword \x60" ++ name ++ "\x60"
  | .stray .parenthesis => "unexpected token, expected \x60)\x60"
  | .stray .brace => "unexpected token, expected \x60\x7d\x60"
  | .stray .bracket => "unexpected token, expected \x60]\x60"
  | .stray .invisible => "unexpected token"
  | .bareAttribute name => "expected attribute arguments in parentheses: #[" ++ name ++ "(...)]"
  | .valueAttribute name => "expected parentheses: #[" ++ name ++ "(...)]"
  | .rule text => text

end SyntaxError

/-- The tokens ahead, the first group in which some were left, and what was written. -/
structure ReaderState where
  ahead : List Token
  left : Option Delimiter := none
  written : List Token := []

abbrev Reader := StateT ReaderState (Except SyntaxError)

/-- How an operator or a word is named in messages. -/
def shown (s : String) : String := "\x60" ++ s ++ "\x60"

/-- Words that are no names unless they are raw. -/
def keywords : List String :=
  ["_", "abstract", "as", "async", "await", "become", "box", "break", "const", "continue", "crate",
    "do", "dyn", "else", "enum", "extern", "false", "final", "fn", "for", "if", "impl", "in", "let",
    "loop", "macro", "match", "mod", "move", "mut", "override", "priv", "pub", "ref", "return",
    "Self", "self", "static", "struct", "super", "trait", "true", "try", "type", "typeof", "unsafe",
    "unsized", "use", "virtual", "where", "while", "yield"]

/-! ## Looking at tokens -/

namespace Ahead

/-- Whether an operator is next. -/
def op : List Char → List Token → Bool
  | [], _ => true
  | [c], .punct d _ :: _ => c == d
  | c :: cs, .punct d true :: rest => c == d && op cs rest
  | _, _ => false

/-- Whether a word is next. -/
def word (w : String) : List Token → Bool
  | .ident name :: _ => name == w
  | _ => false

/-- Whether a name is next. -/
def name : List Token → Bool
  | .ident name :: _ => name ∉ keywords
  | _ => false

/-- Whether a name or a keyword is next. -/
def anyWord : List Token → Bool
  | .ident _ :: _ => true
  | _ => false

def lifetime : List Token → Bool
  | .lifetime _ :: _ => true
  | _ => false

/-- Whether a group is next. -/
def group (d : Delimiter) : List Token → Bool
  | .group e _ :: _ => d == e
  | _ => false

/-- How many tokens a literal takes; a number may be negative. -/
def literalLength : List Token → Nat
  | .literal _ :: _ => 1
  | .ident name :: _ => if name == "true" || name == "false" then 1 else 0
  | .punct '-' _ :: .literal l :: _ => if l.kind == .number then 2 else 0
  | _ => 0

/-- Whether the path separator is next. -/
def colons : List Token → Bool := op [':', ':']

end Ahead

/-! ## Taking tokens -/

namespace Reader

def ahead : Reader (List Token) := return (← get).ahead

/-- Whether the tokens ahead are as `test` wants them. -/
def next (test : List Token → Bool) : Reader Bool := return test (← ahead)

def atEnd : Reader Bool := next (·.isEmpty)

/-- Drop tokens. -/
def drop (n : Nat) : Reader Unit := modify fun s => { s with ahead := s.ahead.drop n }

/-- Write tokens. -/
def write (tokens : List Token) : Reader Unit :=
  modify fun s => { s with written := s.written ++ tokens }

/-- Take tokens and write them as they are. -/
def take (n : Nat) : Reader Unit := do
  write ((← ahead).take n)
  drop n

/-- Read something, and hand out what it would write. -/
def aside (reader : Reader α) : Reader (α × List Token) := do
  let before := (← get).written
  modify fun s => { s with written := [] }
  let a ← reader
  let tokens := (← get).written
  modify fun s => { s with written := before }
  return (a, tokens)

/-- Read something, and write it as it is. -/
def verbatim (reader : Reader α) : Reader α := do
  let before ← ahead
  let (a, _) ← aside reader
  let after ← ahead
  write (before.take (before.length - after.length))
  return a

/-- Fail for want of one of some things. -/
def missing (what : List String) : Reader α := do
  throw (.expected what (← ahead).isEmpty)

/-- Take an operator if it is next. -/
def op? (s : String) : Reader Bool := do
  if ← next (Ahead.op s.toList) then
    drop s.length
    write (Token.op s.toList)
    return true
  else return false

/-- Take a keyword if it is next. -/
def word? (w : String) : Reader Bool := do
  if ← next (Ahead.word w) then
    take 1
    return true
  else return false

/-- Take an operator. -/
def op (s : String) : Reader Unit := do
  if !(← op? s) then missing [shown s]

/-- Take a keyword. -/
def word (w : String) : Reader Unit := do
  if !(← word? w) then missing [shown w]

/-- Take a name. -/
def name : Reader String := do
  match ← ahead with
  | .ident n :: _ =>
    if n ∈ keywords then throw (.keyword n)
    else
      take 1
      return n
  | _ => missing ["identifier"]

/-- Take a name or a keyword. -/
def anyWord : Reader String := do
  match ← ahead with
  | .ident n :: _ =>
    take 1
    return n
  | _ => missing ["identifier"]

def lifetime : Reader Unit := do
  if ← next Ahead.lifetime then take 1 else missing ["lifetime"]

/-- How a group is named in messages. -/
def groupName : Delimiter → String
  | .parenthesis => "parentheses"
  | .brace => "curly braces"
  | .bracket => "square brackets"
  | .invisible => "invisible group"

/-- Take a group and read in it; tokens that are left there are noted. -/
def within (d : Delimiter) (body : Reader α) : Reader α := do
  match ← ahead with
  | .group e tokens :: rest =>
    if d = e then
      modify fun s => { s with ahead := tokens }
      let (a, inner) ← aside body
      modify fun s =>
        { s with ahead := rest, left := s.left.or (if s.ahead.isEmpty then none else some d) }
      write [.group d inner]
      return a
    else missing [groupName d]
  | _ => missing [groupName d]

/-- Read elements with a separator between two, until `stop` holds or no separator
follows; a separator may follow the last one. -/
def separated (stop : List Token → Bool) (separator : String) (element : Reader α) :
    Nat → Reader (List α)
  | 0 => return []
  | n + 1 => do
    if ← next stop then return []
    let a ← element
    if ← op? separator then return a :: (← separated stop separator element n)
    else return [a]

/-- Read elements with a comma between two, until `stop` holds; a comma may follow
the last one. -/
def listed (stop : List Token → Bool) (element : Reader α) : Nat → Reader (List α)
  | 0 => return []
  | n + 1 => do
    if ← next stop then return []
    let a ← element
    if ← next stop then return [a]
    op ","
    return a :: (← listed stop element n)

/-- Read elements as long as `more` holds. -/
def many (more : List Token → Bool) (element : Reader α) : Nat → Reader (List α)
  | 0 => return []
  | n + 1 => do
    if ← next more then
      let a ← element
      return a :: (← many more element n)
    else return []

/-- A bound on how many elements can be ahead. -/
def limit : Reader Nat := return (← ahead).length + 1

/-- Read all tokens ahead as elements with commas between them. -/
def terminated (element : Reader α) : Reader (List α) := do
  listed (·.isEmpty) element (← limit)

/-- Read every token. -/
def run (reader : Reader α) (tokens : List Token) : Except SyntaxError α := do
  let (a, s) ← StateT.run reader { ahead := tokens }
  match s.left with
  | some d => throw (.stray d)
  | none => if s.ahead.isEmpty then return a else throw (.stray .invisible)

end Reader

end RelMap.Derive
