-- SUMMARY: Where expressions end, and how they are written again.
import RelMap.Derive.Reader

/-!
# Expressions

An expression stands for a constant in a type, or for a value that deriving does not
look at. It is not taken apart: only its end matters, and which of its signs belong to
one operator when it is written again.
-/
namespace RelMap.Derive

namespace Expression

/-- Words that stand between the operands of an expression, or before one. -/
def operatorWords : List String :=
  ["as", "async", "await", "break", "const", "continue", "else", "for", "if", "in", "let", "loop",
    "match", "move", "mut", "ref", "return", "unsafe", "while", "yield"]

/-- How many tokens an expression takes: it ends before a comma or a semicolon, and
before an operand that follows another. -/
def length (operandBefore : Bool) : List Token → Nat
  | [] => 0
  | .punct c _ :: rest => if c = ',' ∨ c = ';' then 0 else 1 + length false rest
  | .ident w :: rest =>
    if w ∈ operatorWords then 1 + length false rest
    else if operandBefore then 0
    else 1 + length true rest
  | .literal _ :: rest => if operandBefore then 0 else 1 + length true rest
  | _ :: rest => 1 + length true rest

/-- Whether an expression can start with the tokens ahead. -/
def isAhead : List Token → Bool
  | [] => false
  | .punct c _ :: _ => c ∈ ['-', '!', '*', '&', '|', '<', '#', ':', '.']
  | _ :: _ => true

/-! ## Operators -/

/-- Operators of several signs that can stand before an operand. -/
def prefixOperators : List String := ["...", "..=", "..", "::", "->", "=>"]

/-- Operators of several signs, the longer ones first. -/
def operators : List String :=
  ["<<=", ">>="] ++ prefixOperators ++
    ["&&", "||", "==", "!=", "<=", ">=", "+=", "-=", "*=", "/=", "%=", "^=", "&=", "|=", "<<", ">>"]

/-- Where the tokens ahead stand in an expression. -/
structure Place where
  /-- How many signs of the operator at hand are ahead. -/
  pending : Nat := 0
  /-- How many lists in angle brackets are open. -/
  angles : Nat := 0
  /-- Whether an operand comes before. -/
  operand : Bool := false
  /-- Whether a type was called for by a conversion. -/
  type : Bool := false
  /-- Whether a group ahead belongs to a macro or an attribute. -/
  verbatim : Bool := false

namespace Place

/-- Whether a list in angle brackets opens. After an operand that is no type, the sign
compares. -/
def opens (p : Place) (ts : List Token) : Bool :=
  Ahead.op ['<'] ts &&
    (p.angles != 0 || !p.operand || (p.type && !Ahead.op ['<', '='] ts))

/-- How many signs the operator ahead has. -/
def operatorLength (p : Place) (ts : List Token) : Nat :=
  let choices :=
    if p.angles ≠ 0 then ["::", "->"] else if p.operand then operators else prefixOperators
  ((choices.find? fun o => Ahead.op o.toList ts).map String.length).getD 1

/-- The place after a sign. -/
def afterSign (p : Place) (c : Char) (ts : List Token) : Place :=
  if p.opens ts then { angles := p.angles + 1, type := p.type }
  else if p.angles ≠ 0 ∧ c = '>' then { angles := p.angles - 1, operand := true, type := p.type }
  else
    let length := p.operatorLength ts
    { pending := length - 1
      angles := p.angles
      operand := c = '?'
      type := p.type && (!p.operand || Ahead.colons ts)
      verbatim := length = 1 && (c = '#' || c = '!' && p.operand) }

end Place

/-- The tokens of an expression as they are written again. A group of a macro stays as
it is. -/
def respaced (p : Place) : List Token → List Token
  | [] => []
  | .punct c joint :: rest =>
    if p.pending = 0 then
      let next := p.afterSign c (.punct c joint :: rest)
      .punct c (next.pending ≠ 0) :: respaced next rest
    else .punct c (p.pending ≠ 1) :: respaced { p with pending := p.pending - 1 } rest
  | .ident w :: rest =>
    .ident w :: respaced
      { p with operand := w ∉ operatorWords, type := p.type || w == "as", verbatim := false } rest
  | .group d tokens :: rest =>
    .group d (if p.verbatim then tokens else respaced {} tokens) ::
      respaced { p with operand := true, verbatim := false } rest
  | t :: rest => t :: respaced { p with operand := true, verbatim := false } rest

end Expression

namespace Reader

/-- Read an expression as far as its form matters: where it ends. -/
def expression : Reader Unit := do
  if !(← next Expression.isAhead) then missing ["an expression"]
  let ts ← ahead
  let n := Expression.length false ts
  drop n
  write (Expression.respaced {} (ts.take n))

end Reader

end RelMap.Derive
