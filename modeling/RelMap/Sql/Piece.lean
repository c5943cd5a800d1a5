-- SUMMARY: Statements as lists of pieces, and the numbering of placeholders.
import RelMap.Sql.Dialect
import RelMap.Text.Digits
import RelMap.Value

/-!
# Pieces of statements

A statement is put together from pieces: fixed text, values to bind, and fragments
that the caller wrote with placeholders of their own. Only the last step,
`Dialect.assemble`, knows how a dialect spells placeholders: `?` everywhere, or
`$1`, `$2`, … where they are numbered. Values go to the arguments and never into
the text.
-/
namespace RelMap

/-- SQL text with its arguments, in the order of their placeholders. -/
structure Statement where
  sql : String
  args : List Value

/-- A part of a statement. -/
inductive Piece where
  | text (sql : String)
  | bind (v : Value)
  /-- SQL that the caller wrote; its question marks outside single quotes are
  placeholders. -/
  | fragment (sql : String) (args : List Value)

/-! ## Numbered placeholders -/

namespace Placeholder

/-- The numbered placeholder of argument `n`, counted from one. -/
def numbered (n : Nat) : List Char := '$' :: Digits.ofNat n

/-- Give the question marks outside single quotes the numbers after `start`. A
doubled quote inside a quoted text closes it and opens it again. -/
def numberFrom : Nat → Bool → List Char → List Char
  | _, _, [] => []
  | start, quoted, c :: cs =>
    if c = '\'' then c :: numberFrom start (!quoted) cs
    else if c = '?' ∧ quoted = false then numbered (start + 1) ++ numberFrom (start + 1) quoted cs
    else c :: numberFrom start quoted cs

/-- Number the placeholders of a fragment after `start` earlier ones. -/
def number (sql : String) (start : Nat) : String :=
  String.ofList (numberFrom start false sql.toList)

/-- Give out numbers as `numberFrom` does, with a counter of 64 bits. Nothing follows the last
number. -/
def numberFrom? : UInt64 → Bool → List Char → Option (List Char)
  | _, _, [] => some []
  | start, quoted, c :: cs =>
    if c = '\'' then (numberFrom? start (!quoted) cs).map (c :: ·)
    else if c = '?' ∧ quoted = false then
      if start.toNat + 1 < UInt64.size then
        (numberFrom? (start + 1) quoted cs).map (numbered (start + 1).toNat ++ ·)
      else none
    else (numberFrom? start quoted cs).map (c :: ·)

/-- Number the placeholders of a fragment after any count of earlier ones, as long as there are
numbers. The arguments of a statement and the question marks of a text in memory never use them
up. -/
def number? (sql : String) (start : UInt64) : Option String :=
  (numberFrom? start false sql.toList).map String.ofList

end Placeholder

/-! ## Assembling -/

namespace Piece

/-- The values that a piece binds. -/
def args : Piece → List Value
  | .text _ => []
  | .bind v => [v]
  | .fragment _ args => args

/-- Whether the piece renders no text. -/
def isEmpty : Piece → Bool
  | .text sql => sql.isEmpty
  | .bind _ => false
  | .fragment sql _ => sql.isEmpty

/-- Pieces with a text between each two. -/
def separated (separator : String) : List (List Piece) → List Piece
  | [] => []
  | [ps] => ps
  | ps :: rest => ps ++ .text separator :: separated separator rest

end Piece

namespace Dialect

/-- Whether placeholders carry numbers. -/
def numbersPlaceholders (d : Dialect) : Bool := d == .postgresql

/-- The text of a piece after `bound` arguments. -/
def renderPiece (d : Dialect) (bound : Nat) : Piece → String
  | .text sql => sql
  | .bind _ =>
    if d.numbersPlaceholders then String.ofList (Placeholder.numbered (bound + 1)) else "?"
  | .fragment sql _ => if d.numbersPlaceholders then Placeholder.number sql bound else sql

/-- The text of pieces after `bound` arguments. -/
def render (d : Dialect) (bound : Nat) : List Piece → String
  | [] => ""
  | p :: ps => d.renderPiece bound p ++ d.render (bound + p.args.length) ps

/-- The statement that pieces make. -/
def assemble (d : Dialect) (ps : List Piece) : Statement :=
  ⟨d.render 0 ps, ps.flatMap Piece.args⟩

theorem render_append (d : Dialect) (bound : Nat) (ps qs : List Piece) :
    d.render bound (ps ++ qs) =
      d.render bound ps ++ d.render (bound + (ps.flatMap Piece.args).length) qs := by
  induction ps generalizing bound with
  | nil => simp [render]
  | cons p ps ih =>
    simp [render, ih, String.append_assoc, Nat.add_assoc]

end Dialect

end RelMap
