-- SUMMARY: Tokens of struct declarations and of the code that is derived from them.
import RelMap.Text.Quoted

/-!
# Tokens

Source text is a sequence of tokens in which brackets have been matched: a `Token`
is a word, a sign, a literal, or a group of tokens between two brackets. A sign is
`joint` when the next sign belongs to the same operator. `Token.render` writes
tokens with one space between two of them, and none after a joint sign.
-/
namespace RelMap.Derive

/-- The brackets around a group. An invisible group has none. -/
inductive Delimiter where
  | parenthesis
  | brace
  | bracket
  | invisible
  deriving DecidableEq, Repr

/-- What a literal is, as its first characters tell. -/
inductive LiteralKind where
  | string
  | byteString
  | cString
  | byte
  | char
  | number
  deriving DecidableEq, Repr

/-- A literal as it is written, with its suffix. -/
structure Literal where
  kind : LiteralKind
  text : String
  deriving DecidableEq, Repr

/-- A token. A raw identifier keeps its mark. -/
inductive Token where
  | ident (name : String)
  | lifetime (name : String)
  | punct (c : Char) (joint : Bool)
  | literal (l : Literal)
  | group (d : Delimiter) (tokens : List Token)

namespace Delimiter

/-- The text before the tokens of a group. -/
def opening : Delimiter → List Char
  | .parenthesis => ['(']
  | .brace => ['\x7b', ' ']
  | .bracket => ['[']
  | .invisible => []

/-- The text after the tokens of a group. -/
def closing : Delimiter → List Char
  | .parenthesis => [')']
  | .brace => ['\x7d']
  | .bracket => [']']
  | .invisible => []

end Delimiter

namespace Token

mutual

/-- Whether two tokens are the same. -/
def same : Token → Token → Bool
  | .ident a, .ident b => a == b
  | .lifetime a, .lifetime b => a == b
  | .punct c joint, .punct d joint' => c == d && joint == joint'
  | .literal l, .literal m => l == m
  | .group d ts, .group e us => d == e && sameAll ts us
  | _, _ => false

/-- Whether two sequences of tokens are the same. -/
def sameAll : List Token → List Token → Bool
  | [], [] => true
  | t :: ts, u :: us => t.same u && sameAll ts us
  | _, _ => false

end

mutual

theorem same_iff (t u : Token) : t.same u = true ↔ t = u := by
  cases t with
  | group d ts => cases u <;> simp [same, sameAll_iff ts]
  | _ => cases u <;> simp [same]

theorem sameAll_iff (ts us : List Token) : sameAll ts us = true ↔ ts = us := by
  cases ts with
  | nil => cases us <;> simp [sameAll]
  | cons t ts =>
    cases us with
    | nil => simp [sameAll]
    | cons u us => simp [sameAll, same_iff t, sameAll_iff ts]

end

instance : DecidableEq Token := fun t u => decidable_of_iff _ (same_iff t u)

/-- The tokens of an operator. -/
def op : List Char → List Token
  | [] => []
  | [c] => [.punct c false]
  | c :: cs => .punct c true :: op cs

/-- The separator of two paths. -/
def colons : List Token := op [':', ':']

/-- A sign of its own. -/
def sign (c : Char) : Token := .punct c false

/-- A text as a literal. -/
def quoted (s : String) : Token := .literal ⟨.string, Quoted.text s⟩

/-- Tokens in parentheses. -/
def parens (tokens : List Token) : Token := .group .parenthesis tokens

/-- Tokens in braces. -/
def braces (tokens : List Token) : Token := .group .brace tokens

/-- Tokens in square brackets. -/
def brackets (tokens : List Token) : Token := .group .bracket tokens

/-- Whether the next sign belongs to the same operator. -/
def isJoint : Token → Bool
  | .punct _ joint => joint
  | _ => false

mutual

/-- How many tokens a token consists of, those in groups included. -/
def size : Token → Nat
  | .group _ tokens => sizeAll tokens + 1
  | _ => 1

/-- How many tokens a sequence has, those in groups included. -/
def sizeAll : List Token → Nat
  | [] => 0
  | t :: rest => t.size + sizeAll rest

end

mutual

/-- The text of a token. -/
def text : Token → List Char
  | .ident name => name.toList
  | .lifetime name => '\'' :: name.toList
  | .punct c _ => [c]
  | .literal l => l.text.toList
  | .group d tokens =>
    d.opening ++ render tokens ++ (if d = .brace ∧ !tokens.isEmpty then [' '] else []) ++ d.closing

/-- The text of tokens. -/
def render : List Token → List Char
  | [] => []
  | [t] => t.text
  | t :: u :: rest => t.text ++ (if t.isJoint then [] else [' ']) ++ render (u :: rest)

end

end Token

end RelMap.Derive
