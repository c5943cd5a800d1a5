-- SUMMARY: Splitting source text into tokens and matching its brackets.
import RelMap.Derive.Token
import RelMap.Text.Blank
import RelMap.Text.Digits
import RelMap.Text.Identifier

/-!
# Reading tokens

Blanks and comments separate tokens and are dropped, but a documentation comment
stands for an attribute. The readers here take the characters ahead and return the
rest after what they read. Text with an unknown sign, an open literal or unmatched
brackets has no tokens.
-/
namespace RelMap.Derive.Lexer

/-- What separates tokens: blanks, and two marks of writing direction. -/
def isSpace (c : Char) : Bool := Text.isBlank c || c == '\u200e' || c == '\u200f'

/-- Whether characters start with a text. -/
def startsWith (cs : List Char) (s : String) : Bool := s.toList.isPrefixOf cs

/-- The characters up to a given rest. -/
def upTo (cs rest : List Char) : String := String.ofList (cs.take (cs.length - rest.length))

/-! ## Comments -/

/-- What follows a block comment that is open `depth` times. -/
def blockEnd : List Char → Nat → Option (List Char)
  | cs, 0 => some cs
  | '*' :: '/' :: cs, depth + 1 => blockEnd cs depth
  | '/' :: '*' :: cs, depth + 1 => blockEnd cs (depth + 2)
  | _ :: cs, depth + 1 => blockEnd cs (depth + 1)
  | [], _ + 1 => none

/-- What a comment is for. -/
inductive CommentKind where
  | plain
  /-- Documentation of what follows. -/
  | outer
  /-- Documentation of what surrounds it. -/
  | inner

/-- The kind of the comment that starts with the given characters, if one does,
and whether it ends with its line. -/
def comment? (cs : List Char) : Option (CommentKind × Bool) :=
  if startsWith cs "//!" then some (.inner, true)
  else if startsWith cs "///" && !startsWith cs "////" then some (.outer, true)
  else if startsWith cs "//" then some (.plain, true)
  else if startsWith cs "/*!" then some (.inner, false)
  else if startsWith cs "/**" && !startsWith cs "/***" && !startsWith cs "/**/" then
    some (.outer, false)
  else if startsWith cs "/*" then some (.plain, false)
  else none

/-- What follows a comment. -/
def commentEnd (cs : List Char) (line : Bool) : Option (List Char) :=
  if line then some (cs.dropWhile (· ≠ '\n')) else blockEnd (cs.drop 2) 1

/-- The attribute that a documentation comment stands for. -/
def docTokens (inner : Bool) (text : String) : List Token :=
  .sign '#' :: (if inner then [.sign '!'] else []) ++
    [.brackets [.ident "doc", .sign '=', .quoted text]]

/-! ## Literals -/

def isHexDigit (c : Char) : Bool := c.isDigit || ('a' ≤ c && c ≤ 'f') || ('A' ≤ c && c ≤ 'F')

/-- The value of a hexadecimal digit. -/
def hexValue (c : Char) : Nat :=
  if c.isDigit then c.toNat - '0'.toNat else c.toUpper.toNat - 'A'.toNat + 10

/-- What follows a code in braces that a character has, and the code. -/
def braceCode : List Char → Option (Nat × List Char)
  | '\x7b' :: cs =>
    let body := cs.takeWhile fun c => isHexDigit c || c == '_'
    let digits := body.filter isHexDigit
    let code := digits.foldl (fun n c => n * 16 + hexValue c) 0
    match cs.drop body.length with
    | '\x7d' :: rest =>
      if digits.isEmpty || digits.length > 6 || body.head? == some '_' then none
      else if code.isValidChar then some (code, rest)
      else none
    | _ => none
  | _ => none

/-- What follows an escape in a literal, its backslash being read. -/
def escapeEnd (kind : LiteralKind) : List Char → Option (List Char)
  | 'x' :: a :: b :: rest =>
    let small := kind == .string || kind == .char
    if !isHexDigit a || !isHexDigit b || (small && hexValue a > 7) then none
    else if kind == .cString && a == '0' && b == '0' then none
    else some rest
  | 'u' :: rest =>
    if kind == .byte || kind == .byteString then none
    else
      match braceCode rest with
      | some (code, rest) => if kind == .cString && code == 0 then none else some rest
      | none => none
  | '0' :: rest => if kind == .cString then none else some rest
  | c :: rest => if c ∈ ['n', 'r', 't', '\\', '\'', '"'] then some rest else none
  | [] => none

/-- Whether a character may stand in a literal as it is. -/
def isPlain (kind : LiteralKind) (c : Char) : Bool :=
  match kind with
  | .byte | .byteString => c.toNat < 128
  | .cString => c != '\x00'
  | _ => true

/-- What follows a literal in double quotes, the first being read. A carriage
return stands only before a line feed. -/
def quotedEnd (kind : LiteralKind) (cs : List Char) : Option (List Char) :=
  match cs with
  | [] => none
  | '"' :: rest => some rest
  | '\r' :: '\n' :: rest => quotedEnd kind rest
  | '\r' :: _ => none
  | '\\' :: '\n' :: rest => quotedEnd kind rest
  | '\\' :: '\r' :: '\n' :: rest => quotedEnd kind rest
  | '\\' :: escaped =>
    match escapeEnd kind escaped with
    | some rest => if _ : rest.length ≤ escaped.length then quotedEnd kind rest else none
    | none => none
  | c :: rest => if isPlain kind c then quotedEnd kind rest else none
termination_by cs.length

/-- What follows a raw literal whose quote and `marks` number signs close it. -/
def rawEnd (kind : LiteralKind) (marks : Nat) : List Char → Option (List Char)
  | [] => none
  | '\r' :: '\n' :: rest => rawEnd kind marks rest
  | '\r' :: _ => none
  | c :: rest =>
    if c == '"' && (rest.take marks).length == marks && (rest.take marks).all (· == '#') then
      some (rest.drop marks)
    else if isPlain kind c then rawEnd kind marks rest
    else none

/-- What follows a raw literal, its letters being read. -/
def rawLiteralEnd (kind : LiteralKind) (cs : List Char) : Option (List Char) :=
  let marks := (cs.takeWhile (· == '#')).length
  match cs.drop marks with
  | '"' :: rest => rawEnd kind marks rest
  | _ => none

/-- What follows a literal in single quotes, the first being read. -/
def charEnd (kind : LiteralKind) : List Char → Option (List Char)
  | '\\' :: escaped =>
    match escapeEnd kind escaped with
    | some ('\'' :: rest) => some rest
    | _ => none
  | c :: '\'' :: rest => if isPlain kind c then some rest else none
  | _ => none

/-- What follows the signed exponent of a number of which `run` was read: it ends
in the letter of an exponent if there is one. -/
def exponentEnd (run rest : List Char) : List Char :=
  let lettered := run.getLast? == some 'e' || run.getLast? == some 'E'
  match rest with
  | mark :: digit :: more =>
    if lettered && (mark == '+' || mark == '-') && digit.isDigit then
      more.dropWhile Identifier.continues
    else rest
  | _ => rest

/-- What follows a number that starts with `run`, all its letters and digits. -/
def fractionEnd (run rest : List Char) : List Char :=
  if run.all fun c => c.isDigit || c == '_' then
    match rest with
    | '.' :: after =>
      if after.head?.any fun c => c == '.' || Identifier.starts c then rest
      else
        exponentEnd (after.takeWhile Identifier.continues)
          (after.dropWhile Identifier.continues)
    | _ => rest
  else if startsWith run "0x" then rest
  else exponentEnd run rest

/-- What follows a number. -/
def numberEnd (cs : List Char) : Option (List Char) :=
  match cs with
  | [] => none
  | c :: _ =>
    if c.isDigit then
      some (fractionEnd (cs.takeWhile Identifier.continues) (cs.dropWhile Identifier.continues))
    else none

/-- What follows a literal without its suffix, and the kind of the literal. -/
def literalEnd? (cs : List Char) : Option (LiteralKind × List Char) :=
  match cs with
  | '"' :: rest => (quotedEnd .string rest).map (.string, ·)
  | 'b' :: '"' :: rest => (quotedEnd .byteString rest).map (.byteString, ·)
  | 'c' :: '"' :: rest => (quotedEnd .cString rest).map (.cString, ·)
  | 'b' :: '\'' :: rest => (charEnd .byte rest).map (.byte, ·)
  | '\'' :: rest => (charEnd .char rest).map (.char, ·)
  | 'b' :: 'r' :: rest => (rawLiteralEnd .byteString rest).map (.byteString, ·)
  | 'c' :: 'r' :: rest => (rawLiteralEnd .cString rest).map (.cString, ·)
  | 'r' :: rest => (rawLiteralEnd .string rest).map (.string, ·)
  | _ => (numberEnd cs).map (.number, ·)

/-- Read a literal with the suffix that may follow it. -/
def literal? (cs : List Char) : Option (Literal × List Char) :=
  match literalEnd? cs with
  | some (kind, rest) =>
    let rest := ((Identifier.split? rest).map (·.2)).getD rest
    some (⟨kind, upTo cs rest⟩, rest)
  | none => none

/-! ## Words and signs -/

/-- Read a word, which may have the mark of a raw identifier. -/
def word? (cs : List Char) : Option (String × List Char) :=
  match cs with
  | 'r' :: '#' :: rest =>
    match Identifier.split? rest with
    | some (name, rest) =>
      if String.ofList name ∈ ["_", "super", "self", "Self", "crate"] then none
      else some (String.ofList ('r' :: '#' :: name), rest)
    | none => none
  | _ => (Identifier.split? cs).map fun (name, rest) => (String.ofList name, rest)

/-- The beginnings of literals, with which no word starts. -/
def literalStarts : List String :=
  ["r\"", "r#\"", "r##", "b\"", "b'", "br\"", "br#", "c\"", "cr\"", "cr#"]

/-- The characters that are signs. -/
def isSign (c : Char) : Bool := c ∈ "~!@#$%^&*-=+|;:,<.>/?'".toList

/-- Whether a sign is ahead, and not a comment. -/
def signAhead (cs : List Char) : Bool := cs.head?.any isSign && (comment? cs).isNone

/-- Read the name of a lifetime after its mark. -/
def lifetime? (cs : List Char) : Option (String × List Char) :=
  match word? cs with
  | some (name, rest) =>
    if rest.head? == some '\'' || (rest.head? == some '#' && !startsWith cs "r#") then none
    else some (name, rest)
  | none => none

/-- Read a literal, a sign or a word. -/
def leaf? (cs : List Char) : Option (Token × List Char) :=
  match literal? cs with
  | some (l, rest) => some (.literal l, rest)
  | none =>
    match cs with
    | '\'' :: rest => (lifetime? rest).map fun (name, rest) => (.lifetime name, rest)
    | c :: rest =>
      if signAhead cs then some (.punct c (signAhead rest), rest)
      else if literalStarts.any (startsWith cs) then none
      else (word? cs).map fun (name, rest) => (.ident name, rest)
    | [] => none

/-! ## Sequences -/

/-- A part of the text. -/
inductive Piece where
  | tokens (tokens : List Token)
  | opening (d : Delimiter)
  | closing (d : Delimiter)

/-- The bracket that a character is. -/
def bracket? (c : Char) : Option Piece :=
  match c with
  | '(' => some (.opening .parenthesis)
  | '[' => some (.opening .bracket)
  | '\x7b' => some (.opening .brace)
  | ')' => some (.closing .parenthesis)
  | ']' => some (.closing .bracket)
  | '\x7d' => some (.closing .brace)
  | _ => none

/-- Read the comment ahead: a documentation comment becomes tokens. -/
def commentPiece? (cs : List Char) (kind : CommentKind) (line : Bool) :
    Option (Piece × List Char) :=
  match commentEnd cs line with
  | none => none
  | some rest =>
    match kind with
    | .plain => some (.tokens [], rest)
    | .outer => some (.tokens (docTokens false (body rest)), rest)
    | .inner => some (.tokens (docTokens true (body rest)), rest)
where
  /-- The text between the marks of the comment. -/
  body (rest : List Char) : String :=
    let whole := (cs.take (cs.length - rest.length)).drop 3
    String.ofList (if line then whole else whole.take (whole.length - 2))

/-- Read the next piece, no blank being ahead. -/
def piece? (cs : List Char) : Option (Piece × List Char) :=
  match comment? cs with
  | some (kind, line) => commentPiece? cs kind line
  | none =>
    match cs with
    | [] => none
    | c :: rest =>
      match bracket? c with
      | some piece => some (piece, rest)
      | none => (leaf? cs).map fun (t, rest) => (.tokens [t], rest)

/-- The pieces of a text. -/
def pieces? (cs : List Char) : Option (List Piece) :=
  match cs with
  | [] => some []
  | c :: rest =>
    if isSpace c then pieces? rest
    else
      match piece? (c :: rest) with
      | none => none
      | some (piece, after) =>
        if _ : after.length < (c :: rest).length then (pieces? after).map (piece :: ·) else none
termination_by cs.length
decreasing_by
  all_goals simp only [List.length_cons] at *
  all_goals omega

/-- Match brackets: `done` are the tokens of the innermost open group, the last
first, and `above` the groups around it. -/
def nest? (done : List Token) (above : List (Delimiter × List Token)) :
    List Piece → Option (List Token)
  | [] => if above.isEmpty then some done.reverse else none
  | .tokens ts :: rest => nest? (ts.reverse ++ done) above rest
  | .opening d :: rest => nest? [] ((d, done) :: above) rest
  | .closing d :: rest =>
    match above with
    | (e, before) :: above =>
      if d = e then nest? (.group d done.reverse :: before) above rest else none
    | [] => none

/-- The characters after a byte order mark, which may come first. -/
def withoutMark : List Char → List Char
  | '\ufeff' :: cs => cs
  | cs => cs

/-- The tokens of a text. -/
def tokens? (s : String) : Option (List Token) :=
  (pieces? (withoutMark s.toList)).bind (nest? [] [])

end RelMap.Derive.Lexer
