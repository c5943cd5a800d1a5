-- SUMMARY: Reading types.
import RelMap.Derive.AttributeReader

/-!
# Reading types

Each reader here is given a reader for the types that stand within what it reads;
its argument says whether a type may be followed by further bounds. `Reader.type`
ties them together: a type within a type has fewer tokens, so that the number of
all tokens bounds the nesting.

Not everything in a type is written again as it was read: lifetimes come before the
other arguments, a minus sign becomes part of its literal, and signs that nothing
depends on are left out.
-/
namespace RelMap.Derive

/-- The types within a segment of a path. -/
def Segment.parts : Segment → List Ty
  | .plain _ => []
  | .generic _ args => args.flatMap fun
    | .type t => [t]
    | .other parts => parts

/-- Whether a segment has no arguments. -/
def Segment.isPlain : Segment → Bool
  | .plain _ => true
  | .generic .. => false

namespace Reader

/-! ## Constants and lifetimes -/

/-- Whether a constant argument is next: a literal or a block. -/
def constantAhead (ts : List Token) : Bool := Ahead.literalLength ts != 0 || Ahead.group .brace ts

/-- Tokens of a literal as they are written again. -/
def signed : List Token → List Token
  | .punct c _ :: .literal l :: rest => .literal { l with text := c.toString ++ l.text } :: rest
  | ts => ts

/-- Read a constant argument. -/
def constant : Reader Unit := do
  let ts ← ahead
  let n := Ahead.literalLength ts
  if n != 0 then
    drop n
    write (signed (ts.take n))
  else if Ahead.name ts then take 1
  else if Ahead.group .brace ts then
    drop 1
    write (Expression.respaced {} (ts.take 1))
  else missing []

/-- Whether a list in angle brackets ends here. -/
def closes : List Token → Bool := Ahead.op ['>']

/-- Whether an element of a list in angle brackets ends here. -/
def closesElement (ts : List Token) : Bool := Ahead.op [','] ts || closes ts

/-- Read a lifetime that is declared, with its bounds. A colon before no bounds is left out. -/
def lifetimeParameter : Reader Unit := do
  let _ ← attributes
  lifetime
  if ← next (Ahead.op [':']) then
    let (bounds, tokens) ← aside do
      op ":"
      separated closesElement "+" lifetime (← limit)
    if !bounds.isEmpty then write tokens

/-- Read the lifetimes that `for` declares. -/
def binder : Reader Unit := do
  word "for"
  op "<"
  let _ ← listed closes lifetimeParameter (← limit)
  op ">"

/-! ## Lists in angle brackets -/

/-- How an element of a list is written, and whether a comma follows it. -/
structure Element where
  tokens : List Token
  comma : Bool

namespace Element

def isLifetime (e : Element) : Bool :=
  match e.tokens with
  | [.lifetime _] => true
  | _ => false

/-- Elements one after the other, with a comma wherever two would stand without one;
`apart` says whether none is needed before the first. -/
def separate (apart : Bool) : List Element → List Token
  | [] => []
  | e :: rest =>
    (if apart then [] else [Token.sign ',']) ++ e.tokens ++
      (if e.comma then [Token.sign ','] else []) ++ separate e.comma rest

/-- Elements as they are written again: the lifetimes come first. -/
def write (es : List Element) : List Token :=
  separate true (es.filter isLifetime ++ es.filter (!·.isLifetime))

end Element

/-- Read elements with a comma between two, until the list closes. -/
def elements (element : Reader α) : Nat → Reader (List (α × Element))
  | 0 => return []
  | n + 1 => do
    if ← next closes then return []
    let (a, tokens) ← aside element
    if ← next closes then return [(a, ⟨tokens, false⟩)]
    let _ ← aside (op ",")
    return (a, ⟨tokens, true⟩) :: (← elements element n)

/-- Read a list in angle brackets. -/
def angled (element : Reader α) : Reader (List α) := do
  op "<"
  let es ← elements element (← limit)
  write (Element.write (es.map (·.2)))
  op ">"
  return es.map (·.1)

/-! ## Paths and bounds -/

section

variable (nested : Bool → Reader Ty)

/-- Read the type after an arrow, if there is an arrow. -/
def result : Reader (List Ty) := do
  if ← op? "->" then return [← nested false] else return []

/-- Read the name that a segment starts with, and whether it may have arguments. -/
def segmentName : Reader (String × Bool) := do
  if ← next fun ts => ["super", "self", "crate", "try"].any (Ahead.word · ts) then
    return (← anyWord, false)
  else if ← next (Ahead.word "Self") then return (← anyWord, true)
  else return (← name, true)

/-- Whether arguments in angle brackets are next. -/
def argumentsAhead (ts : List Token) : Bool :=
  (Ahead.op ['<'] ts && !Ahead.op ['<', '='] ts) ||
    (Ahead.colons ts && Ahead.op ['<'] (ts.drop 2))

/-- Whether a path goes on. -/
def segmentsAhead (ts : List Token) : Bool :=
  Ahead.colons ts && !Ahead.group .parenthesis (ts.drop 2)

/-- Read a path, with `argument` for the arguments of its segments. -/
def segments (argument : Reader Arg) : Nat → Reader (List Segment)
  | 0 => return []
  | n + 1 => do
    let (name, mayHave) ← segmentName
    let segment ←
      if mayHave && (← next argumentsAhead) then do
        let _ ← op? "::"
        pure (Segment.generic name (← angled argument))
      else pure (Segment.plain name)
    if ← next segmentsAhead then
      op "::"
      return segment :: (← segments argument n)
    else return [segment]

/-- Read a trait that bounds something: whether it is conditional, and the types within.
A question mark is written before declared lifetimes. -/
def traitBound (argument : Reader Arg) : Reader (Bool × List Ty) := do
  let (_, declared) ← aside do
    if ← next (Ahead.word "for") then binder
  let conditional ← next fun ts => Ahead.op ['~'] ts && Ahead.word "const" (ts.drop 1)
  if conditional then
    op "~"
    word "const"
  if ← op? "?" then
    if ← next (Ahead.word "for") then binder
  write declared
  let _ ← op? "::"
  let path ← segments argument (← limit)
  let parts := path.flatMap Segment.parts
  let callable := path.getLast?.any Segment.isPlain &&
    (← next fun ts => Ahead.group .parenthesis ts ||
      (Ahead.colons ts && Ahead.group .parenthesis (ts.drop 2)))
  if callable then
    let _ ← aside (op? "::")
    let params ← within .parenthesis (terminated (nested true))
    return (conditional, parts ++ params ++ (← result nested))
  else return (conditional, parts)

/-- Read a trait, in parentheses or not. A conditional one is written as it is. -/
def traitOrParen (argument : Reader Arg) : Reader (List Ty) := do
  let before ← ahead
  let ((conditional, parts), tokens) ← aside do
    if ← next (Ahead.group .parenthesis) then within .parenthesis (traitBound nested argument)
    else traitBound nested argument
  let after ← ahead
  write (if conditional then before.take (before.length - after.length) else tokens)
  return parts

/-- Read a bound: whether it is a trait, and the types within. -/
def bound (argument : Reader Arg) : Reader (Bool × List Ty) := do
  if ← next Ahead.lifetime then
    lifetime
    return (false, [])
  else if ← word? "use" then
    let captured : Reader Unit := do
      if ← next Ahead.lifetime then lifetime
      else
        let _ ← anyWord
    let _ ← angled captured
    return (true, [])
  else return (true, ← traitOrParen nested argument)

/-- Whether a further bound can be next. -/
def boundAhead (ts : List Token) : Bool :=
  Ahead.anyWord ts || Ahead.colons ts || Ahead.op ['?'] ts || Ahead.lifetime ts ||
    Ahead.group .parenthesis ts

/-- Read bounds with plus signs between them, if `plus` allows several. -/
def bounds (argument : Reader Arg) (plus : Bool) : Nat → Reader (List (Bool × List Ty))
  | 0 => return []
  | n + 1 => do
    let b ← bound nested argument
    if plus && (← op? "+") then
      if ← next boundAhead then return b :: (← bounds argument plus n)
      else return [b]
    else return [b]

/-- Read further bounds after plus signs. -/
def moreBounds (argument : Reader Arg) : Nat → Reader (List Ty)
  | 0 => return []
  | n + 1 => do
    if ← op? "+" then
      if ← next boundAhead then
        let (_, parts) ← bound nested argument
        return parts ++ (← moreBounds argument n)
      else return []
    else return []

/-- Read bounds of which one at least is a trait. -/
def traits (argument : Reader Arg) (plus : Bool) (complaint : String) : Reader Ty := do
  let bs ← bounds nested argument plus (← limit)
  if bs.any (·.1) then return .other .traits (bs.flatMap (·.2))
  else throw (.rule complaint)

/-- Read the bounds of a trait object. -/
def traitObject (argument : Reader Arg) (plus : Bool) : Reader Ty :=
  traits nested argument plus "at least one trait is required for an object type"

/-- Read an argument of a generic type, with `self` for arguments within it. -/
def argumentStep (self : Reader Arg) : Reader Arg := do
  let ts ← ahead
  if Ahead.lifetime ts && !Ahead.op ['+'] (ts.drop 1) then
    lifetime
    return .other []
  else if constantAhead ts then
    constant
    return .other []
  else
    let t ← nested true
    match t with
    | .path false [segment] =>
      if ← op? "=" then
        if ← next constantAhead then
          constant
          return .other segment.parts
        else return .other (segment.parts ++ [← nested true])
      else if ← op? ":" then
        let bs ← separated closesElement "+" (bound nested self) (← limit)
        return .other (segment.parts ++ bs.flatMap (·.2))
      else return .type t
    | _ => return .type t

/-! ## Types -/

variable (argument : Reader Arg)

/-- Read a path that starts from a type in angle brackets. -/
def qualified : Reader Ty := do
  op "<"
  let base ← nested true
  let trait ←
    if ← word? "as" then do
      let _ ← op? "::"
      segments argument (← limit)
    else pure []
  op ">"
  op "::"
  let path ← segments argument (← limit)
  return .other .qualified (base :: (trait ++ path).flatMap Segment.parts)

/-- Read a type that starts with a path; `bindsLifetimes` if it is a trait for
declared lifetimes. -/
def pathType (plus bindsLifetimes : Bool) : Reader Ty := do
  if ← next (Ahead.op ['<']) then qualified nested argument
  else
    let rooted ← op? "::"
    let path ← segments argument (← limit)
    let ts ← ahead
    if Ahead.op ['!'] ts && !Ahead.op ['!', '='] ts && path.all Segment.isPlain then
      op "!"
      match ← ahead with
      | .group _ _ :: _ =>
        take 1
        return .other .invocation []
      | _ => missing ["delimiter"]
    else if bindsLifetimes || (plus && Ahead.op ['+'] ts) then
      let more ← if plus then do moreBounds nested argument (← limit) else pure []
      return .other .traits (path.flatMap Segment.parts ++ more)
    else return .path rooted path

/-- Read a parameter of a function type after its attributes. -/
def namedParameter : Reader (List Ty) := do
  let ts ← ahead
  if Ahead.anyWord ts && Ahead.op [':'] (ts.drop 1) && !Ahead.colons (ts.drop 1) then
    let _ ← anyWord
    op ":"
  if ← op? "..." then return [] else return [← nested true]

/-- Read a parameter of a function type. A receiver that can change is written as it is. -/
def functionParameter : Reader (List Ty) := do
  let _ ← attributes
  if ← next fun ts => Ahead.word "mut" ts && Ahead.word "self" (ts.drop 1) then
    verbatim do
      word "mut"
      namedParameter nested
  else namedParameter nested

/-- Read a function type. -/
def functionType : Reader Ty := do
  let _ ← word? "unsafe"
  if ← word? "extern" then
    match ← ahead with
    | .literal ⟨.string, _⟩ :: _ => take 1
    | _ => pure ()
  word "fn"
  let params ← within .parenthesis (terminated (functionParameter nested))
  return .other .function (params.flatten ++ (← result nested))

/-- Read what stands in parentheses: one type, or the elements of a tuple. -/
def parenthesized : Reader Ty := do
  if ← atEnd then return .other .tuple []
  else if ← next Ahead.lifetime then
    return .paren (← traitObject nested argument true)
  else if ← next (Ahead.op ['?']) then
    let (_, parts) ← traitBound nested argument
    return .other .traits parts
  else
    let first ← nested true
    if ← op? "," then return .other .tuple (first :: (← terminated (nested true)))
    else return .paren first

/-- Read a type in parentheses, which further bounds can follow. -/
def parenType (plus : Bool) : Reader Ty := do
  let t ← within .parenthesis (parenthesized nested argument)
  let further ← next (Ahead.op ['+'])
  let extend (parts : List Ty) : Reader Ty := do
    return .other .traits (parts ++ (← moreBounds nested argument (← limit)))
  match t with
  | .other .traits parts => extend parts
  | .paren (.path rooted path) =>
    if plus && further then extend (path.flatMap Segment.parts)
    else return .paren (.path rooted path)
  | t => return t

/-- Read what stands in square brackets: the element of a slice or an array. -/
def bracketed : Reader Ty := do
  let elem ← nested true
  if ← op? ";" then
    expression
    return .other .array [elem]
  else return .other .slice [elem]

/-- Read a pointer after its star. -/
def pointer : Reader Ty := do
  op "*"
  if (← word? "const") || (← word? "mut") then return .other .pointer [← nested false]
  else missing [shown "const", shown "mut"]

/-- Read a reference. -/
def reference : Reader Ty := do
  op "&"
  if ← next Ahead.lifetime then lifetime
  let _ ← word? "mut"
  return .other .reference [← nested false]

/-- Whether a path is next. -/
def pathAhead (ts : List Token) : Bool :=
  segmentAhead ts || Ahead.colons ts || Ahead.op ['<'] ts

/-- What a type can start with. -/
def typeStarts : List String :=
  [shown "for", "parentheses", shown "fn", shown "unsafe", shown "extern", "identifier", shown "::",
    shown "<", shown "dyn", "square brackets", shown "*", shown "&", shown "!", shown "impl",
    shown "_", "lifetime"]

/-- What can follow declared lifetimes. -/
def boundTypeStarts : List String :=
  ["identifier", shown "fn", shown "unsafe", shown "extern", shown "super", shown "self",
    shown "Self", shown "crate"]

/-- Whether a function type is next. -/
def functionAhead (ts : List Token) : Bool := ["fn", "unsafe", "extern"].any (Ahead.word · ts)

/-- Read a trait object after its keyword. One behind a pointer is written as it is. -/
def dynamic (plus : Bool) : Reader Ty := do
  if ← next fun ts => Ahead.op ['*'] (ts.drop 1) then
    verbatim do
      word "dyn"
      op "*"
      traitObject nested argument plus
  else
    word "dyn"
    traitObject nested argument plus

/-- Read a type. An invocation is written without declared lifetimes. -/
def typeStep (plus : Bool) : Reader Ty := do
  let binds ← next (Ahead.word "for")
  let (_, declared) ← aside do
    if binds then
      binder
      if !(← next fun ts => segmentAhead ts || functionAhead ts) then missing boundTypeStarts
  let ts ← ahead
  if Ahead.group .parenthesis ts then parenType nested argument plus
  else if functionAhead ts then
    write declared
    functionType nested
  else if pathAhead ts then
    let (t, tokens) ← aside (pathType nested argument plus binds)
    write (if t matches .other .invocation _ then tokens else declared ++ tokens)
    return t
  else if Ahead.word "dyn" ts then dynamic nested argument plus
  else if Ahead.group .bracket ts then within .bracket (bracketed nested)
  else if Ahead.op ['*'] ts then pointer nested
  else if Ahead.op ['&'] ts then reference nested
  else if Ahead.op ['!'] ts then
    op "!"
    return .other .never []
  else if Ahead.word "impl" ts then
    word "impl"
    traits nested argument plus "at least one trait must be specified"
  else if Ahead.word "_" ts then
    word "_"
    return .other .inferred []
  else if Ahead.lifetime ts then
    traitObject nested argument true
  else missing typeStarts

end

mutual

/-- Read a type that is nested at most `n` deep. -/
def typeWithin : Nat → Bool → Reader Ty
  | 0, _ => missing typeStarts
  | n + 1, plus => typeStep (typeWithin n) (argumentWithin n) plus

/-- Read an argument of a generic type that is nested at most `n` deep. -/
def argumentWithin : Nat → Reader Arg
  | 0 => missing typeStarts
  | n + 1 => argumentStep (typeWithin n) (argumentWithin n)

end

/-- A bound on how deep types ahead can be nested: a type within another takes two
steps at most, one for an argument and one for its type. -/
def depth : Reader Nat := return 2 * (Token.sizeAll (← ahead) + 1)

/-- Read a type. -/
def type : Reader Ty := do typeWithin (← depth) true

/-- Read a bound of a generic parameter. -/
def parameterBound : Reader Unit := do
  let n ← depth
  let _ ← bound (typeWithin n) (argumentWithin n)

end Reader

end RelMap.Derive
