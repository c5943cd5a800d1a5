-- SUMMARY: Reading the attributes in front of declarations and fields.
import RelMap.Derive.Expression
import RelMap.Derive.Item

/-!
# Reading attributes

An attribute is a path in square brackets after a number sign. Its arguments are
kept as tokens: only whoever knows the attribute can read them.
-/
namespace RelMap.Derive.Reader

/-- Whether a segment of a plain path is next. -/
def segmentAhead (ts : List Token) : Bool :=
  Ahead.name ts || ["super", "self", "Self", "crate"].any (Ahead.word · ts)

/-- Read the segments of a plain path, at most `n`, and say whether a separator is
left over. -/
def plainSegments : Nat → Reader (List String × Bool)
  | 0 => return ([], false)
  | n + 1 => do
    if ← next segmentAhead then
      let segment ← anyWord
      if ← op? "::" then
        let (rest, _) ← plainSegments n
        return (segment :: rest, rest.isEmpty)
      else return ([segment], false)
    else return ([], true)

/-- Read a path of names without arguments. -/
def plainPath : Reader (Bool × List String) := do
  let rooted ← op? "::"
  let (segments, open?) ← plainSegments (← limit)
  if segments.isEmpty then
    let segment ← name
    return (rooted, [segment])
  if open? then missing ["path segment after \x60::\x60"]
  return (rooted, segments)

/-- Read what an attribute says after its path. -/
def attributeContent : Reader Meta := do
  match ← ahead with
  | .group .invisible _ :: _ => return .bare
  | .group _ tokens :: _ =>
    take 1
    return .arguments tokens
  | ts =>
    if Ahead.op ['='] ts then
      op "="
      if (← next (Ahead.op ['#'])) && (← next fun ts => Ahead.group .bracket (ts.drop 1)) then
        throw (.rule "unexpected attribute inside of attribute")
      expression
      return .value
    else return .bare

/-- Read an attribute. -/
def oneAttribute : Reader Attribute := do
  op "#"
  within .bracket do
    let (rooted, segments) ←
      if ← word? "unsafe" then pure (false, ["unsafe"]) else plainPath
    return ⟨rooted, segments, ← attributeContent⟩

/-- Read the attributes ahead. -/
def attributes : Reader (List Attribute) := do
  many (Ahead.op ['#']) oneAttribute (← limit)

end RelMap.Derive.Reader
