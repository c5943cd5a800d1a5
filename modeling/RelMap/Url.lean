-- SUMMARY: URLs: their parts, and how texts are read into them.
import RelMap.Url.Host

/-!
# URLs

`Url.ofText` reads a URL by the rules that browsers follow: blanks around it and
line breaks inside are dropped, the scheme is put in lower case, dot segments are
resolved, and characters that a part cannot hold are percent-encoded. `Url.text`
writes it back.
-/
namespace RelMap

/-- A URL in its parts, each encoded. -/
structure Url where
  scheme : String
  /-- Whether two slashes follow the scheme. -/
  hasAuthority : Bool := false
  username : List Char := []
  password : Option (List Char) := none
  host : Option (List Char) := none
  port : Option Nat := none
  path : List Char := []
  query : Option (List Char) := none
  fragment : Option (List Char) := none

namespace Url

/-- The default port of a special scheme that has one. -/
def defaultPort? (scheme : String) : Option Nat :=
  [("http", 80), ("https", 443), ("ws", 80), ("wss", 443), ("ftp", 21)].lookup scheme

/-- Schemes with a host that is a domain or an address. -/
def isSpecial (scheme : String) : Bool := (defaultPort? scheme).isSome || scheme == "file"

/-! ## Encoding -/

def escapedInFragment (c : Char) : Bool :=
  Percent.isControl c || c ∈ [' ', '"', '<', '>', '\x60']

def escapedInPath (c : Char) : Bool := escapedInFragment c || c ∈ ['#', '?', '\x7b', '\x7d']

def escapedInUserinfo (c : Char) : Bool :=
  escapedInPath c || c ∈ ['/', ':', ';', '=', '@', '[', '\\', ']', '^', '|']

def escapedInQuery (special : Bool) (c : Char) : Bool :=
  Percent.isControl c || c ∈ [' ', '"', '#', '<', '>'] || (special && c = '\'')

/-! ## Reading -/

/-- Drop controls and blanks around the text, and tabs and line breaks inside. -/
def clean (cs : List Char) : List Char :=
  let front := cs.dropWhile (·.toNat ≤ 0x20)
  let back := (front.reverse.dropWhile (·.toNat ≤ 0x20)).reverse
  back.filter fun c => c ≠ '\t' ∧ c ≠ '\n' ∧ c ≠ '\r'

/-- Characters of a scheme after its first letter. -/
def isSchemeChar (c : Char) : Bool := c.isAlphanum || c = '+' || c = '-' || c = '.'

/-- The scheme before the first colon, and the text after it. -/
def scheme? : List Char → Option (String × List Char)
  | [] => none
  | c :: cs =>
    if c.isAlpha then
      match cs.dropWhile isSchemeChar with
      | ':' :: rest =>
        some (String.ofList ((c :: cs.takeWhile isSchemeChar).map Char.toLower), rest)
      | _ => none
    else none

/-- Whether a character ends the authority. -/
def endsAuthority (special : Bool) (c : Char) : Bool :=
  c = '/' || c = '?' || c = '#' || (special && c = '\\')

/-- The texts before and after the last occurrence of a mark. -/
def cutLast (mark : Char) (cs : List Char) : Option (List Char × List Char) :=
  let back := cs.reverse
  if cs.contains mark then
    some ((back.dropWhile (· ≠ mark)).tail.reverse, (back.takeWhile (· ≠ mark)).reverse)
  else none

/-- The text up to the first colon that is not in brackets, and the rest. -/
def cutHost : Bool → List Char → List Char × List Char
  | _, [] => ([], [])
  | inside, c :: cs =>
    if c = ':' ∧ inside = false then ([], c :: cs)
    else
      let next := if c = '[' then true else if c = ']' then false else inside
      let (host, rest) := cutHost next cs
      (c :: host, rest)

/-- A port after its colon; the default one is not kept. -/
def port? (scheme : String) (cs : List Char) : Except UrlError (Option Nat) :=
  if cs.isEmpty then .ok none
  else
    match Digits.toNat? cs with
    | some n =>
      if n > 65535 then .error .invalidPort
      else .ok (if defaultPort? scheme = some n then none else some n)
    | none => .error .invalidPort

/-- Read the user before the host into the URL. An empty password is dropped. -/
def withUserinfo (url : Url) (userinfo : List Char) : Url :=
  let name := userinfo.takeWhile (· ≠ ':')
  let secret := (userinfo.dropWhile (· ≠ ':')).tail
  { url with
    username := Percent.encode escapedInUserinfo name
    password := if secret.isEmpty then none else some (Percent.encode escapedInUserinfo secret) }

/-- Read the authority into the URL. -/
def withAuthority (url : Url) (authority : List Char) (more : Bool) : Except UrlError Url := do
  let special := isSpecial url.scheme
  let (userinfo, hostAndPort) := (cutLast '@' authority).getD ([], authority)
  if authority = ['@'] ∧ more then throw .emptyHost
  let (hostText, rest) := cutHost false hostAndPort
  if hostText.isEmpty ∧ special then throw .emptyHost
  let host ← if special then Host.specialHost hostText else Host.opaqueHost hostText
  if host.isEmpty ∧ ¬ rest.isEmpty then throw .emptyHost
  let port ← port? url.scheme rest.tail
  let url := url.withUserinfo userinfo
  if host.isEmpty ∧ (¬ url.username.isEmpty ∨ url.password.isSome) then throw .emptyHost
  return { url with
    hasAuthority := true, port, host := if host.isEmpty then none else some host }

/-- A segment that stands for its parent, and one that stands for itself. -/
def dots (segment : List Char) : Nat :=
  let rec go : List Char → Option Nat
    | [] => some 0
    | '.' :: cs => (go cs).map (· + 1)
    | '%' :: '2' :: c :: cs => if c = 'e' ∨ c = 'E' then (go cs).map (· + 1) else none
    | _ => none
  (go segment).getD 0

/-- Resolve the segments of a path, `above` being those before, the last first. -/
def resolveSegments (above : List (List Char)) : List (List Char) → List (List Char)
  | [] => above.reverse
  | [last] =>
    if dots last = 2 then ([] :: above.tail).reverse
    else if dots last = 1 then ([] :: above).reverse
    else (last :: above).reverse
  | segment :: rest =>
    if dots segment = 2 then resolveSegments above.tail rest
    else if dots segment = 1 then resolveSegments above rest
    else resolveSegments (segment :: above) rest

/-- A path after its first slash, resolved and encoded. -/
def pathOf (special : Bool) (cs : List Char) : List Char :=
  let slashes := if special then cs.map fun c => if c = '\\' then '/' else c else cs
  let segments := (Host.split '/' slashes).map (Percent.encode escapedInPath)
  (resolveSegments [] segments).flatMap fun segment => '/' :: segment

/-- The text before a question mark or a number sign, and the rest. -/
def cutPath (cs : List Char) : List Char × List Char :=
  let ends := fun c : Char => c ≠ '?' ∧ c ≠ '#'
  (cs.takeWhile ends, cs.dropWhile ends)

/-- Read the query and the fragment into the URL. -/
def withQuery (url : Url) : List Char → Url
  | '?' :: cs =>
    let query := Percent.encode (escapedInQuery (isSpecial url.scheme)) (cs.takeWhile (· ≠ '#'))
    match cs.dropWhile (· ≠ '#') with
    | _ :: rest =>
      { url with query := some query, fragment := some (Percent.encode escapedInFragment rest) }
    | [] => { url with query := some query }
  | '#' :: cs => { url with fragment := some (Percent.encode escapedInFragment cs) }
  | _ => url

/-- Read what follows the two slashes of an authority. -/
def afterSlashes (url : Url) (cs : List Char) : Except UrlError Url := do
  let special := isSpecial url.scheme
  let ends := fun c => !endsAuthority special c
  let rest := cs.dropWhile ends
  let url ← url.withAuthority (cs.takeWhile ends) (!rest.isEmpty)
  let (path, tail) := cutPath rest
  let path :=
    match path with
    | [] => if special then ['/'] else []
    | _ :: segments => pathOf special segments
  return { url with path }.withQuery tail

/-- The host of a file URL; this computer's own name is no host. -/
def fileHost (cs : List Char) : Except UrlError (Option (List Char)) := do
  if cs.isEmpty then return none
  let host ← Host.specialHost cs
  return if host = "localhost".toList then none else some host

/-- Read what follows the scheme of a file. -/
def ofFile (url : Url) (cs : List Char) : Except UrlError Url := do
  let isSlash := fun c : Char => c = '/' || c = '\\'
  let (host, rest) ←
    match cs with
    | a :: b :: rest =>
      if isSlash a ∧ isSlash b then do
        let ends := fun c => !endsAuthority true c
        pure (← fileHost (rest.takeWhile ends), rest.dropWhile ends)
      else pure (none, cs)
    | _ => pure (none, cs)
  let (path, tail) := cutPath rest
  let segments := match path with
    | c :: more => if isSlash c then more else c :: more
    | [] => []
  return { url with hasAuthority := true, host, path := pathOf true segments }.withQuery tail

/-- Read a URL. -/
def ofText (text : String) : Except UrlError Url :=
  match scheme? (clean text.toList) with
  | none => .error .relativeWithoutBase
  | some (scheme, rest) =>
    let url : Url := { scheme }
    if scheme = "file" then url.ofFile rest
    else if isSpecial scheme then
      url.afterSlashes (rest.dropWhile fun c => c = '/' || c = '\\')
    else
      match rest with
      | '/' :: '/' :: cs => url.afterSlashes cs
      | '/' :: cs =>
        let (path, tail) := cutPath cs
        .ok ({ url with path := pathOf false path }.withQuery tail)
      | cs =>
        let (path, tail) := cutPath cs
        .ok ({ url with path := Percent.encode Percent.isControl path }.withQuery tail)

/-! ## Writing -/

/-- The user, the host and the port, after two slashes. -/
def authorityText (url : Url) : List Char :=
  let secret := (url.password.map (':' :: ·)).getD []
  let user := url.username ++ secret
  "//".toList ++ (if user.isEmpty then [] else user ++ ['@']) ++ url.host.getD [] ++
    (url.port.map fun n => ':' :: Digits.ofNat n).getD []

/-- The URL as text. -/
def text (url : Url) : String :=
  let start :=
    if url.hasAuthority then url.authorityText
    else if "//".toList.isPrefixOf url.path then "/.".toList
    else []
  String.ofList (url.scheme.toList ++ ':' :: start ++ url.path ++
    (url.query.map ('?' :: ·)).getD [] ++ (url.fragment.map ('#' :: ·)).getD [])

end Url

end RelMap
