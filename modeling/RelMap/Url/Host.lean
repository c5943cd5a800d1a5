-- SUMMARY: Hosts of URLs: names, IPv4 and IPv6 addresses.
import RelMap.Text.Digits

/-!
# Hosts

The host of a URL with a special scheme is a domain name or an address; any number
at the end makes it an IPv4 address. Other schemes have opaque hosts, which are
kept as they are. Either may be an IPv6 address in brackets.
-/
namespace RelMap

/-- Why a text is not a URL. -/
inductive UrlError where
  | relativeWithoutBase
  | emptyHost
  | invalidPort
  | invalidIpv4
  | invalidIpv6
  | invalidDomainCharacter
  | invalidDomain
  deriving DecidableEq, Repr

def UrlError.message : UrlError → String
  | .relativeWithoutBase => "relative URL without a base"
  | .emptyHost => "empty host"
  | .invalidPort => "invalid port number"
  | .invalidIpv4 => "invalid IPv4 address"
  | .invalidIpv6 => "invalid IPv6 address"
  | .invalidDomainCharacter => "invalid domain character"
  | .invalidDomain => "invalid international domain name"

namespace Percent

/-- A byte as a percent sign and two hexadecimal digits. -/
def encodeByte (n : UInt8) : List Char :=
  let digit (k : Nat) : Char := ((Nat.toDigits 16 k).headD '0').toUpper
  ['%', digit (n.toNat / 16), digit (n.toNat % 16)]

/-- Encode the characters that `unsafeChar` picks, and all outside ASCII. -/
def encode (escaped : Char → Bool) (cs : List Char) : List Char :=
  cs.flatMap fun c =>
    if c.toNat < 0x80 ∧ !escaped c then [c]
    else (String.singleton c).toUTF8.data.toList.flatMap encodeByte

/-- The value of a hexadecimal digit. -/
def hexValue? (c : Char) : Option Nat :=
  if '0' ≤ c ∧ c ≤ '9' then some (c.toNat - '0'.toNat)
  else if 'a' ≤ c ∧ c ≤ 'f' then some (c.toNat - 'a'.toNat + 10)
  else if 'A' ≤ c ∧ c ≤ 'F' then some (c.toNat - 'A'.toNat + 10)
  else none

/-- The bytes of a text, with encoded ones decoded. -/
def decode : List Char → List UInt8
  | [] => []
  | '%' :: a :: b :: cs =>
    match hexValue? a, hexValue? b with
    | some x, some y => UInt8.ofNat (x * 16 + y) :: decode cs
    | _, _ => '%'.toNat.toUInt8 :: decode (a :: b :: cs)
  | c :: cs => (String.singleton c).toUTF8.data.toList ++ decode cs

/-- Controls are always encoded. -/
def isControl (c : Char) : Bool := c.toNat < 0x20 || c.toNat > 0x7E

end Percent

namespace Host

/-- The parts of a text between occurrences of a mark. -/
def split (mark : Char) : List Char → List (List Char)
  | [] => [[]]
  | c :: cs =>
    if c = mark then [] :: split mark cs
    else
      match split mark cs with
      | [] => [[c]]
      | part :: parts => (c :: part) :: parts

/-- The number that digits of a base make. -/
def radix? (base : Nat) (cs : List Char) : Option Nat :=
  cs.foldlM (fun acc c => (Percent.hexValue? c).bind fun d =>
    if d < base then some (acc * base + d) else none) 0

/-! ## IPv4 -/

/-- A part of an address: decimal, octal after a zero, hexadecimal after `0x`. -/
def ipv4Number? : List Char → Option Nat
  | [] => none
  | ['0'] => some 0
  | '0' :: c :: cs => if c = 'x' ∨ c = 'X' then radix? 16 cs else radix? 8 (c :: cs)
  | cs => radix? 10 cs

/-- Whether a domain ends in a number, a trailing dot aside. -/
def endsInNumber (domain : List Char) : Bool :=
  let parts := (split '.' domain).reverse
  let last? := match parts with
    | [] :: rest => rest.head?
    | part :: _ => some part
    | [] => none
  match last? with
  | some part => (!part.isEmpty && part.all Char.isDigit) || (ipv4Number? part).isSome
  | none => false

/-- The four bytes of an address, with dots between them. -/
def ipv4Text (address : Nat) : List Char :=
  Digits.ofNat (address / 0x1000000 % 256) ++ '.' :: Digits.ofNat (address / 0x10000 % 256) ++
    '.' :: Digits.ofNat (address / 0x100 % 256) ++ '.' :: Digits.ofNat (address % 256)

/-- The address that one to four numbers make; the last fills what is left. -/
def ipv4? (domain : List Char) : Option Nat :=
  let parts := split '.' domain
  let parts := if parts.getLast? = some [] then parts.dropLast else parts
  if parts.length > 4 then none
  else
    match parts.mapM ipv4Number? with
    | none => none
    | some numbers =>
      let leading := numbers.dropLast
      let last := numbers.getLast?.getD 0
      let room := [0x100000000, 0x1000000, 0x10000, 0x100].getD leading.length 0
      if last ≥ room ∨ leading.any (· > 255) then none
      else some (leading.foldl (fun n byte => n * 256 + byte) 0 * room + last)

/-! ## IPv6 -/

/-- A group of one to four hexadecimal digits. -/
def group? (cs : List Char) : Option Nat :=
  if cs.isEmpty ∨ cs.length > 4 then none else radix? 16 cs

/-- A byte in decimal notation without leading zeros. -/
def byte? (cs : List Char) : Option Nat :=
  match Digits.toNat? cs with
  | some n => if n ≤ 255 ∧ (cs.length = 1 ∨ cs.head? ≠ some '0') then some n else none
  | none => none

/-- The groups of a list of texts; the last one may be an IPv4 address. -/
def groups? : List (List Char) → Option (List Nat)
  | [] => some []
  | [last] =>
    if last.contains '.' then
      match (split '.' last).mapM byte? with
      | some [a, b, c, d] => some [a * 256 + b, c * 256 + d]
      | _ => none
    else (group? last).map ([·])
  | part :: parts =>
    match group? part, groups? parts with
    | some n, some ns => some (n :: ns)
    | _, _ => none

/-- The texts before and after a double colon. -/
def cutDouble : List Char → Option (List Char × List Char)
  | ':' :: ':' :: cs => some ([], cs)
  | c :: cs => (cutDouble cs).map fun (a, b) => (c :: a, b)
  | [] => none

/-- The groups between colons; none for no text. -/
def colonGroups? (cs : List Char) : Option (List Nat) :=
  if cs.isEmpty then some [] else groups? (split ':' cs)

/-- The eight groups of an address. A double colon stands for at least one zero. -/
def ipv6? (cs : List Char) : Option (List Nat) :=
  match cutDouble cs with
  | some (before, after) =>
    if before.contains '.' then none
    else
      match colonGroups? before, colonGroups? after with
      | some a, some b =>
        if a.length + b.length ≤ 7 then
          some (a ++ List.replicate (8 - a.length - b.length) 0 ++ b)
        else none
      | _, _ => none
  | none =>
    match colonGroups? cs with
    | some ns => if ns.length = 8 then some ns else none
    | none => none

/-- The length of the run of zeros at the front. -/
def zeros (ns : List Nat) : Nat := (ns.takeWhile (· = 0)).length

/-- The start and the length of the longest run of zeros, the first of equals. -/
def longestZeros (ns : List Nat) : Nat × Nat :=
  (List.range ns.length).foldl
    (fun best i => if zeros (ns.drop i) > best.2 then (i, zeros (ns.drop i)) else best) (0, 0)

/-- Groups with colons between them. -/
def groupsText (ns : List Nat) : List Char :=
  (List.intersperse [':'] (ns.map (Nat.toDigits 16))).flatten

/-- An address in brackets; the longest run of zeros is left out. -/
def ipv6Text (ns : List Nat) : List Char :=
  let (start, length) := longestZeros ns
  let body :=
    if length < 2 then groupsText ns
    else groupsText (ns.take start) ++ [':', ':'] ++ groupsText (ns.drop (start + length))
  '[' :: body ++ [']']

/-! ## Hosts -/

/-- Characters that no host holds. -/
def isForbidden (c : Char) : Bool :=
  c ∈ ['\x00', '\t', '\n', '\r', ' ', '#', '/', ':', '<', '>', '?', '@', '[', '\\', ']', '^', '|']

/-- An address in brackets. -/
def bracketed? (cs : List Char) : Except UrlError (List Char) :=
  match cs.getLast? with
  | some ']' =>
    match ipv6? cs.dropLast with
    | some ns => .ok (ipv6Text ns)
    | none => .error .invalidIpv6
  | _ => .error .invalidIpv6

/-- The host of a scheme that is not special. -/
def opaqueHost : List Char → Except UrlError (List Char)
  | '[' :: cs => bracketed? cs
  | cs =>
    if cs.any isForbidden then .error .invalidDomainCharacter
    else .ok (Percent.encode Percent.isControl cs)

/-- The lower case of letters of the Latin, Greek and Cyrillic scripts. -/
def lower (c : Char) : Char :=
  let n := c.toNat
  if (0xC0 ≤ n ∧ n ≤ 0xDE ∧ n ≠ 0xD7) ∨ (0x391 ≤ n ∧ n ≤ 0x3A9) ∨ (0x410 ≤ n ∧ n ≤ 0x42F) then
    Char.ofNat (n + 32)
  else if 0x400 ≤ n ∧ n ≤ 0x40F then Char.ofNat (n + 80)
  else c.toLower

/-- The digit of a label in the ASCII form. -/
def labelDigit (n : Nat) : Char :=
  if n < 26 then Char.ofNat ('a'.toNat + n) else Char.ofNat ('0'.toNat + n - 26)

/-- A number as digits of variable weight. -/
def variableLength (bias : Nat) : Nat → Nat → Nat → List Char
  | 0, _, _ => []
  | fuel + 1, k, q =>
    let t := if k ≤ bias then 1 else if k ≥ bias + 26 then 26 else k - bias
    if q < t then [labelDigit q]
    else labelDigit (t + (q - t) % (36 - t)) ::
      variableLength bias fuel (k + 36) ((q - t) / (36 - t))

/-- The bias after a delta. -/
def adaptBias (delta points : Nat) (first : Bool) : Nat :=
  let scaled := if first then delta / 700 else delta / 2
  let rec go : Nat → Nat → Nat → Nat
    | 0, k, _ => k
    | fuel + 1, k, d => if d > 455 then go fuel (k + 36) (d / 35) else k + 36 * d / (d + 38)
  go 32 0 (scaled + scaled / points)

/-- The state of encoding a label. -/
structure LabelState where
  delta : Nat
  bias : Nat
  handled : Nat
  out : List Char

/-- Encode the characters with code `n`, in the order of the label. -/
def encodeCode (basic n : Nat) (label : List Char) (s : LabelState) : LabelState :=
  label.foldl (fun s c =>
    if c.toNat < n then { s with delta := s.delta + 1 }
    else if c.toNat = n then
      ⟨0, adaptBias s.delta (s.handled + 1) (s.handled == basic), s.handled + 1,
        s.out ++ variableLength s.bias 16 36 s.delta⟩
    else s) s

/-- A label in the ASCII form of international names. -/
def labelToAscii (label : List Char) : List Char :=
  if label.all (·.toNat < 0x80) then label
  else
    let basic := label.filter (·.toNat < 0x80)
    let codes := ((label.filter (·.toNat ≥ 0x80)).map Char.toNat).mergeSort.eraseDups
    let start := basic ++ if basic.isEmpty then [] else ['-']
    let step (acc : Nat × LabelState) (n : Nat) : Nat × LabelState :=
      let s := { acc.2 with delta := acc.2.delta + (n - acc.1) * (acc.2.handled + 1) }
      let s := encodeCode basic.length n label s
      (n + 1, { s with delta := s.delta + 1 })
    let (_, s) := codes.foldl step (0x80, ⟨0, 72, basic.length, []⟩)
    "xn--".toList ++ start ++ s.out

/-- The host of a special scheme: percent-decoded, in lower case and in ASCII. -/
def domain (cs : List Char) : Except UrlError (List Char) :=
  match String.fromUTF8? ⟨(Percent.decode cs).toArray⟩ with
  | none => .error .invalidDomain
  | some text =>
    let lowered := text.toList.map lower
    if lowered.any (fun c => isForbidden c || c = '%' || c.toNat < 0x20 || c.toNat = 0x7F) then
      .error .invalidDomain
    else
      let ascii := (List.intersperse ['.'] ((split '.' lowered).map labelToAscii)).flatten
      if ascii.isEmpty then .error .emptyHost
      else if endsInNumber ascii then
        match ipv4? ascii with
        | some address => .ok (ipv4Text address)
        | none => .error .invalidIpv4
      else .ok ascii

/-- The host of a special scheme. -/
def specialHost : List Char → Except UrlError (List Char)
  | '[' :: cs => bracketed? cs
  | cs => domain cs

end Host

end RelMap
