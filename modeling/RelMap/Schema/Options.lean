-- SUMMARY: Option texts of fields and the maps that they spell.
import RelMap.Text.Blank

/-!
# Field options

An option text is a list of `key=value` pairs and bare keys, separated by
semicolons. `Options.ofText` reads it into a map; a bare key has the value `-`, and
of several values for one key the last stands. The map is kept in ascending order
of its keys.
-/
namespace RelMap

/-- A map from keys to values, in ascending order of the keys. -/
abbrev Options := List (String × String)

namespace Options

/-- Set a key, in place of the value that it had. -/
def insert (key value : String) : Options → Options
  | [] => [(key, value)]
  | (k, v) :: rest =>
    if key < k then (key, value) :: (k, v) :: rest
    else if key = k then (key, value) :: rest
    else (k, v) :: insert key value rest

/-- The value of a key. -/
def get? (key : String) : Options → Option String
  | [] => none
  | (k, v) :: rest => if key = k then some v else get? key rest

/-- The parts of a text between occurrences of `mark`. -/
def splitAll (mark : Char) : List Char → List (List Char)
  | [] => [[]]
  | c :: cs =>
    if c = mark then [] :: splitAll mark cs
    else
      match splitAll mark cs with
      | [] => [[c]]
      | part :: parts => (c :: part) :: parts

/-- The key and the value of one token, if it has a key. Later equals signs
belong to the value. -/
def entry? (token : List Char) : Option (String × String) :=
  let token := Text.trim token
  let key := Text.trim (token.takeWhile (· != '='))
  let value :=
    match token.dropWhile (· != '=') with
    | [] => ['-']
    | _ :: value => Text.trim value
  if key.isEmpty then none else some (String.ofList key, String.ofList value)

/-- Set the keys of the entries one after another. -/
def insertAll (entries : List (String × String)) (options : Options) : Options :=
  entries.foldl (fun acc (key, value) => insert key value acc) options

/-- The entries of an option text, in order. -/
def entries (text : String) : List (String × String) :=
  (splitAll ';' text.toList).filterMap entry?

/-- The map that an option text spells. -/
def ofText (text : String) : Options := insertAll (entries text) []

end Options

end RelMap
