import Bookkeeping.Text.Divided
import Bookkeeping.Text.Percent
import Bookkeeping.Value

/-!
# Paths and queries

A path names a resource by segments between slashes, and may carry a query
behind a question mark.  Percent signs are resolved before the path is divided.
-/

namespace Bookkeeping.Http

/-- A path without its query. -/
def bareCharacters (path : String) : List Char :=
  path.toList.takeWhile fun character => character != '?' && character != '#'

/-- The name and the value of one item of a query; a plus sign stands for a blank. -/
def queryItem (item : List Char) : String × String :=
  let read (characters : List Char) := Text.resolved (Text.blankForPlus characters)
  (read (item.takeWhile (· != '=')), read ((item.dropWhile (· != '=')).drop 1))

/-- The query that a path carries. -/
def pathQuery (path : String) : List (String × String) :=
  let behind := (path.toList.takeWhile (· != '#')).dropWhile (· != '?')
  ((Text.divided '&' (behind.drop 1)).filter (!·.isEmpty)).map queryItem

/-- The segments of a path behind its first slash. -/
def segments (path : List Char) : List String :=
  let inner := match path with
    | '/' :: rest => rest
    | rest => rest
  (Text.divided '/' inner).map String.ofList

/-- The segments that a path names, with percent signs resolved. -/
def pathSegments (path : String) : List String :=
  segments (Text.resolved (bareCharacters path)).toList

/-- The segments with one line feed less at the end of the last of them. -/
def withoutLineFeed (segments : List String) : List String :=
  match segments.reverse with
  | last :: front =>
    match last.toList.reverse with
    | '\n' :: rest => (String.ofList rest.reverse :: front).reverse
    | _ => segments
  | [] => segments

/-- The segments without the empty ones at the end. -/
def withoutTrailing (segments : List String) : List String :=
  (segments.reverse.dropWhile String.isEmpty).reverse

/-- A value as a query sends it: truth values in lower case, and null as nothing. -/
def queryText : Value → String
  | .null => ""
  | .bool held => if held then "true" else "false"
  | value => value.shown

/-- The last value of a name in a query. -/
def lastValue? (query : List (String × String)) (name : String) : Option String :=
  query.reverse.lookup name

end Bookkeeping.Http
