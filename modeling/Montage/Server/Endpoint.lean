import Montage.Text.Percent
import Montage.Text.Split

namespace Montage

/-!
# Endpoints

Which endpoint a path belongs to. A path that only lacks a slash at its end, or
has slashes there that it should not have, leads to the path it should be.
-/

/-- What a client can ask for. -/
inductive Endpoint
  | information
  | health
  | effects
  | render
  | status (jobId : String)
  | download (name : String)
  | stored (path : String)
deriving DecidableEq, Repr

namespace Endpoint

/-- The method of an endpoint. -/
def method : Endpoint → String
  | render => "POST"
  | _ => "GET"

/-- Whether a segment is a name; a newline may follow it. -/
def isNamed
    (name : String)
    (segment : List Char) :
    Bool :=
  segment == name.toList || segment == name.toList ++ ['\n']

/-- The stored object of a path below the storage. A line may only end where
the path ends, and then the whole path is the name of the object. -/
def ofStoredPath? (path : List Char) : Option Endpoint :=
  if path.dropLast.contains '\n' then
    none
  else if path.getLast? = some '\n' ∧ path.head? ≠ some '/' then
    some (stored (String.ofList ("storage/".toList ++ path)))
  else
    some (stored (String.ofList path))

/-- The endpoint of the segments of a path. -/
def ofSegments? (servesStorage : Bool) : List (List Char) → Option Endpoint
  | [only] =>
      if isNamed "" only then some information
      else if isNamed "health" only then some health
      else if isNamed "effects" only then some effects
      else if isNamed "render" only then some render
      else none
  | first :: second :: rest =>
      if servesStorage && first == "storage".toList then
        ofStoredPath? (joinWith ['/'] (second :: rest))
      else if !rest.isEmpty || second.isEmpty then none
      else if first == "status".toList then
        some (status (String.ofList second))
      else if first == "download".toList then
        some (download (String.ofList second))
      else none
  | [] => none

/-- The endpoint of a path without escapes. -/
def ofPath? (servesStorage : Bool) : List Char → Option Endpoint
  | '/' :: rest => ofSegments? servesStorage (splitAtChar '/' rest)
  | _ => none

/-- The path with a slash at its end that it lacks, or without those it has. -/
def otherPath (path : List Char) : List Char :=
  if path.getLast? = some '/' then
    (path.reverse.dropWhile (· == '/')).reverse
  else
    path ++ ['/']

end Endpoint

/-- Where a path leads. -/
inductive Destination
  | endpoint (found : Endpoint)
  | redirect
  | nowhere
deriving DecidableEq, Repr

/-- Where the target of a request leads. -/
def Destination.ofTarget
    (servesStorage : Bool)
    (target : String) :
    Destination :=
  let path := percentDecode (beforeChar '?' (beforeChar '#' target.toList))
  match Endpoint.ofPath? servesStorage path with
  | some found => .endpoint found
  | none =>
      if path ≠ ['/'] ∧
          (Endpoint.ofPath? servesStorage (Endpoint.otherPath path)).isSome then
        .redirect
      else
        .nowhere

end Montage
