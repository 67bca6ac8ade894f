import Montage.Text.Percent
import Montage.Text.Split

namespace Montage

/-!
# Storage keys

A key names a stored object. The public address of an object is the public base
of the storage, a slash and the key; a key is read back from such an address
only if none of its segments could lead elsewhere.
-/

/-- The address of a key. -/
def publicAddress (base key : String) : String :=
  base ++ "/" ++ key

/-- Whether a segment is a plain name. -/
def isPlainSegment (segment : List Char) : Bool :=
  !segment.isEmpty && segment ≠ ['.'] && segment ≠ ['.', '.'] &&
    !segment.contains '\\'

/-- The rest of a text after a beginning. -/
def afterBeginning?
    (beginning : List Char)
    (text : List Char) :
    Option (List Char) :=
  if beginning.isPrefixOf text then
    some (text.drop beginning.length)
  else
    none

/-- The key of an address under a base. -/
def keyOfAddress?
    (address base : String) :
    Option String :=
  (afterBeginning? (base.toList ++ ['/']) address.toList).bind fun rest =>
    let key := percentDecode (beforeChar '#' (beforeChar '?' rest))
    if (splitAtChar '/' key).all isPlainSegment then
      some (String.ofList key)
    else
      none

/-- Drop slashes at the end of an address. -/
def withoutFinalSlashes (address : String) : String :=
  String.ofList (address.toList.reverse.dropWhile (· == '/')).reverse

/-- The key under which the result of a job is stored. -/
def resultKey
    (projectId : Option String)
    (jobId : String) :
    String :=
  let project := (projectId.filter (! ·.isEmpty)).getD "default"
  "final/" ++ project ++ "/final_" ++ jobId ++ ".mp4"

end Montage
