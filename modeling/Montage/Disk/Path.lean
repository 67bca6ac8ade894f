import Montage.Text.Split
import Montage.Text.Surrogate

namespace Montage

/-!
# Paths

A path is a number of leading slashes and a list of parts. Empty parts and
single dots are dropped when a text is read; two dots stay, because what they
mean depends on the disk.
-/

/-- A path of the file system. -/
structure Path where
  /-- No leading slash, one, or exactly two, which are kept apart from one. -/
  slashes : Nat
  /-- Names and double dots, from the first to the last. -/
  parts : List String
deriving DecidableEq, Repr

namespace Path

/-- The parts of a text that a path keeps. -/
def partsOf (text : List Char) : List String :=
  ((splitAtChar '/' text).filter fun part =>
      !part.isEmpty && part ≠ ['.']).map String.ofList

/-- How many leading slashes of a text a path keeps. -/
def leadingSlashes (text : List Char) : Nat :=
  match (text.takeWhile (· == '/')).length with
  | 0 => 0
  | 2 => 2
  | _ => 1

/-- Read a path. -/
def ofText (text : String) : Path where
  slashes := leadingSlashes text.toList
  parts := partsOf text.toList

/-- Write a path; the empty path is a dot. -/
def toText (path : Path) : String :=
  if path.slashes = 0 ∧ path.parts.isEmpty then
    "."
  else
    String.ofList
      (List.replicate path.slashes '/' ++
        joinWith ['/'] (path.parts.map String.toList))

/-- Continue a path by a text; a text with a leading slash replaces it. -/
def join
    (path : Path)
    (text : String) :
    Path :=
  let other := ofText text
  if other.slashes = 0 then
    { path with parts := path.parts ++ other.parts }
  else
    other

/-- The last part, or nothing. -/
def name (path : Path) : String :=
  path.parts.getLast?.getD ""

/-- The path without its last part. -/
def parent (path : Path) : Path :=
  { path with parts := path.parts.dropLast }

/-- The end of the last part from its last dot, if neither side is empty. -/
def suffix (path : Path) : String :=
  match cutAtLastChar? '.' path.name.toList with
  | some (stem, ending) =>
      if stem.isEmpty ∨ ending.isEmpty then
        ""
      else
        String.ofList ('.' :: ending)
  | none => ""

/-- Whether a file name can hold a character: it is not zero, and stands for no
lone surrogate but one of a byte. -/
def isNameable (character : Char) : Bool :=
  character ≠ '\x00' && !isBareSurrogate character

/-- Whether file names can hold all parts. -/
def isUsable (path : Path) : Bool :=
  path.parts.all fun part => part.toList.all isNameable

end Path

end Montage
