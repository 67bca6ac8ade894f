import Montage.Disk.Path
import Montage.Failure
import Montage.Text.Utf8

namespace Montage

/-!
# The disk

Files and directories by their place. A place is the list of names from the
root; paths lead to places, where double dots go up and every part but the last
has to be a directory. An operation that is refused tells the cause, and leaves
behind what it did before.
-/

/-- Why the system does not even look a path up: no file name can hold a bare
surrogate or the null character. -/
def Path.refusal? (path : Path) : Option Failure :=
  if path.isUsable then
    none
  else
    some <|
      match surrogatesFrom? isBareSurrogate path.toText.toList with
      | some run => .loneSurrogates run
      | none => .nullCharacter

/-- The names from the root to an entry. -/
abbrev Place := List String

/-- What stands at a place. -/
inductive Entry
  | file (content : Bytes)
  | directory
deriving DecidableEq, Repr

/-- All entries below the root, which is a directory itself. -/
structure Disk where
  entries : List (Place × Entry) := []
  /-- The size that the file system tells for a directory. -/
  directorySize : Nat := 4096

namespace Disk

/-- The entry at a place. -/
def entry?
    (disk : Disk)
    (place : Place) :
    Option Entry :=
  if place.isEmpty then some .directory else disk.entries.lookup place

/-- Put an entry at a place, in the stead of what stands there. -/
def put
    (disk : Disk)
    (place : Place)
    (entry : Entry) :
    Disk :=
  { disk with
    entries :=
      disk.entries.filter (fun item => item.1 ≠ place) ++ [(place, entry)] }

/-- Remove the entry at a place. -/
def remove
    (disk : Disk)
    (place : Place) :
    Disk :=
  { disk with entries := disk.entries.filter fun item => item.1 ≠ place }

/-- Remove the entry at a place and everything below it. -/
def removeTree
    (disk : Disk)
    (place : Place) :
    Disk :=
  { disk with
    entries := disk.entries.filter fun item => !place.isPrefixOf item.1 }

/-- The names of the entries directly below a place. -/
def children
    (disk : Disk)
    (place : Place) :
    List String :=
  disk.entries.filterMap fun item =>
    if item.1.dropLast = place then item.1.getLast? else none

/-- Greatest length of a name in bytes. -/
def nameLimit : Nat :=
  255

/-- Greatest length of a path in bytes. -/
def pathLimit : Nat :=
  4095

/-- Go into a part of a directory, which has to be a directory again. -/
def enter
    (disk : Disk)
    (place : Place)
    (part : String) :
    Except FileCause Place :=
  if part = ".." then
    .ok place.dropLast
  else if nameLimit < part.utf8ByteSize then
    .error .nameTooLong
  else
    match disk.entry? (place ++ [part]) with
    | some .directory => .ok (place ++ [part])
    | some (.file _) => .error .notDirectory
    | none => .error .missing

/-- The place that a path leads to; nothing needs to stand there. -/
def locate
    (disk : Disk)
    (path : Path) :
    Except FileCause Place :=
  if pathLimit < path.toText.utf8ByteSize then
    .error .nameTooLong
  else
    match path.parts.getLast? with
    | none => .ok []
    | some last => do
        let directory ← path.parts.dropLast.foldlM disk.enter []
        if last = ".." then
          .ok directory.dropLast
        else if nameLimit < last.utf8ByteSize then
          .error .nameTooLong
        else
          .ok (directory ++ [last])

/-- The place and the entry that a path leads to. -/
def status
    (disk : Disk)
    (path : Path) :
    Except FileCause (Place × Entry) := do
  let place ← disk.locate path
  match disk.entry? place with
  | some entry => .ok (place, entry)
  | none => .error .missing

/-- A result about a path, unless the path is refused. -/
def about
    {α : Type}
    (path : Path)
    (result : Except FileCause α) :
    Outcome α :=
  match path.refusal? with
  | some failure => .error failure
  | none => result.mapError fun cause => .file cause path.toText

/-- Whether something stands at a path; only too long a name is refused. -/
def holds
    (disk : Disk)
    (path : Path) :
    Outcome Bool :=
  if path.isUsable then
    match disk.status path with
    | .ok _ => .ok true
    | .error .nameTooLong => .error (.file .nameTooLong path.toText)
    | .error _ => .ok false
  else
    .ok false

/-- Whether a directory stands at a path. -/
def isDirectory
    (disk : Disk)
    (path : Path) :
    Bool :=
  path.isUsable &&
    match disk.status path with
    | .ok (_, .directory) => true
    | _ => false

/-- The bytes of a file. -/
def read
    (disk : Disk)
    (path : Path) :
    Outcome Bytes :=
  about path <| do
    let found ← disk.status path
    match found.2 with
    | .file content => .ok content
    | .directory => .error .isDirectory

/-- The size of a file, or the one that is told for a directory. -/
def size
    (disk : Disk)
    (path : Path) :
    Outcome Nat :=
  about path <| do
    let found ← disk.status path
    match found.2 with
    | .file content => .ok content.length
    | .directory => .ok disk.directorySize

/-- The place where a file may be written. -/
def writable
    (disk : Disk)
    (path : Path) :
    Except FileCause Place := do
  let place ← disk.locate path
  match disk.entry? place with
  | some .directory => .error .isDirectory
  | _ => .ok place

/-- Write a file, new or in the stead of an old one. -/
def write
    (disk : Disk)
    (path : Path)
    (content : Bytes) :
    Outcome Disk :=
  about path <|
    (disk.writable path).map fun place => disk.put place (.file content)

/-- Write bytes at the end of a file. -/
def append
    (disk : Disk)
    (path : Path)
    (content : Bytes) :
    Outcome Disk := do
  let before ← disk.read path
  disk.write path (before ++ content)

/-- Make one directory where nothing stands. -/
def makeDirectory
    (disk : Disk)
    (path : Path) :
    Outcome Disk :=
  about path <| do
    let place ← disk.locate path
    match disk.entry? place with
    | some _ => .error .occupied
    | none => .ok (disk.put place .directory)

/-- Make a directory unless it is there, after the directory above it. -/
def makeDirectoriesFrom
    (slashes : Nat) :
    Nat → List String → Disk → Outcome Unit × Disk
  | 0, _, disk => (.ok (), disk)
  | depth + 1, parts, disk =>
      let path : Path := { slashes, parts }
      match disk.makeDirectory path with
      | .ok made => (.ok (), made)
      | .error (.file .missing text) =>
          if parts.isEmpty then
            (.error (.file .missing text), disk)
          else
            match makeDirectoriesFrom slashes depth parts.dropLast disk with
            | (.error failure, below) => (.error failure, below)
            | (.ok _, below) =>
                match below.makeDirectory path with
                | .ok made => (.ok (), made)
                | .error failure =>
                    if below.isDirectory path then
                      (.ok (), below)
                    else
                      (.error failure, below)
      | .error (.file cause text) =>
          if disk.isDirectory path then
            (.ok (), disk)
          else
            (.error (.file cause text), disk)
      | .error failure => (.error failure, disk)

/-- Make a directory and all directories above it, as far as they lack. -/
def makeDirectories
    (disk : Disk)
    (path : Path) :
    Outcome Unit × Disk :=
  makeDirectoriesFrom path.slashes (path.parts.length + 1) path.parts disk

/-- Remove a file; that nothing stands there is no failure. -/
def unlink
    (disk : Disk)
    (path : Path) :
    Outcome Disk :=
  about path <|
    match disk.status path with
    | .ok (place, .file _) => .ok (disk.remove place)
    | .ok (_, .directory) => .error .isDirectory
    | .error .missing => .ok disk
    | .error cause => .error cause

/-- Whether two paths lead to one entry. -/
def isSame
    (disk : Disk)
    (first second : Path) :
    Bool :=
  match disk.status first, disk.status second with
  | .ok (left, _), .ok (right, _) => left = right
  | _, _ => false

/-- Copy the bytes of a file; source and destination have to differ. -/
def copy
    (disk : Disk)
    (source destination : Path)
    (sameFile : Failure) :
    Outcome Disk :=
  match source.refusal? <|> destination.refusal? with
  | some failure => .error failure
  | none =>
      if disk.isSame source destination then
        .error sameFile
      else do
        let content ← disk.read source
        disk.write destination content

/-- Remove files; failures of the system are passed over, and another one ends
the removal. -/
def cleanup
    (disk : Disk) :
    List Path → Outcome Unit × Disk
  | [] => (.ok (), disk)
  | path :: rest =>
      match disk.unlink path with
      | .ok cleaned => cleaned.cleanup rest
      | .error failure =>
          if failure.failureClass = .system then
            disk.cleanup rest
          else
            (.error failure, disk)

/-- Empty a directory but for some names, and count what was removed. -/
def clear
    (disk : Disk)
    (path : Path)
    (kept : List String) :
    Outcome Nat × Disk :=
  match disk.makeDirectories path with
  | (.error failure, made) => (.error failure, made)
  | (.ok _, made) =>
      match made.locate path with
      | .error cause => (.error (.file cause path.toText), made)
      | .ok place =>
          let removed :=
            (made.children place).filter fun name => !kept.contains name
          (.ok removed.length,
            removed.foldl
              (fun current name => current.removeTree (place ++ [name]))
              made)

/-- What stands below a place: files, and directories that are empty. -/
def listing
    (disk : Disk)
    (place : Place) :
    List (Place × Option Bytes) :=
  disk.entries.filterMap fun item =>
    if place.isPrefixOf item.1 && item.1 ≠ place then
      let below := item.1.drop place.length
      match item.2 with
      | .file content => some (below, some content)
      | .directory =>
          if (disk.children item.1).isEmpty then some (below, none) else none
    else
      none

end Disk

end Montage
