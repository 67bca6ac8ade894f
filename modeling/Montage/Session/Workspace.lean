import Montage.Job.Workspace
import Montage.Scenario.Files
import Montage.Session.Basic

namespace Montage

/-!
# Sessions with a workspace

Names are reserved, files are written and removed.
-/

/-- What can be done with a workspace and the disk around it. -/
inductive WorkspaceCommand
  | reserve (suffix : String)
  | track (path : Path)
  | keep (path : Path)
  | write (path : Path) (content : String)
  | makeDirectory (path : Path)
  | cleanUp
  | remove (paths : List Path)
  | clear (path : Path) (kept : List String)

namespace WorkspaceCommand

/-- The names that clearing keeps when nothing else is said. -/
def standardKept : List String :=
  [".gitkeep"]

/-- Read a command; its names are relative to a root. -/
def ofJson? (root : Path) : Json → Option WorkspaceCommand
  | .array [.text "path", .text suffix] => some (reserve suffix)
  | .array [.text "track", .text name, .bool isBelowRoot] =>
      some (track (if isBelowRoot then root.join name else .ofText name))
  | .array [.text "keep", .text name] => some (keep (root.join name))
  | .array [.text "write", .text name, .text content] =>
      some (write (root.join name) content)
  | .array [.text "mkdir", .text name] => some (makeDirectory (root.join name))
  | .array [.text "cleanup"] => some cleanUp
  | .array [.text "cleanup_files", .array names] =>
      some (remove ((names.filterMap Json.text?).map root.join))
  | .array [.text "clear", .text name] =>
      some (clear (root.join name) standardKept)
  | .array [.text "clear", .text name, kept] =>
      some (clear (root.join name) kept.texts)
  | _ => none

end WorkspaceCommand

/-- A workspace and a disk. -/
structure WorkspaceSession where
  workspace : Workspace
  disk : Disk

namespace WorkspaceSession

/-- What can be observed below a root. -/
def observed
    (session : WorkspaceSession)
    (root : Path) :
    Fields := [
  ("tracked", .ofTexts (session.workspace.files.map Path.toText)),
  ("disk", session.disk.fileNames root)]

/-- Take over what an operation without a result left of the disk. -/
def withDisk
    (session : WorkspaceSession)
    (change : Outcome Unit × Disk) :
    Outcome Json × WorkspaceSession :=
  (change.1.map fun _ => .null, { session with disk := change.2 })

/-- Remove files. -/
def remove
    (session : WorkspaceSession)
    (paths : List Path) :
    Outcome Json × WorkspaceSession :=
  session.withDisk (session.disk.cleanup paths)

/-- Write a text into a file, which stays empty if the text cannot be written
in bytes. -/
def writeText
    (session : WorkspaceSession)
    (path : Path)
    (content : String) :
    Outcome Unit × Disk :=
  match firstSurrogates? content.toList with
  | none => session.disk.writeBelow path (bytesOf content)
  | some run =>
      match session.disk.writeBelow path [] with
      | (.ok _, disk) => (.error (.loneSurrogates run), disk)
      | refused => refused

/-- Run a command. -/
def run (session : WorkspaceSession) :
    WorkspaceCommand → Outcome Json × WorkspaceSession
  | .reserve suffix =>
      let (path, workspace) := session.workspace.reserve suffix
      (.ok (.text path.toText), { session with workspace })
  | .track path =>
      (.ok (.text path.toText),
        { session with workspace := session.workspace.track path })
  | .keep path =>
      (.ok .null, { session with workspace := session.workspace.keep path })
  | .write path content => session.withDisk (session.writeText path content)
  | .makeDirectory path => session.withDisk (session.disk.makeDirectories path)
  | .cleanUp => session.remove session.workspace.disposable
  | .remove paths => session.remove paths
  | .clear path kept =>
      let (counted, disk) := session.disk.clear path kept
      (counted.map fun count => .integer count, { session with disk })

/-- Run a command and observe what is below a root. -/
def step
    (root : Path)
    (session : WorkspaceSession)
    (command : WorkspaceCommand) :
    SessionStep WorkspaceSession :=
  let (result, state) := session.run command
  { result, observed := state.observed root, state }

end WorkspaceSession

end Montage
