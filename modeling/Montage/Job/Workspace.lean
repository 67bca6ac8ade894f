import Montage.Disk.Basic

namespace Montage

/-!
# Workspaces

The files of one job. Their names start with the job's id, and every name that
is handed out is remembered, so that all files can be deleted at the end.
-/

/-- The names that a job has reserved in a directory. -/
structure Workspace where
  jobId : String
  root : Path
  files : List Path := []
  kept : List Path := []

namespace Workspace

/-- Remember a path, once. -/
def track
    (workspace : Workspace)
    (path : Path) :
    Workspace :=
  if workspace.files.contains path then
    workspace
  else
    { workspace with files := workspace.files ++ [path] }

/-- The path of a name that starts with the job's id. -/
def named
    (workspace : Workspace)
    (suffix : String) :
    Path :=
  workspace.root.join (workspace.jobId ++ suffix)

/-- Reserve a name. -/
def reserve
    (workspace : Workspace)
    (suffix : String) :
    Path × Workspace :=
  (workspace.named suffix, workspace.track (workspace.named suffix))

/-- Except a path from deletion. -/
def keep
    (workspace : Workspace)
    (path : Path) :
    Workspace :=
  { workspace with kept := path :: workspace.kept }

/-- The paths to delete at the end. -/
def disposable (workspace : Workspace) : List Path :=
  workspace.files.filter fun path => !workspace.kept.contains path

end Workspace

end Montage
