import Montage.Job.Workspace
import Montage.Work.Program

namespace Montage

/-!
# Programs of one job

A job's program keeps account of the job's files while it runs, and stops at
the first failure. The account outlives the failure, so that the files can be
removed.
-/

/-- The files of a job. -/
structure JobFiles where
  workspace : Workspace
  /-- The file of each remote asset, in the order of the first mention. -/
  assets : List (String × Path) := []

/-- A program of one job. -/
abbrev JobProgram := ExceptT Failure (StateT JobFiles Program)

namespace JobProgram

variable {α : Type}

/-- Run a program that knows nothing of the job. -/
def ofProgram (program : Program α) : JobProgram α :=
  ExceptT.lift (StateT.lift program)

/-- Stop at a failure. -/
def ofOutcome (outcome : Outcome α) : JobProgram α :=
  ExceptT.mk (pure outcome)

/-- Run a program and stop if it fails. -/
def attempt (program : Program (Outcome α)) : JobProgram α :=
  ExceptT.mk (StateT.lift program)

/-- The account of the job's files. -/
def files : JobProgram JobFiles :=
  ExceptT.lift get

/-- Reserve a name in the job's workspace. -/
def reserve (suffix : String) : JobProgram Path :=
  ExceptT.lift <| modifyGet fun files =>
    let reserved := files.workspace.reserve suffix
    (reserved.1, { files with workspace := reserved.2 })

/-- Except a file from removal. -/
def keep (path : Path) : JobProgram Unit :=
  ExceptT.lift <| modify fun files =>
    { files with workspace := files.workspace.keep path }

/-- Remember the file of a remote asset. -/
def rememberAsset (address : String) (path : Path) : JobProgram Unit :=
  ExceptT.lift <| modify fun files =>
    { files with assets := setField address path files.assets }

/-- Run the program of a job from an account of its files. -/
def start
    (program : JobProgram α)
    (files : JobFiles) :
    Program (Outcome α × JobFiles) :=
  (ExceptT.run program).run files

end JobProgram

end Montage
