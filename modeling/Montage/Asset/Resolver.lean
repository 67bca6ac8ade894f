import Montage.Asset.Download
import Montage.Disk.Path
import Montage.Failure
import Montage.Graph.Basic
import Montage.Json.Operand
import Montage.Json.Shown
import Montage.Work.Job

namespace Montage

/-!
# Assets of a job

Every address of a job gets one file, numbered in the order of the first
mention, and is downloaded once. Downloads that start together run side by
side, and all of them end before the first failure is told.
-/

/-! ## Extensions

The file name extension that an address tells, or the usual one of its kind.
-/

/-- The path of an address, without the parameters of its last segment. -/
def addressPath (address : String) : Outcome (List Char) :=
  match Reference.read "" address with
  | .ok reference => .ok reference.path
  | .error cause => .error (.reference cause)

/-- The usual extension of a kind. -/
def MediaKind.extension : MediaKind → String
  | video => ".mp4"
  | audio => ".mp3"
  | image => ".png"
  | subtitle => ".srt"
  | other _ => ".bin"

/-- Greatest length of an extension that is taken from an address. -/
def extensionLimit : Nat :=
  6

/-- The extension of a file for an address. -/
def assetExtension
    (address : String)
    (kind : MediaKind) :
    Outcome String := do
  let path ← addressPath address
  let found := (Path.ofText (String.ofList path)).suffix
  pure
    (if found.isEmpty ∨ extensionLimit < found.length then
      kind.extension
    else
      found)

/-! ## References -/

/-- An address and what it holds. -/
structure AssetReference where
  address : String
  kind : MediaKind

namespace AssetReference

/-- Reserve the file of an asset that has none. -/
def reserve (reference : AssetReference) : JobProgram Path := do
  let extension ←
    JobProgram.ofOutcome (assetExtension reference.address reference.kind)
  let files ← JobProgram.files
  let path ←
    JobProgram.reserve
      ("_asset_" ++ showNatural files.assets.length ++ extension)
  JobProgram.rememberAsset reference.address path
  pure path

/-- Reserve files for assets that have none, and tell which these are. -/
def reserveNew : List AssetReference → JobProgram (List (String × Path))
  | [] => pure []
  | reference :: rest => do
      let files ← JobProgram.files
      match getField? reference.address files.assets with
      | some _ => reserveNew rest
      | none =>
          let path ← reference.reserve
          let others ← reserveNew rest
          pure ((reference.address, path) :: others)

/-- The file of an asset, which is downloaded on the first mention. -/
def fetch
    (storageBase : Option String)
    (reference : AssetReference) :
    JobProgram Path := do
  let files ← JobProgram.files
  match getField? reference.address files.assets with
  | some path => pure path
  | none =>
      let path ← reference.reserve
      JobProgram.attempt (download storageBase reference.address path)
      pure path

end AssetReference

/-- A failure among downloads, as the client is told. -/
def fetchFailure (failure : Failure) : Failure :=
  let message := "Asset fetch failed: " ++ failure.message
  let wrapped := Failure.server (.resource (some message))
  match failure with
  | .server error => if error.kind = .resource then failure else wrapped
  | _ => wrapped

/-- The first failure of downloads, if any. -/
def firstFailure : List (Outcome Unit) → Outcome Unit
  | [] => .ok ()
  | .ok _ :: rest => firstFailure rest
  | .error failure :: _ => .error (fetchFailure failure)

/-- The files of assets, each address once. -/
def assetFiles
    (references : List AssetReference)
    (assets : List (String × Path)) :
    List (String × Path) :=
  fieldsOf <| references.filterMap fun reference =>
    (getField? reference.address assets).map fun path =>
      (reference.address, path)

/-- Fetch assets side by side and tell their files. -/
def fetchTogether
    (storageBase : Option String)
    (references : List AssetReference) :
    JobProgram (List (String × Path)) := do
  let pending ← AssetReference.reserveNew references
  let outcomes ←
    JobProgram.ofProgram <| Program.gather <| pending.map fun item =>
      download storageBase item.1 item.2
  JobProgram.ofOutcome (firstFailure outcomes)
  let files ← JobProgram.files
  pure (assetFiles references files.assets)

/-- Bytes in units of 1024 * 1024. -/
def megabytes (bytes : Amount) : Outcome Binary64 :=
  ofArithmetic (bytes.divide (.whole (1024 * 1024)))

/-- Refuse to go on with less free space than asked for. -/
def checkFreeSpace (least free : Amount) : Outcome Unit := do
  let amount ← megabytes free
  if (Amount.fraction amount).less least then
    .error <| .server <| .resource <| some <|
      "Insufficient disk space: " ++ String.ofList (amount.fixedText 0) ++
        "MB free, " ++ least.toJson.plainText ++ "MB required"
  else
    .ok ()

/-- Refuse to go on if the disk of the workspace is nearly full. -/
def ensureFreeSpace (least : Amount) : JobProgram Unit := do
  let files ← JobProgram.files
  let free ←
    JobProgram.attempt (Program.perform (.freeBytes files.workspace.root))
  JobProgram.ofOutcome (checkFreeSpace least free)

end Montage
