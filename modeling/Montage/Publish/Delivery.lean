import Montage.Media.Report
import Montage.Storage.Key

namespace Montage

/-!
# Delivery

A result is either uploaded into the storage, or kept where it is and offered
for download.
-/

/-- Upload the result of a job and tell its address. -/
def uploadResult
    (file : Path)
    (projectId : Option String)
    (jobId : String) :
    Program (Outcome String) :=
  let key := resultKey projectId jobId
  Program.step (.upload file key "video/mp4") fun answer =>
    pure <| answer.mapError fun failure =>
      .server <| .publish <| some <|
        "Upload failed for " ++ key ++ ": " ++ failure.message

/-- The address under which a kept result is offered. -/
def downloadAddress
    (publicBase : String)
    (file : Path) :
    String :=
  withoutFinalSlashes publicBase ++ "/download/" ++ file.name

/-- Facts about a result. -/
def resultFacts
    (seconds : Option Int)
    (size : Int) :
    Json :=
  .object [
    ("duration_sec", .ofInteger? seconds),
    ("file_size", .integer size)]

/-- Facts about a result that was probed. -/
def probedFacts (info : MediaFacts) : Outcome Json := do
  let seconds ← info.wholeSeconds
  pure (resultFacts (some seconds) info.fileSize)

/-- Facts about a result; one that cannot be probed has only its size. -/
def describeResult
    (probeProgram : String)
    (file : Path) :
    Program (Outcome Json) := do
  let probed ← probeFile probeProgram file
  match probed.bind probedFacts with
  | .ok facts => pure (.ok facts)
  | .error failure =>
      if isProbeFailure failure then
        Program.step (.fileSize file) fun size =>
          pure (size.map fun (bytes : Nat) => resultFacts none bytes)
      else
        pure (.error failure)

/-- Offer a result for download: its address, and facts about it. -/
def offerResult
    (publicBase probeProgram : String)
    (file : Path) :
    Program (Outcome (String × Json)) := do
  let facts ← describeResult probeProgram file
  pure (facts.map fun value => (downloadAddress publicBase file, value))

end Montage
