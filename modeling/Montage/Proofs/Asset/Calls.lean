import Montage.Proofs.Work.Account

namespace Montage

/-!
# Calls of downloads

A download sends requests, asks the storage for an object, and writes into its
own file. Whatever is answered, it makes no other calls.
-/

/-- Every call that a download into a file may make is of a kind. -/
structure AllowsDownload
    (permitted : Call → Prop)
    (path : Path) :
    Prop where
  request : ∀ address, permitted (.request address)
  writeFile : ∀ content, permitted (.writeFile path content)
  appendFile : ∀ content, permitted (.appendFile path content)
  download : ∀ key, permitted (.download key path)

section Limits

variable {permitted : Call → Prop} {path : Path}

theorem askRemote_limited
    (requests : ∀ address, permitted (.request address))
    (count : Nat)
    (address : Address) :
    (askRemote count address).Limited permitted := by
  induction count generalizing address with
  | zero => exact .done _
  | succ remaining inductionHypothesis =>
      refine .step (requests _) ?_
      intro answer
      split
      · exact .done _
      · exact .done _
      · split
        · exact inductionHypothesis _
        · exact .done _
        · exact .done _

/-- To ask for an address is to send requests only. -/
theorem askSuccessfully_limited
    (requests : ∀ address, permitted (.request address))
    (address : String) :
    (askSuccessfully address).Limited permitted := by
  unfold askSuccessfully
  split
  · exact .done _
  · exact (askRemote_limited requests _ _).andThen fun _ => .done _

theorem appendBlocks_limited
    (allows : AllowsDownload permitted path)
    (blocks : List Bytes) :
    (appendBlocks path blocks).Limited permitted := by
  induction blocks with
  | nil => exact .done _
  | cons block rest inductionHypothesis =>
      refine .step (allows.appendFile block) ?_
      intro answer
      split
      · exact .done _
      · exact inductionHypothesis

theorem writeReply_limited
    (allows : AllowsDownload permitted path)
    (reply : Reply) :
    (writeReply path reply).Limited permitted := by
  refine .step (allows.writeFile []) ?_
  intro opened
  split
  · exact .done _
  · apply (appendBlocks_limited allows reply.blocks).andThen
    intro written
    split <;> exact .done _

theorem downloadRemote_limited
    (allows : AllowsDownload permitted path)
    (address : String) :
    (downloadRemote address path).Limited permitted := by
  apply (askSuccessfully_limited allows.request address).andThen
  intro answered
  cases answered with
  | error failure => exact .done _
  | ok reply =>
      exact (writeReply_limited allows reply).andThen fun _ => .done _

/-- A download makes such calls only. -/
theorem download_limited
    (allows : AllowsDownload permitted path)
    (storageBase : Option String)
    (address : String) :
    (download storageBase address path).Limited permitted := by
  unfold download
  split
  · exact downloadRemote_limited allows address
  · refine .step (allows.download _) ?_
    intro answer
    split
    · exact .done _
    · exact downloadRemote_limited allows address

end Limits

/-- A workspace permits downloads into its files. -/
theorem Workspace.allowsDownload
    {workspace : Workspace}
    {path : Path}
    (tracked : path ∈ workspace.files) :
    AllowsDownload workspace.Permits path where
  request _ := workspace.permits_of_no_targets rfl rfl
  writeFile _ := ⟨rfl, by simpa [Call.targets] using tracked⟩
  appendFile _ := ⟨rfl, by simpa [Call.targets] using tracked⟩
  download _ := ⟨rfl, by simpa [Call.targets] using tracked⟩

end Montage
