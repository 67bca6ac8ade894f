import Montage.Asset.Download
import Montage.Font.Service

namespace Montage

/-!
# Font setup

Fonts of the catalog that are not there yet are downloaded, some at a time. A
font that cannot be downloaded is counted and passed over.
-/

/-- How the setup of all fonts ended. -/
structure FontCounts where
  downloaded : Nat := 0
  cached : Nat := 0
  failed : Nat := 0
deriving DecidableEq, Repr

namespace FontShelf

/-- Whether the file of a font is there and complete, asked of the disk. -/
def askCached
    (shelf : FontShelf)
    (name : String) :
    Program Bool :=
  Program.step (.fileSize (shelf.file name)) fun answer =>
    match answer with
    | .ok size => pure (leastSize < size)
    | .error _ => pure false

/-- The fonts of a list whose files are not there. -/
def askMissing
    (shelf : FontShelf) :
    List CatalogFont → Program (List CatalogFont)
  | [] => pure []
  | font :: rest => do
      let cached ← shelf.askCached font.name
      let others ← shelf.askMissing rest
      pure (if cached then others else font :: others)

/-- Download a font into its file. -/
def downloadFont
    (shelf : FontShelf)
    (font : CatalogFont) :
    Program (Outcome Unit) := do
  let answered ← askSuccessfully font.address
  match answered with
  | .error failure => pure (.error failure)
  | .ok reply =>
      match reply.broken with
      | some failure => pure (.error failure)
      | none =>
          Program.perform (.writeFile (shelf.file font.name) reply.body)

/-- Cut a list into pieces of a size; the last piece may be shorter. -/
def batches
    {α : Type}
    (size : Nat) :
    Nat → List α → List (List α)
  | 0, _ => []
  | _, [] => []
  | count + 1, items =>
      items.take size :: batches size count (items.drop size)

/-- Download batches one after another, and tell how each download ended. -/
def downloadBatches
    (shelf : FontShelf) :
    List (List CatalogFont) → Program (List (Outcome Unit))
  | [] => pure []
  | batch :: rest => do
      let outcomes ← Program.gather (batch.map shelf.downloadFont)
      let others ← shelf.downloadBatches rest
      pure (outcomes ++ others)

/-- The counts of a setup. -/
def countsOf
    (missing : List CatalogFont)
    (outcomes : List (Outcome Unit)) :
    FontCounts where
  downloaded := outcomes.countP Except.isOk
  cached := CatalogFont.catalog.length - missing.length
  failed := outcomes.countP fun outcome => !outcome.isOk

/-- Download missing fonts in batches; without a size there are no batches. -/
def downloadMissing
    (shelf : FontShelf)
    (batchSize : Int)
    (missing : List CatalogFont) :
    Program (Outcome FontCounts) :=
  if missing.isEmpty then
    pure (.ok (countsOf [] []))
  else if batchSize = 0 then
    pure (.error .emptyBatches)
  else do
    let groups :=
      if batchSize < 0 then
        []
      else
        batches batchSize.toNat missing.length missing
    let outcomes ← shelf.downloadBatches groups
    pure (.ok (countsOf missing outcomes))

/-- Make the directory of fonts and download what is missing there. -/
def setUp
    (shelf : FontShelf)
    (batchSize : Int) :
    Program (Outcome FontCounts) :=
  Program.step (.makeDirectories shelf.directory) fun made =>
    match made with
    | .error failure => pure (.error failure)
    | .ok _ => do
        let missing ← shelf.askMissing CatalogFont.catalog
        shelf.downloadMissing batchSize missing

end FontShelf

end Montage
