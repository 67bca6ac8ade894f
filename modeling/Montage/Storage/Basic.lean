import Montage.Storage.Bucket
import Montage.Storage.Local

namespace Montage

/-!
# Object storage

Where results are stored and assets may come from: a directory of the server,
or a remote bucket.
-/

/-- The storage of a server. -/
inductive ObjectStorage
  | directory (storage : LocalStorage)
  | remote (bucket : Bucket)

namespace ObjectStorage

/-- The base of public addresses. -/
def publicBase : ObjectStorage → String
  | directory storage => storage.publicBase
  | remote bucket => bucket.publicBase

/-- The public address of a key. -/
def address
    (storage : ObjectStorage)
    (key : String) :
    String :=
  publicAddress storage.publicBase key

/-- The key of a public address. -/
def key?
    (storage : ObjectStorage)
    (address : String) :
    Option String :=
  keyOfAddress? address storage.publicBase

/-- What a request leaves: its result, the storage and the disk. -/
structure Effect (α : Type) where
  result : Outcome α
  storage : ObjectStorage
  disk : Disk

/-- Store a file under a key and tell the public address. -/
def upload
    (storage : ObjectStorage)
    (disk : Disk)
    (source : Path)
    (key : String)
    (contentType : Option String) :
    Effect String :=
  match storage with
  | directory store =>
      let (result, after) := store.upload disk source key
      { result, storage, disk := after }
  | remote bucket =>
      let (result, after) := bucket.upload disk source key contentType
      { result, storage := .remote after, disk }

/-- Copy an object into a file. -/
def download
    (storage : ObjectStorage)
    (disk : Disk)
    (key : String)
    (destination : Path) :
    Effect Unit :=
  match storage with
  | directory store =>
      let (result, after) := store.download disk key destination
      { result, storage, disk := after }
  | remote bucket =>
      match bucket.download disk key destination with
      | (.ok written, after) =>
          { result := .ok (), storage := .remote after, disk := written }
      | (.error failure, after) =>
          { result := .error failure, storage := .remote after, disk }

/-- Whether there is an object of a key. -/
def holds
    (storage : ObjectStorage)
    (disk : Disk)
    (key : String) :
    Effect Bool :=
  match storage with
  | directory store =>
      let (result, after) := store.holds disk key
      { result, storage, disk := after }
  | remote bucket =>
      let (result, after) := bucket.holds key
      { result := .ok result, storage := .remote after, disk }

end ObjectStorage

end Montage
