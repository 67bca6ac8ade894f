import Montage.Disk.Basic
import Montage.Storage.Key

namespace Montage

/-!
# Storage in a remote bucket

Objects are held by a remote service. The connection is made on the first use;
every request to the service is noted.
-/

/-- A request to the service. -/
inductive BucketRequest
  | connect (project : Option String)
  | openBucket (name : String)
  | upload (key : String) (source : Path) (contentType : Option String)
  | download (key : String) (destination : Path)
  | lookUp (key : String)

/-- A bucket, its objects, and the requests that were made. -/
structure Bucket where
  name : String
  project : String := ""
  publicBase : String
  objects : List (String × Bytes) := []
  isOpen : Bool := false
  requests : List BucketRequest := []

namespace Bucket

/-- The public base of a bucket: the given one, or that of the service. -/
def baseFor (name given : String) : String :=
  withoutFinalSlashes <|
    (nonempty? (some given)).getD ("https://storage.googleapis.com/" ++ name)

/-- Note a request, after the connection is made. -/
def note
    (bucket : Bucket)
    (request : BucketRequest) :
    Bucket :=
  let connection :=
    if bucket.isOpen then
      []
    else
      [.connect (nonempty? (some bucket.project)), .openBucket bucket.name]
  { bucket with
    isOpen := true
    requests := bucket.requests ++ connection ++ [request] }

/-- Store a file under a key and tell the public address. -/
def upload
    (bucket : Bucket)
    (disk : Disk)
    (source : Path)
    (key : String)
    (contentType : Option String) :
    Outcome String × Bucket :=
  let noted := bucket.note (.upload key source (nonempty? contentType))
  match disk.read source with
  | .error failure => (.error failure, noted)
  | .ok content =>
      (.ok (publicAddress bucket.publicBase key),
        { noted with objects := setField key content noted.objects })

/-- Copy an object into a file. -/
def download
    (bucket : Bucket)
    (disk : Disk)
    (key : String)
    (destination : Path) :
    Outcome Disk × Bucket :=
  let noted := bucket.note (.download key destination)
  match getField? key noted.objects with
  | none => (.error (.missingObject key), noted)
  | some content => (disk.write destination content, noted)

/-- Whether there is an object of a key. -/
def holds
    (bucket : Bucket)
    (key : String) :
    Bool × Bucket :=
  ((getField? key bucket.objects).isSome, bucket.note (.lookUp key))

end Bucket

end Montage
