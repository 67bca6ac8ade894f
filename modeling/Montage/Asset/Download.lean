import Montage.Storage.Key
import Montage.Work.Program

namespace Montage

/-!
# Downloads

A remote asset is copied into a file. An asset of the server's own storage is
taken from there; if that fails, or if the asset is none of the storage's, its
address is asked, and answers that lead elsewhere are followed.
-/

/-- Statuses that may lead elsewhere. -/
def redirectStatuses : List Nat :=
  [301, 302, 303, 307, 308]

/-- How many answers are followed. -/
def redirectLimit : Nat :=
  20

/-- How many bytes are written at once. -/
def blockSize : Nat :=
  1024 * 1024

/-- Where an answer leads to, if it leads elsewhere. -/
def Reply.redirect? (reply : Reply) : Option String :=
  if redirectStatuses.contains reply.status then reply.location else none

/-- Whether a status tells of success. -/
def isSuccess (status : Nat) : Bool :=
  200 ≤ status && status < 300

namespace Address

/-- Find an address, or fail with what is wrong about it. -/
def ofResult (result : Except AddressError Address) : Outcome Address :=
  result.mapError .address

/-- The address of a target that is seen from another address. -/
def joined (address target : Address) : Outcome Address :=
  match Reference.join address.toText target.toText with
  | .error cause => .error (.reference cause)
  | .ok whole => ofResult (read whole)

/-- The address that a location on a server leads to. -/
def located (address target : Address) : Outcome Address := do
  let hosted ←
    if !target.scheme.isEmpty && target.host.isEmpty then
      ofResult (target.withHostOf address)
    else
      pure target
  if hosted.isComplete then
    pure hosted
  else
    address.joined hosted

/-- Keep a fragment where an answer leads elsewhere without one. -/
def keepFragment (address target : Address) : Outcome Address :=
  if target.fragmentText.isEmpty && !address.fragmentText.isEmpty then
    ofResult (target.withFragment address.fragmentText)
  else
    .ok target

/-- The address that an answer leads to. -/
def follow
    (address : Address)
    (location : String) :
    Outcome Address :=
  match read location with
  | .error cause => .error (.transport (.badLocation cause))
  | .ok target => do
      let located ← address.located target
      address.keepFragment located

/-- Fail if an address does not tell how to speak to its server. -/
def checkScheme (address : Address) : Outcome Unit :=
  if address.isComplete then
    .ok ()
  else
    .error (.unknownScheme address.toText)

end Address

/-- Ask for an address, so many times at most, until an answer leads nowhere
else; the address that gave it is told too. -/
def askRemote :
    Nat →
    Address →
    Program (Outcome (Address × Reply))
  | 0, _ => pure (.error (.transport .tooManyRedirects))
  | remaining + 1, address =>
      Program.step (.request address.toText) fun answer =>
        match answer, address.checkScheme with
        | .error failure, _ => pure (.error failure)
        | .ok _, .error failure => pure (.error failure)
        | .ok reply, .ok _ =>
            match reply.redirect?.map address.follow with
            | some (.ok target) => askRemote remaining target
            | some (.error failure) => pure (.error failure)
            | none => pure (.ok (address, reply))

/-- Accept a successful answer only. -/
def accepted
    (source : Address)
    (reply : Reply) :
    Outcome Reply :=
  if isSuccess reply.status then
    .ok reply
  else
    .error (.transport (.badStatus reply.status source.toText))

/-- Ask for an address and accept a successful answer only. -/
def askSuccessfully
    (address : String) :
    Program (Outcome Reply) :=
  match Address.readRequested address with
  | .error cause => pure (.error (.address cause))
  | .ok target => do
      let answered ← askRemote (redirectLimit + 1) target
      pure (answered.bind fun found => accepted found.1 found.2)

/-- Cut bytes into full blocks and a rest. -/
def cutBlocks
    (size : Nat) :
    Nat → Bytes → List Bytes × Bytes
  | 0, bytes => ([], bytes)
  | count + 1, bytes =>
      let cut := cutBlocks size count (bytes.drop size)
      (bytes.take size :: cut.1, cut.2)

/-- The blocks that arrive: a broken body loses its last, short one. -/
def Reply.blocks (reply : Reply) : List Bytes :=
  let cut := cutBlocks blockSize (reply.body.length / blockSize) reply.body
  if reply.broken.isSome || cut.2.isEmpty then cut.1 else cut.1 ++ [cut.2]

/-- Write blocks at the end of a file. -/
def appendBlocks (destination : Path) : List Bytes → Program (Outcome Unit)
  | [] => pure (.ok ())
  | block :: rest =>
      Program.step (.appendFile destination block) fun answer =>
        match answer with
        | .error failure => pure (.error failure)
        | .ok _ => appendBlocks destination rest

/-- Write the body of an answer into a file. -/
def writeReply
    (destination : Path)
    (reply : Reply) :
    Program (Outcome Unit) :=
  Program.step (.writeFile destination []) fun opened =>
    match opened with
    | .error failure => pure (.error failure)
    | .ok _ => do
        let written ← appendBlocks destination reply.blocks
        match written, reply.broken with
        | .ok _, some failure => pure (.error failure)
        | outcome, _ => pure outcome

/-- A failure of a download, as the client is told. -/
def downloadFailure
    (address : String)
    (destination : Path)
    (failure : Failure) :
    Failure :=
  match failure.failureClass with
  | .transport =>
      .server <| .resource <| some <|
        "Failed to download " ++ address ++ ": " ++ failure.message
  | .system =>
      .server <| .resource <| some <|
        "Failed to write " ++ destination.name ++ ": " ++ failure.message
  | _ => failure

/-- Copy what an address holds into a file. -/
def downloadRemote
    (address : String)
    (destination : Path) :
    Program (Outcome Unit) := do
  let answered ← askSuccessfully address
  let outcome ←
    match answered with
    | .error failure => pure (.error failure)
    | .ok reply => writeReply destination reply
  pure (outcome.mapError (downloadFailure address destination))

/-- Copy an asset into a file, from the storage of the given base if it can. -/
def download
    (storageBase : Option String)
    (address : String)
    (destination : Path) :
    Program (Outcome Unit) :=
  match storageBase.bind (keyOfAddress? address) with
  | none => downloadRemote address destination
  | some key =>
      Program.step (.download key destination) fun answer =>
        match answer with
        | .ok _ => pure (.ok ())
        | .error _ => downloadRemote address destination

end Montage
