import Montage.Text.Surrogate
import Montage.Text.Utf8

namespace Montage

/-!
# Encodings of documents

A document of mostly plain characters tells by the zeros among its first bytes
how many bytes a character takes and in which order they come.
-/

/-- The order of the bytes of a unit. -/
inductive ByteOrder
  | highFirst
  | lowFirst
deriving DecidableEq, Repr

/-- How the characters of a document are written. -/
inductive TextEncoding
  | bytes
  | pairs (order : ByteOrder)
  | quadruples (order : ByteOrder)
deriving DecidableEq, Repr

namespace TextEncoding

/-- The encoding that the first bytes of a document tell. -/
def ofStart : Bytes → TextEncoding
  | 0 :: second :: _ :: _ :: _ =>
      if second = 0 then quadruples .highFirst else pairs .highFirst
  | _ :: 0 :: third :: fourth :: _ =>
      if third = 0 ∧ fourth = 0 then quadruples .lowFirst else pairs .lowFirst
  | [0, _] => pairs .highFirst
  | [_, 0] => pairs .lowFirst
  | _ => bytes

end TextEncoding

namespace ByteOrder

/-- The number that bytes denote. -/
def value
    (order : ByteOrder)
    (unit : Bytes) :
    Nat :=
  let bytes :=
    match order with
    | highFirst => unit
    | lowFirst => unit.reverse
  bytes.foldl (fun total byte => 256 * total + byte.toNat) 0

/-- The numbers of units of two bytes, unless one byte is left. -/
def pairValues?
    (order : ByteOrder) :
    Bytes → Option (List Nat)
  | first :: second :: rest =>
      (order.pairValues? rest).map (order.value [first, second] :: ·)
  | [] => some []
  | _ => none

/-- The numbers of units of four bytes, unless some bytes are left. -/
def quadrupleValues?
    (order : ByteOrder) :
    Bytes → Option (List Nat)
  | first :: second :: third :: fourth :: rest =>
      (order.quadrupleValues? rest).map
        (order.value [first, second, third, fourth] :: ·)
  | [] => some []
  | _ => none

end ByteOrder

/-- The characters of units of two bytes. -/
def pairCharacters : List Nat → List Char
  | [] => []
  | [unit] => [characterOf unit]
  | first :: second :: rest =>
      if opensSurrogates first && closesSurrogates second then
        joinSurrogates first second :: pairCharacters rest
      else
        characterOf first :: pairCharacters (second :: rest)

/-- The characters of units of four bytes, unless one denotes none. -/
def quadrupleCharacters? (units : List Nat) : Option (List Char) :=
  if units.all (· < 0x110000) then
    some (units.map characterOf)
  else
    none

/-- The characters of a document in the encoding that its start tells. -/
def documentText? (document : Bytes) : Option (List Char) :=
  match TextEncoding.ofStart document with
  | .bytes => some (decodeUtf8 document)
  | .pairs order => (order.pairValues? document).map pairCharacters
  | .quadruples order =>
      (order.quadrupleValues? document).bind quadrupleCharacters?

end Montage
