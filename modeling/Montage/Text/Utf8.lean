namespace Montage

/-!
# UTF-8

Text as bytes, and two readings of bytes that need not be text. One reads each
maximal run that cannot start a character as one replacement character; the
strict one tells where the first such run stands and why it is no text.
-/

/-- A sequence of bytes. -/
abbrev Bytes := List UInt8

/-- The UTF-8 bytes of a text. -/
def encodeUtf8 (text : List Char) : Bytes :=
  text.flatMap String.utf8EncodeChar

/-- The UTF-8 bytes of a string. -/
def bytesOf (text : String) : Bytes :=
  encodeUtf8 text.toList

/-- The character that stands for bytes that are no text. -/
def replacementCharacter : Char :=
  '\uFFFD'

/-- A character of which some bytes are still to come. -/
structure PartialCharacter where
  /-- Bytes to come, at least one. -/
  missing : Nat
  /-- Least value of the next byte. -/
  least : Nat
  /-- Greatest value of the next byte. -/
  greatest : Nat
  /-- Bits read so far. -/
  bits : Nat
deriving DecidableEq, Repr

/-- What the first byte of a character tells, if it can be one. -/
def startCharacter? (byte : Nat) : Option PartialCharacter :=
  if 0xC2 ≤ byte ∧ byte ≤ 0xDF then some ⟨1, 0x80, 0xBF, byte - 0xC0⟩
  else if byte = 0xE0 then some ⟨2, 0xA0, 0xBF, 0⟩
  else if byte = 0xED then some ⟨2, 0x80, 0x9F, 0xD⟩
  else if 0xE1 ≤ byte ∧ byte ≤ 0xEF then some ⟨2, 0x80, 0xBF, byte - 0xE0⟩
  else if byte = 0xF0 then some ⟨3, 0x90, 0xBF, 0⟩
  else if byte = 0xF4 then some ⟨3, 0x80, 0x8F, 4⟩
  else if 0xF1 ≤ byte ∧ byte ≤ 0xF3 then some ⟨3, 0x80, 0xBF, byte - 0xF0⟩
  else none

/-- Read a byte at the start of a character: text so far and what is open. -/
def startByte (byte : Nat) : List Char × Option PartialCharacter :=
  if byte < 0x80 then
    ([Char.ofNat byte], none)
  else
    match startCharacter? byte with
    | some opened => ([], some opened)
    | none => ([replacementCharacter], none)

/-- Read a byte inside a character; a byte that does not fit starts anew. -/
def nextByte
    (opened : PartialCharacter)
    (byte : Nat) :
    List Char × Option PartialCharacter :=
  if opened.least ≤ byte ∧ byte ≤ opened.greatest then
    let bits := opened.bits * 64 + (byte - 0x80)
    if opened.missing ≤ 1 then
      ([Char.ofNat bits], none)
    else
      ([], some ⟨opened.missing - 1, 0x80, 0xBF, bits⟩)
  else
    let started := startByte byte
    (replacementCharacter :: started.1, started.2)

/-- Read bytes with an open character. -/
def decodeFrom
    (opened : Option PartialCharacter) :
    Bytes → List Char
  | [] => if opened.isSome then [replacementCharacter] else []
  | byte :: rest =>
      let result :=
        match opened with
        | none => startByte byte.toNat
        | some started => nextByte started byte.toNat
      result.1 ++ decodeFrom result.2 rest

/-- The text of bytes, with replacement characters for what is no text. -/
def decodeUtf8 (bytes : Bytes) : List Char :=
  decodeFrom none bytes

/-- The text of bytes as a string. -/
def textOf (bytes : Bytes) : String :=
  String.ofList (decodeUtf8 bytes)

/-! ## Strict reading -/

/-- Why bytes are no text. -/
inductive Utf8Cause
  | noStart
  | noFurther
  | cutShort
deriving DecidableEq, Repr

/-- Bytes that are no text: where they stand, which they are, and why. -/
structure Utf8Fault where
  start : Nat
  bytes : Bytes
  cause : Utf8Cause
deriving DecidableEq, Repr

/-- The first bytes that are no text, if a character that starts somewhere is
open after some bytes. -/
def faultFrom?
    (start : Nat)
    (before : Bytes)
    (opened : Option PartialCharacter) :
    Bytes → Option Utf8Fault
  | [] => opened.map fun _ => ⟨start, before, .cutShort⟩
  | byte :: rest =>
      match opened with
      | none =>
          if byte.toNat < 0x80 then
            faultFrom? (start + 1) [] none rest
          else
            match startCharacter? byte.toNat with
            | some started => faultFrom? start [byte] (some started) rest
            | none => some ⟨start, [byte], .noStart⟩
      | some started =>
          if started.least ≤ byte.toNat ∧ byte.toNat ≤ started.greatest then
            match (nextByte started byte.toNat).2 with
            | some next => faultFrom? start (before ++ [byte]) (some next) rest
            | none => faultFrom? (start + before.length + 1) [] none rest
          else
            some ⟨start, before, .noFurther⟩

/-- The text of bytes, if all of them are text. -/
def strictTextOf (bytes : Bytes) : Except Utf8Fault String :=
  match faultFrom? 0 [] none bytes with
  | some fault => .error fault
  | none => .ok (textOf bytes)

end Montage
