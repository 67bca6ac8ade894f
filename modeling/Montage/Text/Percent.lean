import Montage.Text.Quoted
import Montage.Text.Utf8

namespace Montage

/-!
# Percent-encoded text

Reading `%XX` escapes as UTF-8 bytes and writing a name with only unreserved
characters.
-/

/-- The bytes of a text whose `%XX` escapes stand for single bytes. -/
def percentBytes : List Char → Bytes
  | [] => []
  | [character] => String.utf8EncodeChar character
  | [character, next] =>
      String.utf8EncodeChar character ++ String.utf8EncodeChar next
  | character :: high :: low :: rest =>
      match character, hexValue? high, hexValue? low with
      | '%', some upper, some lower =>
          UInt8.ofNat (16 * upper + lower) :: percentBytes rest
      | _, _, _ =>
          String.utf8EncodeChar character ++ percentBytes (high :: low :: rest)

/-- Read percent escapes; escaped bytes that are no text are replaced. -/
def percentDecode (text : List Char) : List Char :=
  decodeUtf8 (percentBytes text)

/-- Characters that need no escape in a path. -/
def isUnreserved (character : Char) : Bool :=
  character.isAlphanum || "_.-~/".toList.contains character

/-- Escape of one byte, with upper case digits. -/
def percentEscape (byte : UInt8) : List Char :=
  '%' :: (hexDigits 2 byte.toNat).map Char.toUpper

/-- Write everything but unreserved characters as percent escapes. -/
def percentEncode (text : List Char) : List Char :=
  text.flatMap fun character =>
    if isUnreserved character then
      [character]
    else
      (String.utf8EncodeChar character).flatMap percentEscape

end Montage
