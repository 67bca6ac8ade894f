import Montage.Disk.Path
import Montage.Number.Numeral
import Montage.Server.Message
import Montage.Text.Percent

namespace Montage

/-!
# Content of files

Which type a served file is said to have, under which name it is saved, whether
a client has it already, and which parts of it are asked for.
-/

/-! ## Types and names -/

/-- The types of files by the ends of their names. -/
def contentTypes : List (String × String) := [
  (".js", "application/javascript"), (".mjs", "application/javascript"),
  (".json", "application/json"), (".webmanifest", "application/manifest+json"),
  (".doc", "application/msword"), (".dot", "application/msword"),
  (".wiz", "application/msword"), (".nq", "application/n-quads"),
  (".nt", "application/n-triples"), (".bin", "application/octet-stream"),
  (".a", "application/octet-stream"), (".dll", "application/octet-stream"),
  (".exe", "application/octet-stream"), (".o", "application/octet-stream"),
  (".obj", "application/octet-stream"), (".so", "application/octet-stream"),
  (".oda", "application/oda"), (".pdf", "application/pdf"),
  (".p7c", "application/pkcs7-mime"), (".ps", "application/postscript"),
  (".ai", "application/postscript"), (".eps", "application/postscript"),
  (".trig", "application/trig"), (".m3u", "application/vnd.apple.mpegurl"),
  (".m3u8", "application/vnd.apple.mpegurl"),
  (".xls", "application/vnd.ms-excel"), (".xlb", "application/vnd.ms-excel"),
  (".ppt", "application/vnd.ms-powerpoint"),
  (".pot", "application/vnd.ms-powerpoint"),
  (".ppa", "application/vnd.ms-powerpoint"),
  (".pps", "application/vnd.ms-powerpoint"),
  (".pwz", "application/vnd.ms-powerpoint"), (".wasm", "application/wasm"),
  (".bcpio", "application/x-bcpio"), (".cpio", "application/x-cpio"),
  (".csh", "application/x-csh"), (".dvi", "application/x-dvi"),
  (".gtar", "application/x-gtar"), (".hdf", "application/x-hdf"),
  (".h5", "application/x-hdf5"), (".latex", "application/x-latex"),
  (".mif", "application/x-mif"), (".cdf", "application/x-netcdf"),
  (".nc", "application/x-netcdf"), (".p12", "application/x-pkcs12"),
  (".pfx", "application/x-pkcs12"), (".ram", "application/x-pn-realaudio"),
  (".sh", "application/x-sh"), (".shar", "application/x-shar"),
  (".swf", "application/x-shockwave-flash"),
  (".sv4cpio", "application/x-sv4cpio"), (".sv4crc", "application/x-sv4crc"),
  (".tar", "application/x-tar"), (".tcl", "application/x-tcl"),
  (".tex", "application/x-tex"), (".texi", "application/x-texinfo"),
  (".texinfo", "application/x-texinfo"), (".roff", "application/x-troff"),
  (".t", "application/x-troff"), (".tr", "application/x-troff"),
  (".man", "application/x-troff-man"), (".me", "application/x-troff-me"),
  (".ms", "application/x-troff-ms"), (".ustar", "application/x-ustar"),
  (".src", "application/x-wais-source"), (".xsl", "application/xml"),
  (".rdf", "application/xml"), (".wsdl", "application/xml"),
  (".xpdl", "application/xml"), (".zip", "application/zip"),
  (".3gp", "audio/3gpp"), (".3gpp", "audio/3gpp"), (".3g2", "audio/3gpp2"),
  (".3gpp2", "audio/3gpp2"), (".aac", "audio/aac"), (".adts", "audio/aac"),
  (".loas", "audio/aac"), (".ass", "audio/aac"), (".au", "audio/basic"),
  (".snd", "audio/basic"), (".mp3", "audio/mpeg"), (".mp2", "audio/mpeg"),
  (".opus", "audio/opus"), (".aif", "audio/x-aiff"), (".aifc", "audio/x-aiff"),
  (".aiff", "audio/x-aiff"), (".ra", "audio/x-pn-realaudio"),
  (".wav", "audio/x-wav"), (".avif", "image/avif"), (".bmp", "image/bmp"),
  (".gif", "image/gif"), (".ief", "image/ief"), (".jpg", "image/jpeg"),
  (".jpe", "image/jpeg"), (".jpeg", "image/jpeg"), (".heic", "image/heic"),
  (".heif", "image/heif"), (".png", "image/png"), (".svg", "image/svg+xml"),
  (".tiff", "image/tiff"), (".tif", "image/tiff"),
  (".ico", "image/vnd.microsoft.icon"), (".ras", "image/x-cmu-raster"),
  (".pnm", "image/x-portable-anymap"), (".pbm", "image/x-portable-bitmap"),
  (".pgm", "image/x-portable-graymap"), (".ppm", "image/x-portable-pixmap"),
  (".rgb", "image/x-rgb"), (".xbm", "image/x-xbitmap"),
  (".xpm", "image/x-xpixmap"), (".xwd", "image/x-xwindowdump"),
  (".eml", "message/rfc822"), (".mht", "message/rfc822"),
  (".mhtml", "message/rfc822"), (".nws", "message/rfc822"),
  (".css", "text/css"), (".csv", "text/csv"), (".html", "text/html"),
  (".htm", "text/html"), (".n3", "text/n3"), (".txt", "text/plain"),
  (".bat", "text/plain"), (".c", "text/plain"), (".h", "text/plain"),
  (".ksh", "text/plain"), (".pl", "text/plain"), (".srt", "text/plain"),
  (".rtx", "text/richtext"), (".tsv", "text/tab-separated-values"),
  (".vtt", "text/vtt"), (".etx", "text/x-setext"),
  (".sgm", "text/x-sgml"), (".sgml", "text/x-sgml"),
  (".vcf", "text/x-vcard"), (".xml", "text/xml"), (".mp4", "video/mp4"),
  (".mpeg", "video/mpeg"), (".m1v", "video/mpeg"), (".mpa", "video/mpeg"),
  (".mpe", "video/mpeg"), (".mpg", "video/mpeg"), (".mov", "video/quicktime"),
  (".qt", "video/quicktime"), (".webm", "video/webm"),
  (".avi", "video/x-msvideo"), (".movie", "video/x-sgi-movie")]

/-- Endings of packed files that also tell what is packed. -/
def joinedEndings : List (String × String) := [
  (".svgz", ".svg"), (".tgz", ".tar"), (".taz", ".tar"), (".tz", ".tar"),
  (".tbz2", ".tar"), (".txz", ".tar")]

/-- Endings that tell how a file is packed, and not what it holds. -/
def packedEndings : List String :=
  [".gz", ".Z", ".bz2", ".xz", ".br"]

/-- A name before its last dot, and its ending from there; dots at the start of
a name begin no ending. -/
def cutEnding (name : List Char) : List Char × String :=
  match cutAtLastChar? '.' name with
  | some (stem, ending) =>
      if stem.all (· == '.') then
        (name, "")
      else
        (stem, String.ofList ('.' :: ending))
  | none => (name, "")

/-- The ending that tells what a file holds. -/
def telling (name : List Char) : String :=
  let cut := cutEnding name
  let plain := String.ofList (cut.2.toList.map Char.toLower)
  match joinedEndings.lookup plain with
  | some inner => inner
  | none => if packedEndings.contains cut.2 then (cutEnding cut.1).2 else cut.2

/-- The type of a file by its name; unknown files are just bytes. -/
def contentType (name : String) : String :=
  let ending := String.ofList ((telling name.toList).toList.map Char.toLower)
  let found := (contentTypes.lookup ending).getD "application/octet-stream"
  if "text/".isPrefixOf found then found ++ "; charset=utf-8" else found

/-- How a file is saved under its name; some names need escapes. -/
def attachment (name : String) : String :=
  let escaped := String.ofList (percentEncode name.toList)
  if escaped = name then
    "attachment; filename=\"" ++ name ++ "\""
  else
    "attachment; filename*=utf-8''" ++ escaped

/-! ## Freshness

A client that has a file already asks for it only if it was changed after a
date. Scenarios tell no dates: their files count as changed in one year, which
a date has to exceed.
-/

namespace Freshness

/-- The names of days, in short. -/
def dayNames : List String :=
  ["mon", "tue", "wed", "thu", "fri", "sat", "sun"]

/-- The names of months, in short and in full. -/
def monthNames : List String := [
  "jan", "feb", "mar", "apr", "may", "jun", "jul", "aug", "sep", "oct", "nov",
  "dec", "january", "february", "march", "april", "may", "june", "july",
  "august", "september", "october", "november", "december"]

/-- A word in lower case. -/
def plainWord (word : List Char) : String :=
  String.ofList (word.map Char.toLower)

/-- A word without a comma at its end. -/
def withoutComma (word : List Char) : List Char :=
  if word.getLast? = some ',' then word.dropLast else word

/-- The words of a date without the name of its day. -/
def withoutDay : List (List Char) → List (List Char)
  | [] => []
  | first :: rest =>
      if first.getLast? = some ',' ∨ dayNames.contains (plainWord first) then
        rest
      else
        match cutAtLastChar? ',' first with
        | some (_, after) => after :: rest
        | none => first :: rest

/-- The words of a date whose day, month and year may be joined by hyphens. -/
def withDateParts : List (List Char) → List (List Char)
  | [date, time, zone] =>
      match splitAtChar '-' date with
      | [day, month, year] => [day, month, year, time, zone]
      | _ => [date, time, zone]
  | other => other

/-- A time and the zone that may follow it without a space. -/
def splitZone (time : List Char) : List Char × List Char :=
  let sign := if time.contains '+' then '+' else '-'
  let before := beforeChar sign time
  if before.isEmpty then (time, []) else (before, time.drop before.length)

/-- The words of a date, with a word for its zone in any case. -/
def withZone : List (List Char) → List (List Char)
  | [day, month, year, time] =>
      let parts := splitZone time
      [day, month, year, parts.1, parts.2]
  | other => other

/-- Whether a word is a number. -/
def isNumber (word : List Char) : Bool :=
  (integerOfText (String.ofList word)).toOption.isSome

/-- Whether a word is a time of day. -/
def isTime (word : List Char) : Bool :=
  let parts :=
    if word.contains ':' then splitAtChar ':' word else splitAtChar '.' word
  (parts.length == 2 || parts.length == 3) && parts.all isNumber

/-- The year of two digits is one near the turn of the century. -/
def fullYear (year : Int) : Int :=
  if 100 ≤ year then year
  else if 68 < year then year + 1900
  else year + 2000

/-- The year of a word. -/
def yearOf? (word : List Char) : Option Int :=
  ((integerOfText (String.ofList word)).toOption).map fullYear

/-- The year of the words for a day, a year, a time and a zone, where some may
have changed places. -/
def yearOfParts?
    (day year time zone : List Char) :
    Option Int :=
  let isSwapped := decide (0 < (beforeChar ':' year).length) &&
    year.contains ':'
  let told := withoutComma (if isSwapped then time else year)
  let clock := withoutComma (if isSwapped then year else time)
  let number := if told.head?.any isAsciiDigit then told else zone
  if told.isEmpty || !isNumber (withoutComma day) || !isTime clock then
    none
  else
    yearOf? number

/-- The year of a date. -/
def year? (date : String) : Option Int :=
  match (withZone (withDateParts (withoutDay (words date.toList)))).take 5 with
  | [first, second, year, time, zone] =>
      if monthNames.contains (plainWord second) && !first.isEmpty then
        yearOfParts? first year time zone
      else if monthNames.contains (plainWord first) && !second.isEmpty then
        yearOfParts? second year time zone
      else
        none
  | _ => none

/-- The year in which the files of scenarios count as changed. -/
def yearOfChange : Int :=
  2030

/-- Whether a client has a file already: it asks for one that was changed later
than that, and does not ask for one state of the file. -/
def isUnchanged (request : HttpRequest) : Bool :=
  (nonempty? (request.header? "if-none-match")).isNone &&
    ((request.header? "if-modified-since").bind year?).any fun year =>
      decide (yearOfChange < year)

end Freshness

/-! ## Ranges of files

A client may ask for parts of a file, told by the positions of their first and
last bytes, or by how many bytes of the end it wants. Parts that touch each
other are one part.
-/

/-- A part of a file: the position of its first byte and the one behind it. -/
structure FileRange where
  start : Int
  stop : Int
deriving DecidableEq, Repr

/-- Why a file is not handed out in the parts that are asked for. -/
inductive RangeError
  | malformed
  | otherUnit
  | nothingAsked
  | outside
  | reversed
deriving DecidableEq, Repr

/-- The answer that tells a range error. -/
def RangeError.response : RangeError → HttpResponse
  | malformed => .ofText 400 "Malformed range header."
  | otherUnit => .ofText 400 "Only support bytes range"
  | nothingAsked => .ofText 400 "Range header: range must be requested"
  | outside => .ofText 416 ""
  | reversed => .ofText 400 "Range header: start must be less than end"

namespace FileRange

/-- A position, if the text is an integer. -/
def position? (text : List Char) : Option Int :=
  (integerOfText (String.ofList text)).toOption

/-- The position behind a part whose last byte is told. -/
def stopAfter
    (size last : Int) :
    Int :=
  if last < size then last + 1 else size

/-- Read a part of a file of a size; what is no part is passed over. -/
def read?
    (size : Int)
    (text : List Char) :
    Option FileRange :=
  match cutAtChar? '-' text with
  | none => none
  | some (before, after) =>
      let first := trim before
      let last := trim after
      if first.isEmpty then
        (position? last).map fun count => ⟨max (size - count) 0, size⟩
      else if last.isEmpty then
        (position? first).map fun start => ⟨start, size⟩
      else
        (position? first).bind fun start =>
          (position? last).map fun position =>
            ⟨start, stopAfter size position⟩

/-- Whether one part comes before another. -/
def precedes (left right : FileRange) : Bool :=
  decide (left.start < right.start) ||
    (left.start == right.start && decide (left.stop ≤ right.stop))

/-- Put a part behind others, of which the last comes first; a part that
touches the last one is joined to it. -/
def joinTo
    (joined : List FileRange)
    (part : FileRange) :
    List FileRange :=
  match joined with
  | [] => [part]
  | last :: others =>
      if part.start ≤ last.stop then
        ⟨last.start, max last.stop part.stop⟩ :: others
      else
        part :: last :: others

/-- Join parts that touch each other; they come in their order. -/
def joinTouching (parts : List FileRange) : List FileRange :=
  (parts.foldl joinTo []).reverse

/-- Check the parts that are asked for, and join those that touch. -/
def check
    (size : Int)
    (parts : List FileRange) :
    Except RangeError (List FileRange) :=
  if parts.isEmpty then
    .error .nothingAsked
  else if parts.any fun part => part.start < 0 || size ≤ part.start then
    .error .outside
  else if parts.any fun part => part.stop < part.start then
    .error .reversed
  else
    .ok (joinTouching (parts.mergeSort precedes))

/-- The parts of a file of a size that a header asks for. -/
def readAll
    (size : Int)
    (header : String) :
    Except RangeError (List FileRange) :=
  match cutAtChar? '=' header.toList with
  | none => .error .malformed
  | some (unit, told) =>
      if (trim unit).map Char.toLower ≠ "bytes".toList then
        .error .otherUnit
      else
        check size ((splitAtChar ',' told).filterMap (read? size))

/-- The bytes of a part. -/
def cut
    (part : FileRange)
    (content : Bytes) :
    Bytes :=
  (content.drop part.start.toNat).take (part.stop - part.start).toNat

end FileRange

namespace HttpResponse

/-- The header with the parts that a request asks for; it does not count if
the request is about one state of the file. -/
def askedRanges? (request : HttpRequest) : Option String :=
  if (request.header? "if-range").isSome then
    none
  else
    request.header? "range"

/-- Hand out the part of a file that is asked for, if there is only one. -/
def inParts
    (response : HttpResponse)
    (request : HttpRequest) :
    HttpResponse :=
  match askedRanges? request, response.body with
  | some header, .bytes content =>
      match FileRange.readAll content.length header with
      | .error error => error.response
      | .ok [part] =>
          { response with
            status := 206
            body := .bytes (part.cut content) }
      | .ok _ => response
  | _, _ => response

end HttpResponse

end Montage
