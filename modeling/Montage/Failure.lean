import Montage.Address.Basic
import Montage.Address.Reference
import Montage.Json.Reader
import Montage.ServerError
import Montage.Signature
import Montage.Text.Quoted
import Montage.Text.Surrogate
import Montage.Text.Utf8

namespace Montage

/-!
# Failures

Everything that can go wrong while a job is prepared and run, as causes. The
class of a failure decides who handles it; its text is what is recorded.
-/

/-- Why the file system refuses an operation. -/
inductive FileCause
  | missing
  | occupied
  | notDirectory
  | isDirectory
  | nameTooLong
deriving DecidableEq, Repr

namespace FileCause

/-- The system's number of a cause. -/
def number : FileCause → Nat
  | missing => 2
  | occupied => 17
  | notDirectory => 20
  | isDirectory => 21
  | nameTooLong => 36

/-- The system's text of a cause. -/
def text : FileCause → String
  | missing => "No such file or directory"
  | occupied => "File exists"
  | notDirectory => "Not a directory"
  | isDirectory => "Is a directory"
  | nameTooLong => "File name too long"

end FileCause

/-- What an outside service reports when it does not answer. -/
inductive ReportKind
  | missingFile
  | forbidden
  | system
  | value
  | runtime
  | lookup
  | connection
  | timeout
  | reading
deriving DecidableEq, Repr

/-- The type of a JSON value, as messages name it. -/
inductive JsonType
  | null
  | boolean
  | integer
  | number
  | text
  | array
  | object
deriving DecidableEq, Repr

namespace JsonType

/-- The type of a value. -/
def of : Json → JsonType
  | .null => null
  | .bool _ => boolean
  | .integer _ => integer
  | .number _ => number
  | .text _ => text
  | .array _ => array
  | .object _ => object

/-- The name of a type in messages. -/
def name : JsonType → String
  | null => "NoneType"
  | boolean => "bool"
  | integer => "int"
  | number => "float"
  | text => "str"
  | array => "list"
  | object => "dict"

end JsonType

/-- What two values are joined by. -/
inductive Operator
  | sum
  | product
  | quotient
  | wholeQuotient
deriving DecidableEq, Repr

/-- The sign of an operator. -/
def Operator.sign : Operator → String
  | sum => "+"
  | product => "*"
  | quotient => "/"
  | wholeQuotient => "//"

/-- A value has not the type that its use needs. -/
inductive ShapeError
  | noNumber (found : JsonType)
  | noInteger (found : JsonType)
  | noFields (found : JsonType)
  | noText (found : JsonType)
  | noMembers (found : JsonType)
  | noItems (found : JsonType)
  | noKey (found : JsonType)
  | noFileName (found : JsonType)
  | noAddressText (found : JsonType) (shown : String)
  | noOperation (operator : Operator) (left right : JsonType)
  | noOrder (left right : JsonType)
  | noLimit (left right : JsonType)
  | noRepetition (count : JsonType)
  | noConcatenation (left right : JsonType)
  | textIndex
  | arrayIndex
deriving DecidableEq, Repr

/-- The text of a shape error. -/
def ShapeError.message : ShapeError → String
  | noNumber found =>
      "float() argument must be a string or a real number, not '" ++
        found.name ++ "'"
  | noInteger found =>
      "int() argument must be a string, a bytes-like object or a real number, "
        ++ "not '" ++ found.name ++ "'"
  | noFields found => "'" ++ found.name ++ "' object has no attribute 'get'"
  | noText found => "'" ++ found.name ++ "' object has no attribute 'strip'"
  | noMembers found =>
      "argument of type '" ++ found.name ++ "' is not iterable"
  | noItems found => "'" ++ found.name ++ "' object is not iterable"
  | noKey found => "unhashable type: '" ++ found.name ++ "'"
  | noFileName found =>
      "expected str, bytes or os.PathLike object, not " ++ found.name
  | noAddressText found shown =>
      "Invalid type for url.  Expected str or httpx.URL, got <class '" ++
        found.name ++ "'>: " ++ shown
  | noOperation operator left right =>
      "unsupported operand type(s) for " ++ operator.sign ++ ": '" ++
        left.name ++ "' and '" ++ right.name ++ "'"
  | noOrder left right =>
      "'<' not supported between instances of '" ++ left.name ++ "' and '" ++
        right.name ++ "'"
  | noLimit left right =>
      "'<=' not supported between instances of '" ++ left.name ++ "' and '" ++
        right.name ++ "'"
  | noRepetition count =>
      "can't multiply sequence by non-int of type '" ++ count.name ++ "'"
  | noConcatenation left right =>
      "can only concatenate " ++ left.name ++ " (not \"" ++ right.name ++
        "\") to " ++ left.name
  | textIndex => "string indices must be integers, not 'str'"
  | arrayIndex => "list indices must be integers or slices, not str"

/-- Why a remote resource could not be read. -/
inductive TransportError
  | badStatus (status : Nat) (url : String)
  | badLocation (cause : AddressError)
  | tooManyRedirects
deriving DecidableEq, Repr

/-- A failure with its cause. -/
inductive Failure
  | file (cause : FileCause) (path : String)
  | sameFile (source destination : String)
  | nullCharacter
  | loneSurrogates (run : SurrogateRun)
  | arithmetic (cause : ArithmeticError)
  | numeral (cause : NumeralError)
  | tooDeep (container : Json.Container)
  | partCount (expected found : Nat)
  | pairLength (index found : Nat)
  | address (cause : AddressError)
  | reference (cause : ReferenceError)
  | unknownScheme (url : String)
  | noAddress
  | emptyBatches
  | infiniteNumber
  | noServiceName
  | noServiceVersion
  | keyOutsideStorage (key : String)
  | unknownStatus (status : String)
  | unknownField (name : String)
  | argument (cause : ArgumentError)
  | unknownKey (key : String)
  | shape (cause : ShapeError)
  | probeRefused (errorOutput : String)
  | probeUnreadable (reason : String)
  | missingObject (key : String)
  | transport (cause : TransportError)
  | reported (kind : ReportKind) (text : String)
  | server (error : ServerError)

/-- Classes of failures that are handled alike. -/
inductive FailureClass
  | system
  | transport
  | value
  | runtime
  | server
  | other
deriving DecidableEq, Repr

/-- The class of what an outside service reports. -/
def ReportKind.failureClass : ReportKind → FailureClass
  | missingFile => .system
  | forbidden => .system
  | system => .system
  | value => .value
  | runtime => .runtime
  | lookup => .other
  | connection => .transport
  | timeout => .transport
  | reading => .transport

/-- The text of a numeral error; an unreadable integer is shown in part, and one
that is not written not at all. -/
def NumeralError.message : NumeralError → String
  | notANumber text => "could not convert string to float: " ++ quoted text
  | notAnInteger text =>
      "invalid literal for int() with base 10: " ++
        String.ofList ((quoted text).toList.take 200)
  | tooManyDigits count =>
      "Exceeds the limit (" ++ showNatural digitLimit ++
        " digits) for integer string conversion: value has " ++
        showNatural count ++ " digits; use sys.set_int_max_str_digits() " ++
        "to increase the limit"
  | unwritten =>
      "Exceeds the limit (" ++ showNatural digitLimit ++
        " digits) for integer string conversion; use " ++
        "sys.set_int_max_str_digits() to increase the limit"

/-- The phrase that goes with a status code; empty for unknown codes. -/
def reasonPhrase (status : Nat) : String :=
  ([(100, "Continue"), (101, "Switching Protocols"), (102, "Processing"),
    (103, "Early Hints"), (200, "OK"), (201, "Created"), (202, "Accepted"),
    (203, "Non-Authoritative Information"), (204, "No Content"),
    (205, "Reset Content"), (206, "Partial Content"), (207, "Multi-Status"),
    (208, "Already Reported"), (226, "IM Used"), (300, "Multiple Choices"),
    (301, "Moved Permanently"), (302, "Found"), (303, "See Other"),
    (304, "Not Modified"), (305, "Use Proxy"), (307, "Temporary Redirect"),
    (308, "Permanent Redirect"), (400, "Bad Request"), (401, "Unauthorized"),
    (402, "Payment Required"), (403, "Forbidden"), (404, "Not Found"),
    (405, "Method Not Allowed"), (406, "Not Acceptable"),
    (407, "Proxy Authentication Required"), (408, "Request Timeout"),
    (409, "Conflict"), (410, "Gone"), (411, "Length Required"),
    (412, "Precondition Failed"), (413, "Request Entity Too Large"),
    (414, "Request-URI Too Long"), (415, "Unsupported Media Type"),
    (416, "Requested Range Not Satisfiable"), (417, "Expectation Failed"),
    (418, "I'm a teapot"), (421, "Misdirected Request"),
    (422, "Unprocessable Entity"), (423, "Locked"),
    (424, "Failed Dependency"), (425, "Too Early"), (426, "Upgrade Required"),
    (428, "Precondition Required"), (429, "Too Many Requests"),
    (431, "Request Header Fields Too Large"),
    (451, "Unavailable For Legal Reasons"), (500, "Internal Server Error"),
    (501, "Not Implemented"), (502, "Bad Gateway"),
    (503, "Service Unavailable"), (504, "Gateway Timeout"),
    (505, "HTTP Version Not Supported"), (506, "Variant Also Negotiates"),
    (507, "Insufficient Storage"), (508, "Loop Detected"),
    (510, "Not Extended"), (511, "Network Authentication Required")].lookup
    status).getD ""

/-- The text about surrogates that cannot be written. -/
def SurrogateRun.message (run : SurrogateRun) : String :=
  let last := run.start + run.units.length - 1
  let place :=
    match run.units with
    | [unit] =>
        " '" ++ String.ofList (escapeCode unit) ++ "' in position " ++
          showNatural run.start
    | _ =>
        "s in position " ++ showNatural run.start ++ "-" ++ showNatural last
  "'utf-8' codec can't encode character" ++ place ++
    ": surrogates not allowed"

/-- The text of a cause for which bytes are no text. -/
def Utf8Cause.message : Utf8Cause → String
  | noStart => "invalid start byte"
  | noFurther => "invalid continuation byte"
  | cutShort => "unexpected end of data"

/-- The text about bytes that are no text. -/
def Utf8Fault.message (fault : Utf8Fault) : String :=
  let last := fault.start + fault.bytes.length - 1
  let place :=
    match fault.bytes with
    | [byte] =>
        " 0x" ++ String.ofList (hexDigits 2 byte.toNat) ++ " in position " ++
          showNatural fault.start
    | _ =>
        "s in position " ++ showNatural fault.start ++ "-" ++ showNatural last
  "'utf-8' codec can't decode byte" ++ place ++ ": " ++ fault.cause.message

/-- What a status code says about an answer that is no success. -/
def statusClass (status : Nat) : String :=
  match status / 100 with
  | 1 => "Informational response"
  | 3 => "Redirect response"
  | 4 => "Client error"
  | 5 => "Server error"
  | _ => "Invalid status code"

/-- The text of a transport error. -/
def TransportError.message : TransportError → String
  | badStatus status url =>
      statusClass status ++ " '" ++ showNatural status ++ " " ++
        reasonPhrase status ++ "' for url '" ++ url ++
        "'\nFor more information check: " ++
        "https://developer.mozilla.org/en-US/docs/Web/HTTP/Status/" ++
        showNatural status
  | badLocation cause =>
      "Invalid URL in location header: " ++ cause.message ++ "."
  | tooManyRedirects => "Exceeded maximum allowed redirects."

namespace Failure

/-- The text of a failure. -/
def message : Failure → String
  | file cause path =>
      "[Errno " ++ showNatural cause.number ++ "] " ++ cause.text ++ ": " ++
        quoted path
  | sameFile source destination =>
      source ++ " and " ++ destination ++ " are the same file"
  | nullCharacter => "embedded null byte"
  | loneSurrogates run => run.message
  | arithmetic cause => cause.message
  | numeral cause => cause.message
  | tooDeep container =>
      "maximum recursion depth exceeded while decoding a JSON " ++
        container.name ++ " from a unicode string"
  | partCount expected found =>
      if found < expected then
        "not enough values to unpack (expected " ++ showNatural expected ++
          ", got " ++ showNatural found ++ ")"
      else
        "too many values to unpack (expected " ++ showNatural expected ++ ")"
  | pairLength index found =>
      "dictionary update sequence element #" ++ showNatural index ++
        " has length " ++ showNatural found ++ "; 2 is required"
  | address cause => cause.message
  | reference cause => cause.message
  | unknownScheme url => "unknown url type: " ++ quoted url
  | noAddress =>
      "argument should be a str object or an os.PathLike object returning str, "
        ++ "not <class 'bytes'>"
  | emptyBatches => "range() arg 3 must not be zero"
  | infiniteNumber => "Out of range float values are not JSON compliant"
  | noServiceName =>
      "A title must be provided for OpenAPI, e.g.: 'My API'"
  | noServiceVersion =>
      "A version must be provided for OpenAPI, e.g.: '2.1.0'"
  | keyOutsideStorage key => "Storage key escapes storage root: " ++ key
  | unknownStatus status => "Unknown job status: " ++ status
  | unknownField name => "Unknown job field: " ++ name
  | argument cause => cause.message
  | unknownKey key => quoted key
  | shape cause => cause.message
  | probeRefused errorOutput => "ffprobe failed: " ++ errorOutput
  | probeUnreadable reason => "Failed to parse ffprobe output: " ++ reason
  | missingObject key => "404 " ++ key
  | transport cause => cause.message
  | reported .lookup text => quoted text
  | reported _ text => text
  | server error => error.message

/-- The class of a failure. -/
def failureClass : Failure → FailureClass
  | file .. => .system
  | sameFile .. => .system
  | nullCharacter => .value
  | loneSurrogates _ => .value
  | arithmetic .infinityToInteger => .other
  | arithmetic .nanToInteger => .value
  | arithmetic _ => .other
  | numeral _ => .value
  | tooDeep _ => .runtime
  | partCount .. => .value
  | pairLength .. => .value
  | address _ => .other
  | reference _ => .value
  | unknownScheme _ => .value
  | noAddress => .other
  | emptyBatches => .value
  | infiniteNumber => .value
  | noServiceName => .other
  | noServiceVersion => .other
  | keyOutsideStorage _ => .value
  | unknownStatus _ => .value
  | unknownField _ => .value
  | argument _ => .other
  | unknownKey _ => .other
  | shape _ => .other
  | probeRefused _ => .runtime
  | probeUnreadable _ => .runtime
  | missingObject _ => .runtime
  | transport _ => .transport
  | reported kind _ => kind.failureClass
  | server _ => .server

end Failure

/-- A result or a failure. -/
abbrev Outcome (α : Type) := Except Failure α

theorem Outcome.eq_ok_of_toOption
    {α : Type}
    {outcome : Outcome α}
    {value : α}
    (isValue : outcome.toOption = some value) :
    outcome = .ok value := by
  cases outcome with
  | ok found => exact congrArg _ (Option.some.inj isValue)
  | error failure => cases isValue

/-- An arithmetic result as an outcome. -/
def ofArithmetic
    {α : Type}
    (result : Except ArithmeticError α) :
    Outcome α :=
  result.mapError .arithmetic

/-- The failure of a limit of reading, if a limit stopped the reader. -/
def ofReadLimit? : Json.ReadError → Option Failure
  | .malformed .. => none
  | .tooManyDigits count => some (.numeral (.tooManyDigits count))
  | .tooDeep container => some (.tooDeep container)

/-- A numeral as an outcome. -/
def ofNumeral
    {α : Type}
    (result : Except NumeralError α) :
    Outcome α :=
  result.mapError .numeral

end Montage
