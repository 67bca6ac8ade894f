import Montage.Address.Numeric
import Montage.Text.LowerCase

namespace Montage

/-!
# References

A reference is an address, or the way to one from a base. It is cut into parts
without changing them, only its server has to be sound, and seen from a base
it becomes an address.
-/

/-- Why the server of a reference is not sound. -/
inductive ReferenceError
  | misplacedBrackets
  | badFutureHost
  | unknownHost (host : String)
  | bracketedFourNumbers
  | foldedServer (server : String)
deriving DecidableEq, Repr

/-- The text of a reference error. -/
def ReferenceError.message : ReferenceError → String
  | misplacedBrackets => "Invalid IPv6 URL"
  | badFutureHost => "IPvFuture address is invalid"
  | unknownHost host =>
      quoted host ++ " does not appear to be an IPv4 or IPv6 address"
  | bracketedFourNumbers => "An IPv4 address cannot be in brackets"
  | foldedServer server =>
      "netloc '" ++ server ++
        "' contains invalid characters under NFKC normalization"

/-- The parts of a reference; those that are absent are empty. -/
structure Reference where
  scheme : String
  server : List Char
  path : List Char
  parameters : List Char
  query : List Char
  fragment : List Char

namespace Reference

/-- Characters that are dropped from the start of a reference. -/
def isLeadingControl (character : Char) : Bool :=
  character.toNat ≤ 0x20

/-- Characters that are dropped from a reference. -/
def isDropped (character : Char) : Bool :=
  character == '\t' || character == '\n' || character == '\r'

/-- Characters of a scheme. -/
def isSchemeCharacter (character : Char) : Bool :=
  character.isAlphanum || "+-.".toList.contains character

/-- The scheme of a reference in lower case, or another one, and the rest. -/
def cutScheme
    (absent : String)
    (text : List Char) :
    String × List Char :=
  match cutAtChar? ':' text with
  | some (scheme, rest) =>
      if scheme.head?.any Char.isAlpha && scheme.all isSchemeCharacter then
        (String.ofList (scheme.map Char.toLower), rest)
      else
        (absent, text)
  | none => (absent, text)

/-- Whether a character ends the server of a reference. -/
def endsServer (character : Char) : Bool :=
  character == '/' || character == '?' || character == '#'

/-- The server of a reference, and what follows it. -/
def cutServer : List Char → List Char × List Char
  | '/' :: '/' :: rest =>
      (rest.takeWhile (! endsServer ·), rest.dropWhile (! endsServer ·))
  | rest => ([], rest)

/-- Whether a host has the form that is kept for later kinds of hosts. -/
def isFutureHost : List Char → Bool
  | 'v' :: rest =>
      match cutAtChar? '.' rest with
      | some (version, name) =>
          !version.isEmpty && !name.isEmpty &&
            version.all fun character => (hexValue? character).isSome
      | none => false
  | _ => false

/-- Check a host that stands in brackets. -/
def checkBracketedHost (host : List Char) : Except ReferenceError Unit :=
  if host.head? = some 'v' then
    if isFutureHost host then .ok () else .error .badFutureHost
  else if isFourNumbers host then
    .error .bracketedFourNumbers
  else if isEightNumbers host then
    .ok ()
  else
    .error (.unknownHost (String.ofList host))

/-- Check the brackets of a server that has both of them. -/
def checkBracketed (server : List Char) : Except ReferenceError Unit :=
  let named := ((cutAtLastChar? '@' server).map Prod.snd).getD server
  match cutAtChar? '[' named with
  | none => checkBracketedHost (beforeChar ':' named)
  | some (before, bracketed) =>
      let after := (bracketed.dropWhile (· ≠ ']')).drop 1
      if !before.isEmpty || after.head?.any (· ≠ ':') then
        .error .misplacedBrackets
      else
        checkBracketedHost (beforeChar ']' bracketed)

/-- Check the brackets of a server. -/
def checkBrackets (server : List Char) : Except ReferenceError Unit :=
  match server.contains '[', server.contains ']' with
  | false, false => .ok ()
  | true, true => checkBracketed server
  | _, _ => .error .misplacedBrackets

/-- Characters that stand for some of `/`, `?`, `#`, `@` and `:`. -/
def foldedMarks : List Char := [
  '\u2047', '\u2048', '\u2049', '\u2100', '\u2101', '\u2105', '\u2106',
  '\u2A74', '\uFE13', '\uFE16', '\uFE55', '\uFE56', '\uFE5F', '\uFE6B',
  '\uFF03', '\uFF0F', '\uFF1A', '\uFF1F', '\uFF20']

/-- Refuse a server with characters that stand for marks. -/
def checkMarks (server : List Char) : Except ReferenceError Unit :=
  if server.any foldedMarks.contains then
    .error (.foldedServer (String.ofList server))
  else
    .ok ()

/-- The schemes whose last path segment may have parameters. -/
def schemesWithParameters : List String := [
  "", "ftp", "hdl", "prospero", "http", "imap", "https", "shttp", "rtsp",
  "rtsps", "rtspu", "sip", "sips", "mms", "sftp", "tel"]

/-- A path without the parameters of its last segment, and these. -/
def cutParameters (path : List Char) : List Char × List Char :=
  let start :=
    ((cutAtLastChar? '/' path).map fun cut => cut.1 ++ ['/']).getD []
  match cutAtChar? ';' (path.drop start.length) with
  | some (segment, parameters) => (start ++ segment, parameters)
  | none => (path, [])

/-- Cut a text into the parts of a reference. -/
def read
    (absentScheme : String)
    (text : String) :
    Except ReferenceError Reference := do
  let cleaned :=
    (text.toList.dropWhile isLeadingControl).filter (! isDropped ·)
  let scheme := cutScheme absentScheme cleaned
  let server := cutServer scheme.2
  checkBrackets server.1
  checkMarks server.1
  let beforeFragment := beforeChar '#' server.2
  let whole := beforeChar '?' beforeFragment
  let path :=
    if schemesWithParameters.contains scheme.1 then
      cutParameters whole
    else
      (whole, [])
  pure {
    scheme := scheme.1
    server := server.1
    path := path.1
    parameters := path.2
    query := beforeFragment.drop (whole.length + 1)
    fragment := server.2.drop (beforeFragment.length + 1) }

/-- The schemes whose addresses name a server. -/
def schemesWithServer : List String := [
  "", "ftp", "http", "gopher", "nntp", "telnet", "imap", "wais", "file", "mms",
  "https", "shttp", "snews", "prospero", "rtsp", "rtsps", "rtspu", "rsync",
  "svn", "svn+ssh", "sftp", "nfs", "git", "git+ssh", "ws", "wss"]

/-- The schemes whose addresses may be told relative to others. -/
def relativeSchemes : List String := [
  "", "ftp", "http", "gopher", "nntp", "imap", "wais", "file", "https", "shttp",
  "mms", "prospero", "rtsp", "rtsps", "rtspu", "sftp", "svn", "svn+ssh", "ws",
  "wss"]

/-- A part behind its mark, if there is such a part. -/
def behind
    (mark : Char)
    (part : List Char) :
    List Char :=
  if part.isEmpty then [] else mark :: part

/-- A reference as text. -/
def toText (reference : Reference) : String :=
  let path := reference.path ++ behind ';' reference.parameters
  let isServed :=
    !reference.server.isEmpty ||
      (!reference.scheme.isEmpty &&
        schemesWithServer.contains reference.scheme) ||
      "//".toList.isPrefixOf path
  let rooted :=
    if isServed then
      '/' :: '/' :: reference.server ++
        (if path.head?.any (· ≠ '/') then '/' :: path else path)
    else
      path
  let scheme := reference.scheme.toList
  String.ofList <|
    (if scheme.isEmpty then [] else scheme ++ [':']) ++ rooted ++
      behind '?' reference.query ++ behind '#' reference.fragment

/-- Follow segments: dots stay, double dots go up, and a dot at the end leaves
an empty segment. -/
def followSegments (segments : List (List Char)) : List (List Char) :=
  let reached := segments.foldl
    (fun reached segment =>
      if segment = ['.'] then reached
      else if segment = ['.', '.'] then reached.dropLast
      else reached ++ [segment])
    []
  match segments.getLast? with
  | some ['.'] => reached ++ [[]]
  | some ['.', '.'] => reached ++ [[]]
  | _ => reached

/-- The segments before the last one, which is the name in a directory. -/
def directoryOf (path : List Char) : List (List Char) :=
  let segments := splitAtChar '/' path
  if segments.getLast? = some [] then segments else segments.dropLast

/-- Drop the empty segments that are neither the first nor the last. -/
def withoutInnerEmpty (segments : List (List Char)) : List (List Char) :=
  segments.take 1 ++
    ((segments.drop 1).dropLast.filter (! ·.isEmpty)) ++
      (segments.drop 1).getLast?.toList

/-- A path as it is seen from the path of a base. -/
def resolvePath (base path : List Char) : List Char :=
  let segments :=
    if path.head? = some '/' then
      splitAtChar '/' path
    else
      withoutInnerEmpty (directoryOf base ++ splitAtChar '/' path)
  let resolved := joinWith ['/'] (followSegments segments)
  if resolved.isEmpty then ['/'] else resolved

/-- The address that a reference means when it is seen from a base. -/
def resolve
    (base target : Reference) :
    Reference :=
  let server :=
    if schemesWithServer.contains target.scheme then
      base.server
    else
      target.server
  if !target.server.isEmpty &&
      schemesWithServer.contains target.scheme then
    target
  else if target.path.isEmpty && target.parameters.isEmpty then
    { base with
      scheme := target.scheme
      server
      query := if target.query.isEmpty then base.query else target.query
      fragment := target.fragment }
  else
    { target with server, path := resolvePath base.path target.path }

/-- The address that a text means when it is seen from a base. -/
def join
    (base text : String) :
    Except ReferenceError String := do
  if base.isEmpty then
    pure text
  else if text.isEmpty then
    pure base
  else
    let seen ← read "" base
    let target ← read seen.scheme text
    if target.scheme ≠ seen.scheme ∨
        !relativeSchemes.contains target.scheme then
      pure text
    else
      pure (resolve seen target).toText

end Reference

end Montage
