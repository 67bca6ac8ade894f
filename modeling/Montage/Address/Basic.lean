import Montage.Address.International
import Montage.Address.Numeric
import Montage.Number.Numeral
import Montage.Text.LowerCase
import Montage.Text.Percent

namespace Montage

/-!
# Addresses

An address names a resource of a remote server. It is read from text part by
part, and every part is brought into the form in which it is sent.
-/

/-! ## Quoting in addresses

Each part of an address may hold some characters as they are; others are
written as percent escapes. Escapes that are there already stay.
-/

/-- Parts of an address that differ in what they may hold. -/
inductive AddressPart
  | user
  | host
  | path
  | query
  | fragment
deriving DecidableEq, Repr

/-- Printable ASCII characters that a part may not hold as they are. -/
def AddressPart.refused : AddressPart → List Char
  | fragment => " \"<>`".toList
  | query => " \"#<>".toList
  | path => " \"#<>?`\x7b\x7d".toList
  | user => " \"#<>?`\x7b\x7d/;=@[\\]^|".toList
  | host => " #<>?/:@[]^".toList

/-- Whether a part may hold a character as it is. -/
def AddressPart.holds
    (part : AddressPart)
    (character : Char) :
    Bool :=
  0x20 ≤ character.toNat && character.toNat ≤ 0x7E &&
    !part.refused.contains character

/-- Whether a text starts with a percent escape. -/
def startsWithEscape : List Char → Bool
  | '%' :: high :: low :: _ =>
      (hexValue? high).isSome && (hexValue? low).isSome
  | _ => false

/--
Write a text as a part of an address. The countdown passes over the digits of
an escape that is there already.
-/
def quoteFrom
    (part : AddressPart)
    (held : Nat) :
    List Char → List Char
  | [] => []
  | character :: rest =>
      match held with
      | remaining + 1 => character :: quoteFrom part remaining rest
      | 0 =>
          if startsWithEscape (character :: rest) then
            character :: quoteFrom part 2 rest
          else if part.holds character then
            character :: quoteFrom part 0 rest
          else
            (String.utf8EncodeChar character).flatMap percentEscape ++
              quoteFrom part 0 rest

/-- Write a text as a part of an address. -/
def AddressPart.quote
    (part : AddressPart)
    (text : List Char) :
    List Char :=
  quoteFrom part 0 text

/-! ## Addresses as they are sent -/

/-- Why a text is no address. -/
inductive AddressError
  | tooLong
  | unprintable (character : Char) (position : Nat)
  | unprintableFragment (character : Char) (position : Nat)
  | badFourNumbers (host : String)
  | badEightNumbers (host : String)
  | badHostName (host : String)
  | badPort (port : String)
  | rootlessPath
  | slashesWithoutHost
  | colonWithoutScheme
deriving DecidableEq, Repr

/-- The text of an address error. -/
def AddressError.message : AddressError → String
  | tooLong => "URL too long"
  | unprintable character position =>
      "Invalid non-printable ASCII character in URL, " ++
        quoted (String.singleton character) ++ " at position " ++
        showNatural position ++ "."
  | unprintableFragment character position =>
      "Invalid non-printable ASCII character in URL fragment component, " ++
        quoted (String.singleton character) ++ " at position " ++
        showNatural position ++ "."
  | badFourNumbers host => "Invalid IPv4 address: " ++ quoted host
  | badEightNumbers host => "Invalid IPv6 address: " ++ quoted host
  | badHostName host => "Invalid IDNA hostname: " ++ quoted host
  | badPort port => "Invalid port: " ++ quoted port
  | rootlessPath =>
      "For absolute URLs, path must be empty or begin with '/'"
  | slashesWithoutHost =>
      "Relative URLs cannot have a path starting with '//'"
  | colonWithoutScheme =>
      "Relative URLs cannot have a path starting with ':'"

/-- The parts of an address as they are written. -/
structure WrittenAddress where
  scheme : List Char := []
  user : List Char := []
  host : List Char := []
  port : List Char := []
  path : List Char := []
  query : Option (List Char) := none
  fragment : Option (List Char) := none

/-- An address; what may be absent is empty or `none`. -/
structure Address where
  scheme : List Char
  user : List Char
  host : List Char
  port : Option Int
  path : List Char
  query : Option (List Char)
  fragment : Option (List Char)
deriving DecidableEq

namespace WrittenAddress

/-- Whether a character may stand in a scheme after its first letter. -/
def isSchemeCharacter (character : Char) : Bool :=
  character.isAlphanum || "+-.".toList.contains character

/-- The scheme of an address, which may be empty, and what follows it. -/
def cutScheme (text : List Char) : List Char × List Char :=
  match cutAtChar? ':' text with
  | some (scheme, rest) =>
      if (scheme.head?.all Char.isAlpha) && scheme.all isSchemeCharacter then
        (scheme, rest)
      else
        ([], text)
  | none => ([], text)

/-- Whether a character ends the part of an address that names its server. -/
def endsServer (character : Char) : Bool :=
  character == '/' || character == '?' || character == '#'

/-- The part that names the server, and what follows it. -/
def cutServer : List Char → List Char × List Char
  | '/' :: '/' :: rest =>
      (rest.takeWhile (! endsServer ·), rest.dropWhile (! endsServer ·))
  | rest => ([], rest)

/-- What is before the last `@`, if there is one, and what follows it. -/
def cutUser (server : List Char) : List Char × List Char :=
  (cutAtLastChar? '@' server).getD ([], server)

/-- A host, in brackets or up to a colon, and what follows it. -/
def cutHost (server : List Char) : List Char × List Char :=
  match server, cutAtLastChar? ']' server with
  | '[' :: _, some (host, rest) => (host ++ [']'], rest)
  | _, _ => (beforeChar ':' server, server.dropWhile (· ≠ ':'))

/-- A port, behind a colon or not. -/
def cutPort : List Char → List Char
  | ':' :: port => port
  | port => port

/-- What follows a mark, if it is there. -/
def after?
    (mark : Char)
    (text : List Char) :
    Option (List Char) :=
  (cutAtChar? mark text).map Prod.snd

/-- Cut a text into the parts of an address. -/
def ofText (text : List Char) : WrittenAddress :=
  let scheme := cutScheme text
  let server := cutServer scheme.2
  let user := cutUser server.1
  let host := cutHost user.2
  let beforeFragment := beforeChar '#' server.2
  { scheme := scheme.1
    user := user.1
    host := host.1
    port := cutPort host.2
    path := beforeChar '?' beforeFragment
    query := after? '?' beforeFragment
    fragment := after? '#' server.2 }

end WrittenAddress

namespace Address

/-- The greatest length of an address. -/
def lengthLimit : Nat := 65536

/-- Whether a character has no place in an address. -/
def isUnprintable (character : Char) : Bool :=
  character.toNat < 0x20 || character.toNat == 0x7F

/-- The host in the form in which it is sent. -/
def readHost (host : List Char) : Except AddressError (List Char) :=
  let isBracketed := host.head? == some '[' && host.getLast? == some ']'
  if host.isEmpty then
    .ok []
  else if resemblesFourNumbers host then
    if isFourNumbers host then
      .ok host
    else
      .error (.badFourNumbers (String.ofList host))
  else if isBracketed && decide (2 ≤ host.length) then
    let inner := (host.drop 1).dropLast
    if isEightNumbers inner then
      .ok inner
    else
      .error (.badEightNumbers (String.ofList host))
  else if host.all Punycode.isPlain then
    .ok (AddressPart.host.quote (lowerText host))
  else
    match writeHostName? (lowerText host) with
    | some name => .ok name
    | none => .error (.badHostName (String.ofList host))

/-- The port that a scheme has unless another one is told. -/
def usualPorts : List (String × Int) := [
  ("ftp", 21), ("http", 80), ("https", 443), ("ws", 80), ("wss", 443)]

/-- A port, unless it is the usual one of the scheme. -/
def readPort
    (scheme port : List Char) :
    Except AddressError (Option Int) :=
  if port.isEmpty then
    .ok none
  else
    match integerOfText (String.ofList port) with
    | .error _ => .error (.badPort (String.ofList port))
    | .ok number =>
        if usualPorts.lookup (String.ofList scheme) = some number then
          .ok none
        else
          .ok (some number)

/-- Follow the segments of a path: dots stay, double dots go up, though not
above the first. -/
def followDots (segments : List (List Char)) : List (List Char) :=
  segments.foldl
    (fun reached segment =>
      if segment = ['.'] then reached
      else if segment = ['.', '.'] then
        if reached = [[]] then reached else reached.dropLast
      else reached ++ [segment])
    []

/-- A path without dots. -/
def plainPath (path : List Char) : List Char :=
  joinWith ['/'] (followDots (splitAtChar '/' path))

/-- Refuse a path that would be taken for something else. -/
def checkPath
    (hasScheme hasServer : Bool)
    (path : List Char) :
    Except AddressError Unit :=
  if hasServer && !path.isEmpty && path.head? != some '/' then
    .error .rootlessPath
  else if !hasScheme && !hasServer && "//".toList.isPrefixOf path then
    .error .slashesWithoutHost
  else if !hasScheme && !hasServer && path.head? == some ':' then
    .error .colonWithoutScheme
  else
    .ok ()

/-- The address of written parts. -/
def ofWritten (written : WrittenAddress) : Except AddressError Address := do
  let user := AddressPart.user.quote written.user
  let host ← readHost written.host
  let port ← readPort written.scheme written.port
  let hasScheme := !written.scheme.isEmpty
  let hasServer := !user.isEmpty || !host.isEmpty || port.isSome
  checkPath hasScheme hasServer written.path
  let path :=
    if hasScheme || hasServer then plainPath written.path else written.path
  pure {
    scheme := written.scheme.map Char.toLower
    user
    host
    port
    path := AddressPart.path.quote path
    query := written.query.map AddressPart.query.quote
    fragment := written.fragment.map AddressPart.fragment.quote }

/-- Read an address. -/
def read (text : String) : Except AddressError Address :=
  let characters := text.toList
  if lengthLimit < characters.length then
    .error .tooLong
  else
    match characters.find? isUnprintable with
    | some character =>
        .error (.unprintable character (characters.idxOf character))
    | none => ofWritten (.ofText characters)

/-- The host as it is written before a port. -/
def hostText (address : Address) : List Char :=
  if address.host.contains ':' then
    '[' :: address.host ++ [']']
  else
    address.host

/-- The parts as they are written again. -/
def toWritten (address : Address) : WrittenAddress where
  scheme := address.scheme
  user := address.user
  host := address.hostText
  port := (address.port.map integerText).getD []
  path := address.path
  query := address.query
  fragment := address.fragment

/-- The part that names the server. -/
def serverText (address : Address) : List Char :=
  (if address.user.isEmpty then [] else address.user ++ ['@']) ++
    address.hostText ++
    ((address.port.map fun port => ':' :: integerText port).getD [])

/-- The path and the query. -/
def targetText (address : Address) : List Char :=
  address.path ++ (address.query.map ('?' :: ·)).getD []

/-- An address as text. -/
def toText (address : Address) : String :=
  String.ofList <|
    (if address.scheme.isEmpty then [] else address.scheme ++ [':']) ++
      (if address.serverText.isEmpty then
        []
      else
        '/' :: '/' :: address.serverText) ++
      address.targetText ++
      (address.fragment.map ('#' :: ·)).getD []

/-- Whether an address names its server and how to speak to it. -/
def isComplete (address : Address) : Bool :=
  !address.scheme.isEmpty && !address.host.isEmpty

/-- The target that is asked for: path and query below the root. -/
def rootedTarget (address : Address) : List Char :=
  let target :=
    if address.path.isEmpty then
      '/' :: address.targetText
    else
      address.targetText
  '/' :: target.dropWhile (· == '/')

/-- The address to which a request is sent: of one that does not name its
server, only the target counts. -/
def requested (address : Address) : Except AddressError Address :=
  if address.isComplete then
    .ok address
  else
    let target := address.rootedTarget
    ofWritten {
      path := beforeChar '?' target
      query := WrittenAddress.after? '?' target }

/-- The address to which a request for a text is sent. -/
def readRequested (text : String) : Except AddressError Address :=
  (read text).bind requested

/-- The fragment with its escapes read. -/
def fragmentText (address : Address) : List Char :=
  percentDecode (address.fragment.getD [])

/-- The address with another fragment. -/
def withFragment
    (address : Address)
    (fragment : List Char) :
    Except AddressError Address :=
  match fragment.find? isUnprintable with
  | some character =>
      .error (.unprintableFragment character (fragment.idxOf character))
  | none =>
      ofWritten { address.toWritten with fragment := some fragment }

/-- The address on the server of another one. -/
def withHostOf
    (address other : Address) :
    Except AddressError Address :=
  ofWritten { address.toWritten with host := other.hostText }

end Address

end Montage
