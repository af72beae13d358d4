import FlowBuilder.Json.Reader
import FlowBuilder.Service.HostName
import FlowBuilder.Service.IpAddress
import FlowBuilder.Text.Numeral
import FlowBuilder.Text.Search

/-!
# Addresses of servers

The address of a server on the web: a scheme, perhaps a user, a host and perhaps a port. Whatever
follows them, from the first slash, question mark or number sign on, does not matter here. A host in
brackets is one whose address has colons. An address is written out with its host in ASCII, and what
is written must be an address again.
-/

namespace FlowBuilder

/-- Why a text is not the address of a server. -/
inductive AddressDefect where
  /-- It does not start with a scheme of the web and something behind it. -/
  | notWeb
  /-- It names no server, and `scheme` cannot be used for it. -/
  | noServer (scheme : String)
  /-- It has no host, which `scheme` needs. -/
  | noHost (scheme : String)
  /-- A backslash stands in the name of the server. -/
  | backslash
  /-- A bracket lacks its partner, or something else than a user and a port stands beside them. -/
  | misplacedBracket
  /-- Brackets stand in the user, and nothing follows the user. -/
  | nothingAfterUser
  /-- An address of a future kind is stated badly. -/
  | badFutureAddress
  /-- What stands in brackets is no address with colons. -/
  | noColon
  /-- The name of the server has a character that stands for a delimiter. -/
  | hiddenDelimiter (server : List Char)
  /-- The port is not a number. -/
  | portNotNumber
  /-- The port is beyond the numbers of ports. -/
  | portOutOfRange
  /-- The host has a name that cannot be written out. -/
  | badHostName (defect : HostNameDefect)
  deriving DecidableEq, Repr

/-- The wording of an address defect. -/
def AddressDefect.message : AddressDefect → String
  | .notWeb => "Invalid URL"
  | .noServer scheme =>
    "scheme replacement is not allowed for relative URLs for the " ++ scheme ++ " scheme"
  | .noHost scheme =>
    "Invalid URL: host is required for absolute urls with the " ++ scheme ++ " scheme"
  | .backslash =>
    "Invalid URL: backslash ('\\') is not allowed in the authority component per RFC 3986."
  | .misplacedBracket => "Invalid IPv6 URL"
  | .nothingAfterUser => "string index out of range"
  | .badFutureAddress => "IPvFuture address is invalid"
  | .noColon => "The IPv6 content between brackets is not valid"
  | .hiddenDelimiter server =>
    "netloc '" ++ String.ofList server ++ "' contains invalid characters under NFKC normalization"
  | .portNotNumber => "Invalid URL: port can't be converted to integer"
  | .portOutOfRange => "Port out of range 0-65535"
  | .badHostName defect => defect.message

/-- A scheme of the web. -/
inductive WebScheme where
  /-- Messages go in the open. -/
  | http
  /-- Messages go encrypted. -/
  | https
  deriving DecidableEq, Repr

namespace WebScheme

/-- The name of a scheme. -/
def name : WebScheme → String
  | .http => "http"
  | .https => "https"

/-- The name of the scheme for lasting connections. -/
def socketName : WebScheme → String
  | .http => "ws"
  | .https => "wss"

/-- The scheme at the front of an address, and what follows: something on the same line. -/
def split? (cs : List Char) : Option (WebScheme × List Char) :=
  [http, https].findSome? fun scheme =>
    let start := (scheme.name ++ "://").toList
    if start.isPrefixOf cs ∧ (cs.drop start.length).head?.any (· ≠ '\n') then
      some (scheme, cs.drop start.length)
    else none

end WebScheme

namespace Address

/-- The part of an address that names the server. Tabs and line breaks do not count. -/
def server (cs : List Char) : List Char :=
  (cs.filter fun c => !(['\t', '\n', '\r'].contains c)).takeWhile fun c =>
    !(['/', '?', '#'].contains c)

/-- What follows the first occurrence of a character; nothing if there is none. -/
def after (c : Char) (cs : List Char) : List Char :=
  ((Text.splitFirst? c cs).map (·.2)).getD []

/-- The part of a server that follows the user. -/
def withoutUser (server : List Char) : List Char :=
  ((Text.splitLast? '@' server).map (·.2)).getD server

/-- Checks that brackets stand in pairs, if there are any. -/
def checkPaired (server : List Char) : Except AddressDefect Unit :=
  if server.contains '[' = server.contains ']' then .ok () else .error .misplacedBracket

/-- Checks what stands in brackets. -/
def checkBracketed : List Char → Except AddressDefect Unit
  | 'v' :: version =>
    let digits := version.takeWhile IpAddress.isHexDigit
    match version.drop digits.length with
    | '.' :: _ :: _ => if digits = [] then .error .badFutureAddress else .ok ()
    | _ => .error .badFutureAddress
  | host => if host.contains ':' then .ok () else .error .noColon

/-- Checks the brackets of a server. They enclose the host, and only a port may follow them. -/
def checkBrackets (server : List Char) : Except AddressDefect Unit := do
  checkPaired server
  if server.contains '[' then
    match withoutUser server with
    | [] => throw .nothingAfterUser
    | '[' :: r =>
      let content := r.takeWhile (· ≠ ']')
      match r.drop (content.length + 1) with
      | [] | ':' :: _ => checkBracketed content
      | _ => throw .misplacedBracket
    | _ => throw .misplacedBracket

/-- Whether a character outside ASCII is compatible with a text that has a delimiter of addresses
in it. -/
def hidesDelimiter (c : Char) : Bool :=
  [0x2047, 0x2048, 0x2049, 0x2100, 0x2101, 0x2105, 0x2106, 0x2A74, 0xFE13, 0xFE16, 0xFE55, 0xFE56,
    0xFE5F, 0xFE6A, 0xFE6B, 0xFF03, 0xFF05, 0xFF0F, 0xFF1A, 0xFF1F, 0xFF20].contains c.toNat

/-- The host of a server, and the text of its port. -/
def hostAndPort (server : List Char) : List Char × List Char :=
  let cs := withoutUser server
  if cs.contains '[' then
    let cs := after '[' cs
    (cs.takeWhile (· ≠ ']'), after ':' (after ']' cs))
  else (cs.takeWhile (· ≠ ':'), after ':' cs)

/-- Checks the text of a port. -/
def checkPort (port : List Char) : Except AddressDefect Unit :=
  if port = [] then .ok ()
  else match Text.signedDigits? port with
    | none => .error .portNotNumber
    | some (negative, ds) =>
      let n := ds.foldl (fun n d => n * 10 + d) 0
      if Decimal.digitLimit < ds.length then .error .portNotNumber
      else if n = 0 ∨ (!negative ∧ n ≤ 65535) then .ok ()
      else .error .portOutOfRange

/-- A host as it is written out: brackets enclose only an address of version 6, perhaps with a zone
behind a percent sign. -/
def writtenHost (host : List Char) : Except AddressDefect (List Char) :=
  if IpAddress.isVersion6 (host.takeWhile (· ≠ '%')) then .ok ('[' :: host ++ [']'])
  else match HostName.ascii host with
    | .ok name => .ok name
    | .error defect => .error (.badHostName defect)

/-- A server without its user as it is written out. -/
def writtenServer (host port : List Char) : Except AddressDefect (List Char) :=
  (writtenHost host).map (· ++ if port = [] then [] else ':' :: port)

/-- Checks that a text is the address of a server. -/
def check (address : String) : Except AddressDefect Unit :=
  match WebScheme.split? address.toList with
  | none => .error .notWeb
  | some (scheme, rest) => do
    let server := server rest
    if server = [] then throw (.noServer scheme.socketName)
    if server.contains '\\' then throw .backslash
    checkBrackets server
    if server.any hidesDelimiter then throw (.hiddenDelimiter server)
    let (host, port) := hostAndPort server
    checkPort port
    if host = [] then throw (.noHost scheme.name)
    let written ← writtenServer host port
    checkPort (hostAndPort written).2
    checkPaired written

end Address

end FlowBuilder
