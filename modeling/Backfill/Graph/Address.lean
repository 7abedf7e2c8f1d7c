import Backfill.Domain
import Backfill.Failure
import Backfill.Text.Digits
import Backfill.Text.Utf8

/-!
# Addresses

The address of a graph is a URI, of which the scheme may be left out. It is checked before any
connection is made: the scheme must be one that the program speaks, and host and port must be
well-formed. User information, path, query and fragment do not matter.
-/

namespace Backfill.Graph

inductive AddressFault where
  | unsupportedScheme (scheme : String)
  | invalidPort
  | invalidDomainCharacter
  | invalidDomainName
  | invalidIpv4Address
  | invalidIpv6Address
  | emptyHost
  /-- There is nothing that could be a host. -/
  | noHost
deriving DecidableEq, Repr

namespace AddressFault

/-- What is wrong with an address. -/
def detail : AddressFault → String
  | unsupportedScheme scheme => "Unsupported URI scheme: " ++ scheme
  | invalidPort => "invalid port number"
  | invalidDomainCharacter => "invalid domain character"
  | invalidDomainName => "invalid international domain name"
  | invalidIpv4Address => "invalid IPv4 address"
  | invalidIpv6Address => "invalid IPv6 address"
  | emptyHost | noHost => "empty host"

/-- What a fault does to the program. An address without any host is not survived. -/
def interruption : AddressFault → Interruption
  | unsupportedScheme scheme => .failure ⟨(unsupportedScheme scheme).detail, []⟩
  | noHost => .crash .hostMissing
  | fault => .failure ⟨"Invalid URI: " ++ fault.detail, [fault.detail]⟩

end AddressFault

namespace Address

/-- Control characters and blanks, which do not count at the ends of an address. -/
def isMargin (c : Char) : Bool :=
  c.toNat ≤ 0x20

/-- The characters of an address that count. -/
def relevant (text : String) : List Char :=
  let left := text.toList.dropWhile isMargin
  let trimmed := (left.reverse.dropWhile isMargin).reverse
  trimmed.filter fun c => c ≠ '\t' && c ≠ '\n' && c ≠ '\r'

def isSchemeCharacter (c : Char) : Bool :=
  c.isAlphanum || c = '+' || c = '-' || c = '.'

/-- The scheme of an address in small letters, and what follows the colon. -/
def scheme? (cs : List Char) : Option (String × List Char) :=
  match cs, cs.dropWhile isSchemeCharacter with
  | c :: _, ':' :: rest =>
    if c.isAlpha then some ((String.ofList (cs.takeWhile isSchemeCharacter)).toLower, rest)
    else none
  | _, _ => none

/-- How an address is read, which depends on its scheme. -/
inductive Style where
  | general
  /-- The slashes before the host may be missing or too many, and may lean either way. -/
  | web
  /-- There is neither user information nor a port. -/
  | file
deriving DecidableEq, Repr

def Style.of (scheme : String) : Style :=
  if ["http", "https", "ws", "wss", "ftp"].contains scheme then .web
  else if scheme = "file" then .file
  else .general

/-- What ends host and port. -/
def isEnd (style : Style) (c : Char) : Bool :=
  c = '/' || c = '?' || c = '#' || style ≠ .general && c = '\\'

/-- Host, port and user information, if the address has such a part, and what follows. -/
def authority? (style : Style) (rest : List Char) : Option (List Char × List Char) :=
  let isSlash (c : Char) : Bool := c = '/' || style ≠ .general && c = '\\'
  let start? := match style, rest with
    | .web, _ => some (rest.dropWhile isSlash)
    | _, a :: b :: rest => if isSlash a && isSlash b then some rest else none
    | _, _ => none
  start?.map fun start => (start.takeWhile (!isEnd style ·), start.dropWhile (!isEnd style ·))

/-- What stands after the last at sign, all if there is none; and what stands before it. -/
def splitUser (authority : List Char) : List Char × Option (List Char) :=
  let after := (authority.reverse.takeWhile (· ≠ '@')).reverse
  (after, if authority.contains '@' then some (authority.take (authority.length - after.length - 1))
    else none)

/-- Host and port: they are divided by the first colon outside of brackets. -/
def splitPort : Bool → List Char → List Char × Option (List Char)
  | _, [] => ([], none)
  | bracket, c :: cs =>
    if c = ':' && !bracket then ([], some cs)
    else
      let (host, port) := splitPort (c = '[' || bracket && c ≠ ']') cs
      (c :: host, port)

/-- A character that cannot be part of a host. -/
def isForbidden (c : Char) : Bool :=
  "\x00\t\n\r #/:<>?@[\\]^|".toList.contains c

/-- One of four parts of a dotted address: a number up to 255 without leading zeros. -/
def isByte (part : String) : Bool :=
  part.toList.all Char.isDigit && !part.isEmpty && part.length ≤ 3 &&
    (part.length = 1 || !part.startsWith "0") && Text.ofDigits part.toList ≤ 255

/-- One of eight groups of a long address. -/
def isGroup (group : String) : Bool :=
  !group.isEmpty && group.length ≤ 4 && group.toList.all fun c => (Text.hexDigit? c).isSome

/-- How many groups a piece of a long address stands for; a dotted address at its end is two. -/
def groups? (piece : String) : Option Nat :=
  if piece.isEmpty then some 0
  else
    let groups := piece.splitOn ":"
    let bytes := (groups.getLast?.getD "").splitOn "."
    if groups.all isGroup then some groups.length
    else if groups.dropLast.all isGroup && bytes.length = 4 && bytes.all isByte then
      some (groups.length + 1)
    else none

/-- Whether a text is a long address: eight groups, or fewer around one double colon. A dotted
address can only be at the end. -/
def isLongAddress (text : String) : Bool :=
  match text.splitOn "::" with
  | [whole] => groups? whole = some 8
  | [left, right] =>
    !left.contains '.' &&
      match groups? left, groups? right with
      | some n, some m => n + m ≤ 7
      | _, _ => false
  | _ => false

/-! ### Hosts that are domain names -/

/-- Bytes of which some are given by a percent sign and two hexadecimal digits. -/
def unescape : List UInt8 → List UInt8
  | 0x25 :: high :: low :: rest =>
    match Text.hexDigit? (Char.ofNat high.toNat), Text.hexDigit? (Char.ofNat low.toNat) with
    | some h, some l => (16 * h + l).toUInt8 :: unescape rest
    | _, _ => 0x25 :: unescape (high :: low :: rest)
  | b :: rest => b :: unescape rest
  | [] => []

/-- A number in a dotted address: in base eight after a zero, in base sixteen after `0x`. -/
def part? (text : String) : Option Nat :=
  let value (base : Nat) (cs : List Char) : Option Nat :=
    cs.foldlM (fun n c => (Text.hexDigit? c).bind fun d =>
      if d < base then some (base * n + d) else none) 0
  match text.toList with
  | [] => none
  | '0' :: 'x' :: cs => value 16 cs
  | ['0'] => some 0
  | '0' :: cs => value 8 cs
  | cs => value 10 cs

/-- The parts of a dotted address. A dot at the end does not count. -/
def parts (name : List Char) : List String :=
  let parts := (String.ofList name).splitOn "."
  if parts.length > 1 && parts.getLast? = some "" then parts.dropLast else parts

/-- Whether a name can only be meant as a dotted address: its last part is a number. -/
def isNumeric (name : List Char) : Bool :=
  (parts name).getLast?.any fun last =>
    (part? last).isSome || !last.isEmpty && last.toList.all Char.isDigit

/-- Whether a name is a dotted address: up to four numbers, of which the last fills the bytes that
the others leave. -/
def isShortAddress (name : List Char) : Bool :=
  match (parts name).mapM part? with
  | none => false
  | some numbers =>
    numbers.length ≤ 4 && numbers.dropLast.all (· ≤ 255) &&
      numbers.getLast?.all (· < 1 <<< (8 * (5 - numbers.length)))

/-- Checks a host that is a domain name or a dotted address: the name without escapes. -/
def checkName (host : List Char) : Except AddressFault (List Char) :=
  match Text.decodeUtf8 (unescape (String.ofList host).toUTF8.toList) with
  | .error _ => .error .invalidDomainName
  | .ok text =>
    match Domain.read? text.toList with
    | none => .error .invalidDomainName
    | some [] => .error .emptyHost
    | some name =>
      if isNumeric name && !isShortAddress name then .error .invalidIpv4Address else .ok name

/-! ### Checks -/

/-- Checks a host. -/
def checkHost (style : Style) (host : List Char) : Except AddressFault Unit :=
  match host with
  | '[' :: inside =>
    if inside.getLast? = some ']' && isLongAddress (String.ofList inside.dropLast) then .ok ()
    else .error .invalidIpv6Address
  | _ =>
    if style = .general then
      if host.any isForbidden then .error .invalidDomainCharacter else .ok ()
    else (fun _ => ()) <$> checkName host

/-- Checks a port: digits up to 65535, or nothing. -/
def checkPort (port : List Char) : Except AddressFault Unit :=
  let port := port.takeWhile (· ≠ '\\')
  if port.all Char.isDigit && Text.ofDigits port ≤ 65535 then .ok () else .error .invalidPort

/-- Checks host and port, given what follows them. A host may be missing altogether, which is no
fault by itself; the answer tells whether there is one. -/
def checkAuthority (style : Style) (authority rest : List Char) : Except AddressFault Bool := do
  let (after, user) := splitUser authority
  if user = some [] && after.isEmpty && !rest.isEmpty then throw .emptyHost
  let (host, port) := splitPort false after
  if host.isEmpty && (style = .web || port.isSome) then throw .emptyHost
  if !host.isEmpty then checkHost style host
  checkPort (port.getD [])
  -- a colon alone is no user information
  if host.isEmpty && user.any (fun u => u ≠ [] ∧ u ≠ [':']) then throw .emptyHost
  return !host.isEmpty

/-- A letter and a colon or a bar, which is no host but the name of a drive. -/
def isDrive : List Char → Bool
  | [letter, sign] => letter.isAlpha && (sign = ':' || sign = '|')
  | _ => false

/-- Checks the host of a file. That of this machine does not count, and neither does one in front of
the name of a drive. -/
def checkFileHost (host rest : List Char) : Except AddressFault Bool := do
  let first := (rest.drop 1).takeWhile (!isEnd .file ·)
  if host.isEmpty || isDrive host then return false
  if host.head? = some '[' then checkHost .file host
  else if (← checkName host) = "localhost".toList then return false
  return !isDrive first

/-- The scheme of an address that has one, and a host; no scheme if the text is to be read as
beginning with the host. -/
def parse? (cs : List Char) : Except AddressFault (Option String) := do
  match scheme? cs with
  | none => return none
  | some (scheme, rest) =>
    let style := Style.of scheme
    match authority? style rest with
    | none => return none
    | some (authority, rest) =>
      let hasHost ←
        if style = .file then checkFileHost authority rest else checkAuthority style authority rest
      return if hasHost then some scheme else none

/-- Checks an address. -/
def check (text : String) : Except AddressFault Unit := do
  match ← parse? (relevant text) with
  | some scheme =>
    if scheme = "bolt" || scheme = "neo4j" then return ()
    throw (.unsupportedScheme scheme)
  | none =>
    match ← parse? (relevant ("bolt://" ++ text)) with
    | some _ => return ()
    | none => throw .noHost

end Address

end Backfill.Graph
