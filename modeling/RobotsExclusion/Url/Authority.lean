import RobotsExclusion.Text.Quoted
import RobotsExclusion.Url.Address

/-!
# The authority of a URL

The authority is the part between the two slashes and the path. It is refused if its brackets do
not enclose an IP address, or if it holds a character that compatibility normalization would turn
into a delimiter of the URL.
-/

namespace RobotsExclusion.Url

inductive Refusal where
  | brackets
  | futureAddress
  | bracketedIpv4
  | noAddress (host : Text)
  | disguised (authority : Text)
  deriving DecidableEq

def Refusal.message : Refusal → Text
  | brackets => "Invalid IPv6 URL".toList
  | futureAddress => "IPvFuture address is invalid".toList
  | bracketedIpv4 => "An IPv4 address cannot be in brackets".toList
  | noAddress host => host.quoted ++ " does not appear to be an IPv4 or IPv6 address".toList
  | disguised authority =>
    "netloc '".toList ++ authority
      ++ "' contains invalid characters under NFKC normalization".toList

/-- The characters with one of `/ ? # @ :` in their compatibility form (Unicode 14). -/
def disguisedDelimiters : CodeRanges := [
  (0x2047, 0x2049), (0x2100, 0x2101), (0x2105, 0x2106), (0x2A74, 0x2A74), (0xFE13, 0xFE13),
  (0xFE16, 0xFE16), (0xFE55, 0xFE56), (0xFE5F, 0xFE5F), (0xFE6B, 0xFE6B), (0xFF03, 0xFF03),
  (0xFF0F, 0xFF0F), (0xFF1A, 0xFF1A), (0xFF1F, 0xFF20)]

/-- Whether a host that begins with `v` has the form of an address of a later version. -/
def isFutureAddress (host : Text) : Bool :=
  match Text.cut? '.' (host.drop 1) with
  | some (version, rest) => !version.isEmpty && version.all isHexDigit && !rest.isEmpty
  | none => false

/-- The host of an authority that holds brackets, without the user before an at sign and the number
behind a colon. -/
def bracketedHost (authority : Text) : Except Refusal Text :=
  let withoutUser := ((authority.pieces '@').getLast?).getD authority
  match withoutUser.cut? '[' with
  | none => .ok (withoutUser.cut ':').1
  | some (before, inside) =>
    let (host, behind) := inside.cut ']'
    if before.isEmpty && (behind.isEmpty || behind.head? = some ':') then .ok host
    else .error .brackets

def checkHost (host : Text) : Except Refusal Unit :=
  if host.head? = some 'v' then
    if isFutureAddress host then .ok () else .error .futureAddress
  else if isIpv4 host then .error .bracketedIpv4
  else if isIpv6 host then .ok ()
  else .error (.noAddress host)

def checkBrackets (authority : Text) : Except Refusal Unit :=
  match authority.contains '[', authority.contains ']' with
  | false, false => .ok ()
  | true, true => bracketedHost authority >>= checkHost
  | _, _ => .error .brackets

def checkDisguises (authority : Text) : Except Refusal Unit :=
  if authority.any disguisedDelimiters.has then .error (.disguised authority) else .ok ()

end RobotsExclusion.Url
