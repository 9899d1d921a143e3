import MessageBundles.Url.Domain
import MessageBundles.Url.Error
import MessageBundles.Url.Ipv4
import MessageBundles.Url.Ipv6
import MessageBundles.Url.Percent

/-
  Hosts — a domain, an address, or any name where the scheme gives hosts no meaning
-/

namespace MessageBundles.Url

open Text

/-- The host of a URL. The domain without characters is the empty host. -/
inductive Host where
  | domain (name : List Char)
  | ipv4 (address : Nat)
  | ipv6 (pieces : List Nat)
  deriving DecidableEq, Repr

namespace Host

def empty : Host := .domain []

def text : Host → List Char
  | .domain name => name
  | .ipv4 address => ipv4Text address
  | .ipv6 pieces => ipv6Text pieces

/-- The address between brackets. -/
def bracketed (cs : List Char) : Except ParseError Host :=
  if cs.getLast? = some ']' then
    match parseIpv6? cs.tail.dropLast with
    | some pieces => .ok (.ipv6 pieces)
    | none => .error .invalidIpv6
  else .error .invalidIpv6

/-- The host a domain denotes: an address where the last label is a number. -/
def ofDomain (name : List Char) : Except ParseError Host :=
  if name.isEmpty then .error .emptyHost
  else if endsInNumber name then
    match parseIpv4? name with
    | some address => .ok (.ipv4 address)
    | none => .error .invalidIpv4
  else .ok (.domain name)

def parse (cs : List Char) : Except ParseError Host :=
  if ['['].isPrefixOf cs then bracketed cs
  else match (Utf8.decode? (percentDecode (Utf8.encode cs))).bind domainToAscii? with
    | none => .error .invalidDomainName
    | some name => ofDomain name

def isRefused (c : Char) : Bool :=
  c ∈ ['\x00', '\t', '\n', '\x0d', ' ', '#', '/', ':', '<', '>', '?', '@', '[', '\\', ']', '^', '|']

/-- The host of a URL whose scheme is not well known: an address between brackets, or any name. -/
def parsePlain (cs : List Char) : Except ParseError Host :=
  if ['['].isPrefixOf cs then bracketed cs
  else if cs.any isRefused then .error .invalidDomainCharacter
  else .ok (.domain (percentEncode controlSet cs))

end Host

end MessageBundles.Url
