import WalletRelay.Url.Domain
import WalletRelay.Url.Ipv6
import WalletRelay.Url.Percent

/-!
# URLs: errors and hosts

The host of a URL with a special scheme is an IPv6 address in brackets, an IPv4 address, or a domain
name. With any other scheme it is an IPv6 address or a text that is kept as it is.
-/

namespace WalletRelay

inductive UrlError where
  | relativeWithoutBase
  | emptyHost
  | invalidPort
  | invalidIpv4
  | invalidIpv6
  /-- The host is no domain name. -/
  | invalidDomainName
  /-- The host has a character that may not stand there. -/
  | invalidDomainCharacter
deriving DecidableEq, Repr

def UrlError.message : UrlError → String
  | .relativeWithoutBase => "relative URL without a base"
  | .emptyHost => "empty host"
  | .invalidPort => "invalid port number"
  | .invalidIpv4 => "invalid IPv4 address"
  | .invalidIpv6 => "invalid IPv6 address"
  | .invalidDomainName => "invalid international domain name"
  | .invalidDomainCharacter => "invalid domain character"

namespace Url

def bracketedHost (rest : List Char) : Except UrlError String :=
  if rest.getLast? = some ']' then
    match Ipv6.parse? rest.dropLast with
    | some groups => .ok ("[" ++ Ipv6.toText groups ++ "]")
    | none => .error .invalidIpv6
  else .error .invalidIpv6

/-- A domain name or IPv4 address after percent-decoding. -/
def decodedHost (bytes : List UInt8) : Except UrlError String :=
  match (String.fromUTF8? ⟨bytes.toArray⟩).bind fun s => Domain.toAscii? s.toList with
  | none => .error .invalidDomainName
  | some [] => .error .emptyHost
  | some host =>
    if Ipv4.endsInNumber host then
      match Ipv4.parse? host with
      | some address => .ok (Ipv4.toText address)
      | none => .error .invalidIpv4
    else .ok (String.ofList host)

/-- The written form of a host of a special scheme. -/
def specialHost : List Char → Except UrlError String
  | '[' :: rest => bracketedHost rest
  | cs => decodedHost (percentDecode cs)

def forbiddenInHost : List Char :=
  ['\x00', '\t', '\n', '\r', ' ', '#', '/', ':', '<', '>', '?', '@', '[', '\\', ']', '^', '|']

/-- The written form of a host of any other scheme. -/
def plainHost : List Char → Except UrlError String
  | '[' :: rest => bracketedHost rest
  | cs =>
    if cs.any forbiddenInHost.contains then .error .invalidDomainCharacter
    else .ok (String.ofList (percentEncode [] cs))

end Url
end WalletRelay
