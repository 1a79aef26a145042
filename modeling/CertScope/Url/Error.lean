/-!
# URLs that are refused
-/

namespace CertScope

inductive UrlError where
  | noScheme
  | emptyHost
  | badName
  | badCharacter
  | badPort
  | badIpv4
  | badIpv6
  deriving DecidableEq, Repr

def UrlError.message : UrlError → String
  | noScheme => "relative URL without a base"
  | emptyHost => "empty host"
  | badName => "invalid international domain name"
  | badCharacter => "invalid domain character"
  | badPort => "invalid port number"
  | badIpv4 => "invalid IPv4 address"
  | badIpv6 => "invalid IPv6 address"

end CertScope
