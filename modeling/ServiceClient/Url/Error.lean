/-!
# Why a text is no URL
-/

namespace ServiceClient.Url

/-- Why a text is no URL. -/
inductive Error where
  | emptyHost
  /-- The host is no domain name. -/
  | domainName
  | port
  | ipv4
  | ipv6
  /-- The host of a scheme without domain names holds a forbidden character. -/
  | hostCharacter
  /-- There is no scheme. -/
  | relative
  deriving DecidableEq, Repr

/-- The text of an error. -/
def Error.message : Error → String
  | emptyHost => "empty host"
  | domainName => "invalid international domain name"
  | port => "invalid port number"
  | ipv4 => "invalid IPv4 address"
  | ipv6 => "invalid IPv6 address"
  | hostCharacter => "invalid domain character"
  | relative => "relative URL without a base"

end ServiceClient.Url
