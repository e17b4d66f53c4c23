namespace SignIn

/-- Why a text is no absolute URL. -/
inductive UrlError where
  /-- There is no scheme, and nothing to take it from. -/
  | withoutBase
  | emptyHost
  | invalidPort
  | invalidIpv4
  | invalidIpv6
  /-- A host that is kept as it stands holds a character that no host may hold. -/
  | invalidHostCharacter
  /-- A host is no domain name. -/
  | invalidDomainName
  deriving DecidableEq, Repr

/-- The text of a URL error. -/
def UrlError.message : UrlError → String
  | .withoutBase => "relative URL without a base"
  | .emptyHost => "empty host"
  | .invalidPort => "invalid port number"
  | .invalidIpv4 => "invalid IPv4 address"
  | .invalidIpv6 => "invalid IPv6 address"
  | .invalidHostCharacter => "invalid domain character"
  | .invalidDomainName => "invalid international domain name"

end SignIn
