import SignIn.Url.Address
import SignIn.Url.DomainName
import SignIn.Url.Error
import SignIn.Url.Percent

namespace SignIn

/-- A host. -/
inductive Host where
  /-- A domain name in ASCII, or the host of a scheme that has no rules for hosts. -/
  | name (text : List Char)
  | ipv4 (address : Nat)
  | ipv6 (pieces : List Nat)
  deriving DecidableEq, Repr

namespace Host

/-- The text of a host. -/
def text : Host → List Char
  | .name text => text
  | .ipv4 address => Address.showIpv4 address
  | .ipv6 pieces => '[' :: Address.showIpv6 pieces ++ [']']

/-- What stands in brackets is an address of 128 bits. -/
def readBracketed (text : List Char) : Except UrlError Host :=
  if text.getLast? = some ']' then
    match Address.readIpv6 text.tail.dropLast with
    | some pieces => .ok (.ipv6 pieces)
    | none => .error .invalidIpv6
  else .error .invalidIpv6

/-- The characters that no host of any scheme may hold. -/
def isForbidden (c : Char) : Bool :=
  ['\x00', '\t', '\n', '\r', ' ', '#', '/', ':', '<', '>', '?', '@', '[', '\\', ']', '^', '|'].contains c

/-- Reads the host of a scheme that has no rules for hosts. -/
def readPlain (text : List Char) : Except UrlError Host :=
  if text.head? = some '[' then readBracketed text
  else if text.any isForbidden then .error .invalidHostCharacter
  else .ok (.name (Percent.encode Percent.isControl text))

/-- Reads the host of a special scheme: a domain name or an address. -/
def readSpecial (text : List Char) : Except UrlError Host :=
  if text.head? = some '[' then readBracketed text
  else
    match (Utf8.decode? (Percent.decode text)).bind DomainName.toAscii with
    | none => .error .invalidDomainName
    | some [] => .error .emptyHost
    | some domain =>
      if Address.endsInNumber domain then
        match Address.readIpv4 domain with
        | some address => .ok (.ipv4 address)
        | none => .error .invalidIpv4
      else .ok (.name domain)

end Host

end SignIn
