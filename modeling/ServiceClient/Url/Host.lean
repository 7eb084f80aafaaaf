import ServiceClient.Url.Address
import ServiceClient.Url.Domain.Label
import ServiceClient.Url.Error
import ServiceClient.Url.Percent

/-!
# Hosts

The host of a special scheme is a domain name in its ASCII form or an address; the host of any other
scheme is kept as it is written.
-/

namespace ServiceClient.Url

/-- A host. -/
inductive Host where
  /-- A domain name in ASCII form, or the text of a host that is no domain name. -/
  | name (text : String)
  | ipv4 (address : Nat)
  | ipv6 (parts : List Nat)
  deriving DecidableEq, Repr

namespace Host

/-- The text of a host. -/
def text : Host → String
  | name s => s
  | ipv4 n => String.ofList (ipv4Text n)
  | ipv6 ps => String.ofList (['['] ++ ipv6Text ps ++ [']'])

/-- Reads a host that begins with a bracket. -/
def ofBracketed (cs : List Char) : Except Error Host :=
  if cs.getLast? = some ']' then
    match ipv6? (cs.drop 1).dropLast with
    | some parts => .ok (ipv6 parts)
    | none => .error .ipv6
  else .error .ipv6

/-- Reads the host of a special scheme. -/
def ofSpecial (cs : List Char) : Except Error Host :=
  if cs.head? = some '[' then ofBracketed cs
  else
    let octets := percentDecode (cs.flatMap String.utf8EncodeChar)
    match (Text.Utf8.decode? octets).bind Domain.toAscii? with
    | none => .error .domainName
    | some [] => .error .emptyHost
    | some domain =>
      if endsInNumber domain then
        match ipv4? domain with
        | some n => .ok (ipv4 n)
        | none => .error .ipv4
      else .ok (name (String.ofList domain))

/-- The characters that no host may hold. -/
def isForbiddenOpaque (c : Char) : Bool :=
  c.toNat = 0 || "\t\n\r #/:<>?@[\\]^|".toList.contains c

/-- Reads the host of a scheme that is not special. -/
def ofOpaque (cs : List Char) : Except Error Host :=
  if cs.head? = some '[' then ofBracketed cs
  else if cs.any isForbiddenOpaque then .error .hostCharacter
  else .ok (name (String.ofList (percentEncode controlSet cs)))

end Host
end ServiceClient.Url
