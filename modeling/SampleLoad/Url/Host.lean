import SampleLoad.Text.Utf8
import SampleLoad.Url.DomainName

/-!
Hosts. The host of a web URL is a name or an address: a name is percent-decoded, brought to its form in
ASCII and must not hold characters that delimit parts of a URL; a name that ends in a number must be an IPv4
address. The host of any other URL is kept as it is, apart from percent encoding.
-/

namespace SampleLoad

/-- Why a text is no absolute URL. -/
inductive UrlError where
  | emptyHost
  | invalidName
  | invalidPort
  | invalidIpv4
  | invalidIpv6
  | invalidHostCharacter
  | relativeWithoutBase
  deriving DecidableEq, Repr

namespace UrlError

def message : UrlError → String
  | emptyHost => "empty host"
  | invalidName => "invalid international domain name"
  | invalidPort => "invalid port number"
  | invalidIpv4 => "invalid IPv4 address"
  | invalidIpv6 => "invalid IPv6 address"
  | invalidHostCharacter => "invalid domain character"
  | relativeWithoutBase => "relative URL without a base"

end UrlError

/-- A host as it stands in a URL. -/
inductive Host where
  | name (text : String)
  | ipv4 (address : Nat)
  | ipv6 (pieces : List Nat)
  deriving DecidableEq, Repr

namespace Host

def text : Host → String
  | name text => text
  | ipv4 address => Ipv4.text address
  | ipv6 pieces => "[" ++ Ipv6.text pieces ++ "]"

/-- Characters that may not stand in any host. -/
def isForbidden (c : Char) : Bool :=
  c ∈ ['\x00', '\t', '\n', '\r', ' ', '#', '/', ':', '<', '>', '?', '@', '[', '\\', ']', '^', '|']

/-- Characters that may not stand in a name. -/
def isForbiddenInName (c : Char) : Bool := isForbidden c || Percent.control c || c = '%'

/-- An address in brackets, of which the first one is gone. -/
def bracketed (cs : List Char) : Except UrlError Host :=
  if cs.getLast? ≠ some ']' then .error .invalidIpv6
  else match Ipv6.address? cs.dropLast with
    | some pieces => .ok (ipv6 pieces)
    | none => .error .invalidIpv6

/-- A name in ASCII and lower case, if all its characters are allowed. -/
def foldName (cs : List Char) : Except UrlError (List Char) :=
  match DomainName.ascii? cs with
  | some folded => if folded.any isForbiddenInName then .error .invalidName else .ok folded
  | none => .error .invalidName

/-- The host of a web URL. -/
def parseSpecial (cs : List Char) : Except UrlError Host :=
  match cs with
  | '[' :: rest => bracketed rest
  | cs => do
    let folded ← foldName (Utf8.decodeLenient (Percent.decode cs)).toList
    if folded = [] then .error .emptyHost
    else if Ipv4.endsInNumber folded then
      match Ipv4.address? folded with
      | some address => .ok (ipv4 address)
      | none => .error .invalidIpv4
    else .ok (name (.ofList folded))

/-- The host of a URL of another scheme. -/
def parseOpaque (cs : List Char) : Except UrlError Host :=
  match cs with
  | '[' :: rest => bracketed rest
  | cs =>
    if cs.any isForbidden then .error .invalidHostCharacter
    else .ok (name (.ofList (Percent.encode Percent.control cs)))

end Host

end SampleLoad
