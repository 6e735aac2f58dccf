import BuildIntake.Url.Idna
import BuildIntake.Url.Ipv4
import BuildIntake.Url.Ipv6
import BuildIntake.Url.Percent
import BuildIntake.Url.Scheme

/-!
# Hosts

The host of a special scheme is a domain or an address; other schemes keep their hosts as they are.
-/

namespace BuildIntake.Url.Host

/-- Reads an address that starts with a bracket. -/
def bracketed (cs : List Char) : Except Fault String :=
  match cs.reverse with
  | ']' :: r => (Ipv6.parse r.reverse).map fun ps => "[" ++ Ipv6.render ps ++ "]"
  | _ => .error .ipv6

/-- A domain in its ASCII form, or an IPv4 address if it ends in a number. -/
def domain (cs : List Char) : Except Fault String :=
  match Idna.toAscii? (Text.Utf8.decodeWithReplacement (percentDecode cs)) with
  | none => .error .domain
  | some [] => .error .emptyHost
  | some ascii =>
    if Ipv4.endsInNumber ascii then (Ipv4.parse ascii).map Ipv4.render
    else .ok (String.ofList ascii)

/-- The characters that may not stand in a host that is kept as it is. -/
def isRefused (c : Char) : Bool :=
  c = '\x00' || "\t\n\r #/:<>?@[\\]^|".toList.contains c

def kept (cs : List Char) : Except Fault String :=
  if cs.any isRefused then .error .hostCharacter
  else .ok (String.ofList (percentEncode .controls cs))

/-- Reads a host that is not empty, or the host of a scheme that is not special. -/
def parse (k : SchemeKind) : List Char → Except Fault String
  | '[' :: r => bracketed r
  | cs => if k.isSpecial then domain cs else kept cs

end BuildIntake.Url.Host
