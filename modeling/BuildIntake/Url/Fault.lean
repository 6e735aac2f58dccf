/-!
# What can be wrong with a URL
-/

namespace BuildIntake.Url

inductive Fault where
  | emptyInput
  | noScheme
  | emptyHost
  | badPort
  | ipv4
  | ipv6
  /-- A domain that cannot be brought into its ASCII form. -/
  | domain
  /-- A character that may not stand in a host that is kept as it is. -/
  | hostCharacter
  deriving DecidableEq

def Fault.message : Fault → String
  | .emptyInput => "input is empty"
  | .noScheme => "relative URL without a base"
  | .emptyHost => "empty host"
  | .badPort => "invalid port number"
  | .ipv4 => "invalid IPv4 address"
  | .ipv6 => "invalid IPv6 address"
  | .domain => "invalid international domain name"
  | .hostCharacter => "invalid domain character"

end BuildIntake.Url
