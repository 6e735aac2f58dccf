import BuildIntake.Json.Token
import BuildIntake.Url.Fault

/-!
# IPv4 addresses in hosts

A host whose last part is a number is an IPv4 address. It has one to four numbers, each decimal,
octal behind a zero or hexadecimal behind `0x`; the last number fills all bytes that are left.
-/

namespace BuildIntake.Url.Ipv4

/-- The parts between the dots, without an empty part behind the last dot. -/
def parts (cs : List Char) : List (List Char) :=
  match (cs.splitOn '.').reverse with
  | [] :: rest@(_ :: _) => rest.reverse
  | ps => ps.reverse

/-- The digits of a number in its base. -/
def digits? (base : Nat) (cs : List Char) : Option Nat :=
  cs.foldlM (fun n c => do
    let d ← Json.hexValue? c
    if d < base then some (base * n + d) else none) 0

def number? : List Char → Option Nat
  | [] => none
  | '0' :: 'x' :: r | '0' :: 'X' :: r => digits? 16 r
  | '0' :: r => digits? 8 r
  | cs => digits? 10 cs

/-- Whether a host has to be read as an address. -/
def endsInNumber (host : List Char) : Bool :=
  match (parts host).getLast? with
  | some (c :: cs) => (c :: cs).all Char.isDigit || (number? (c :: cs)).isSome
  | _ => false

/-- Joins the numbers to one; `places` bytes are to be filled. -/
def join? : (places : Nat) → List Nat → Option Nat
  | places, [n] => if n < Nat.pow 256 places then some n else none
  | places + 1, n :: ns =>
    if n < 256 then (join? places ns).map (n * Nat.pow 256 places + ·) else none
  | _, _ => none

def parse (host : List Char) : Except Fault Nat :=
  match ((parts host).mapM number?).bind (join? 4) with
  | some n => .ok n
  | none => .error .ipv4

/-- Four decimal numbers. -/
def render (n : Nat) : String :=
  ".".intercalate ([3, 2, 1, 0].map fun k => toString (n / Nat.pow 256 k % 256))

end BuildIntake.Url.Ipv4
