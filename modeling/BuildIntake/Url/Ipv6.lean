import BuildIntake.Json.Token
import BuildIntake.Text.Quoted
import BuildIntake.Url.Fault

/-!
# IPv6 addresses in hosts

Eight pieces of sixteen bits between colons. One double colon may stand for one or more pieces of
zeros, and the last two pieces may be written as an IPv4 address in decimals.
-/

namespace BuildIntake.Url.Ipv6

/-- A piece of one to four hexadecimal digits. -/
def piece? (cs : List Char) : Option Nat :=
  if cs.isEmpty ∨ 4 < cs.length then none
  else cs.foldlM (fun n c => (Json.hexValue? c).map (16 * n + ·)) 0

/-- A decimal byte without superfluous zeros. -/
def byte? (cs : List Char) : Option Nat :=
  match cs with
  | [] => none
  | '0' :: _ :: _ => none
  | cs =>
    if cs.all Char.isDigit then
      let n := cs.foldl (fun n c => 10 * n + (c.toNat - '0'.toNat)) 0
      if n < 256 then some n else none
    else none

/-- The two pieces that an IPv4 address stands for. -/
def dotted? (cs : List Char) : Option (List Nat) :=
  match (cs.splitOn '.').mapM byte? with
  | some [a, b, c, d] => some [256 * a + b, 256 * c + d]
  | _ => none

/-- The pieces of a list whose last entry may be dotted. -/
def pieces? : List (List Char) → Option (List Nat)
  | [] => some []
  | [last] => if last.contains '.' then dotted? last else (piece? last).map fun n => [n]
  | p :: ps => do
    let n ← piece? p
    let ns ← pieces? ps
    return n :: ns

/-- The pieces of a text in which all colons are single. -/
def run? (cs : List Char) : Option (List Nat) :=
  if cs.isEmpty then some [] else pieces? (cs.splitOn ':')

/-- The text before the first double colon and the text behind it. -/
def splitDouble (before : List Char) : List Char → Option (List Char × List Char)
  | ':' :: ':' :: r => some (before.reverse, r)
  | c :: r => splitDouble (c :: before) r
  | [] => none

def parse? (cs : List Char) : Option (List Nat) :=
  match splitDouble [] cs with
  | none => do
    let ps ← run? cs
    if ps.length = 8 then some ps else none
  | some (before, behind) => do
    let ps ← run? before
    let qs ← run? behind
    if before.contains '.' then none
    else if ps.length + qs.length < 8 then
      some (ps ++ List.replicate (8 - ps.length - qs.length) 0 ++ qs)
    else none

def parse (cs : List Char) : Except Fault (List Nat) :=
  match parse? cs with
  | some ps => .ok ps
  | none => .error .ipv6

/-- How many zeros a list starts with. -/
def zeros (ps : List Nat) : Nat := (ps.takeWhile (· = 0)).length

/-- The place and the length of the first of the longest runs of zeros. -/
def longestZeros (ps : List Nat) : Nat × Nat :=
  (List.range ps.length).foldl (fun best i =>
    let n := zeros (ps.drop i)
    if best.2 < n then (i, n) else best) (0, 0)

/-- A piece in hexadecimal digits without superfluous zeros. -/
def pieceText (n : Nat) : String := String.ofList (Nat.toDigits 16 n)

/-- The pieces with their longest run of zeros left out, if it has two or more. -/
def render (ps : List Nat) : String :=
  let (i, n) := longestZeros ps
  let join (qs : List Nat) := ":".intercalate (qs.map pieceText)
  if n < 2 then join ps else join (ps.take i) ++ "::" ++ join (ps.drop (i + n))

end BuildIntake.Url.Ipv6
