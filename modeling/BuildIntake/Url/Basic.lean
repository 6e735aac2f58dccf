import BuildIntake.Url.Host
import BuildIntake.Url.Path

/-!
# URLs

A URL is kept in its normal form: the scheme and the host in small letters, without a `portNumber`
that goes without saying, with its path resolved and everything percent-encoded that has to be.
-/

namespace BuildIntake

/-- A URL in its normal form. -/
structure Url where
  text : String
  deriving DecidableEq

namespace Url

/-- A text without the controls and blanks at its ends, and without breaks and tabs inside. -/
def clean (s : String) : List Char :=
  let cs := s.toList.dropWhile (· ≤ ' ')
  let cs := (cs.reverse.dropWhile (· ≤ ' ')).reverse
  cs.filter fun c => c ≠ '\t' ∧ c ≠ '\n' ∧ c ≠ '\r'

/-- The query and the fragment with their marks. -/
def tail (k : SchemeKind) (cs : List Char) : List Char :=
  let (query, rest) := match cs with
    | '?' :: r => ('?' :: percentEncode (if k.isSpecial then .specialQuery else .query)
        (r.takeWhile (· ≠ '#')), r.dropWhile (· ≠ '#'))
    | _ => ([], cs)
  match rest with
  | '#' :: r => query ++ '#' :: percentEncode .fragment r
  | _ => query

def endsPath (c : Char) : Bool := c = '?' || c = '#'

/-- The user and the password with their mark; nothing if both are empty. -/
def userinfo (cs : List Char) : List Char :=
  let user := percentEncode .userinfo (cs.takeWhile (· ≠ ':'))
  let password := percentEncode .userinfo ((cs.dropWhile (· ≠ ':')).drop 1)
  if user.isEmpty ∧ password.isEmpty then []
  else user ++ (if password.isEmpty then [] else ':' :: password) ++ ['@']

/-- Splits at the last at-sign, if there is one. -/
def splitUser (cs : List Char) : Option (List Char) × List Char :=
  if cs.contains '@' then
    let host := (cs.reverse.takeWhile (· ≠ '@')).reverse
    (some (cs.take (cs.length - host.length - 1)), host)
  else (none, cs)

/-- What stands before the first colon outside of brackets, and the rest. -/
def splitHost (inside : Bool) : List Char → List Char × List Char
  | [] => ([], [])
  | c :: r =>
    if c = ':' ∧ !inside then ([], c :: r)
    else
      let (host, behind) := splitHost (c = '[' || (inside && c ≠ ']')) r
      (c :: host, behind)

def greatestPort : Nat := 65535

/-- Reads a `portNumber` from behind its colon; gives what stands behind it as well. -/
def readPort (k : SchemeKind) (cs : List Char) : Except Fault (Option Nat × List Char) :=
  let ds := cs.takeWhile Char.isDigit
  let r := cs.dropWhile Char.isDigit
  let n := ds.foldl (fun n c => 10 * n + (c.toNat - '0'.toNat)) 0
  if greatestPort < n then .error .badPort
  else if r.head?.all fun c => c = '/' || c = '\\' || endsPath c then
    .ok (if ds.isEmpty ∨ k.defaultPort? = some n then none else some n, r)
  else .error .badPort

structure Authority where
  user : List Char
  host : String
  portNumber : Option Nat
  /-- What stands behind the authority. -/
  rest : List Char

def authority (k : SchemeKind) (cs : List Char) : Except Fault Authority := do
  let (user, hostPort) := splitUser (cs.takeWhile fun c => !k.endsAuthority c)
  let rest := cs.dropWhile fun c => !k.endsAuthority c
  let (host, portPart) := splitHost false hostPort
  if host.isEmpty ∧ (k.isSpecial ∨ !portPart.isEmpty) then throw .emptyHost
  if hostPort.isEmpty ∧ user = some [] ∧ !rest.isEmpty then throw .emptyHost
  let user := userinfo (user.getD [])
  let host ← Host.parse k host
  let (portNumber, behind) ← match portPart with
    | _ :: r => readPort k r
    | [] => .ok (none, [])
  if host = "" ∧ !user.isEmpty then throw .emptyHost
  return ⟨user, host, portNumber, behind ++ rest⟩

def Authority.text (a : Authority) : List Char :=
  a.user ++ a.host.toList ++ (match a.portNumber with
    | some n => ':' :: (toString n).toList
    | none => [])

/-- The path, the query and the fragment behind an authority. -/
def behindAuthority (k : SchemeKind) (cs : List Char) : List Char :=
  let path := cs.takeWhile fun c => !endsPath c
  let rest := cs.dropWhile fun c => !endsPath c
  if path.isEmpty ∧ !k.isSpecial then tail k rest
  else (Path.build k path).text k ++ tail k rest

/-- What stands behind the scheme of a URL without an authority. -/
def withoutAuthority (cs : List Char) : List Char :=
  let path := cs.takeWhile fun c => !endsPath c
  let rest := tail .other (cs.dropWhile fun c => !endsPath c)
  match path with
  | '/' :: _ =>
    let path := (Path.build .other path).text .other
    (match path with
      | '/' :: '/' :: _ => '/' :: '.' :: path
      | _ => path) ++ rest
  | _ => percentEncode .controls path ++ rest

/-- The host of a file, if two slashes announce one, and what stands behind it. A drive letter in
its place belongs to the path. -/
def splitFileHost (cs : List Char) : List Char × List Char :=
  match cs with
  | a :: b :: r =>
    if SchemeKind.file.isSlash a ∧ SchemeKind.file.isSlash b then
      let host := r.takeWhile fun c => !SchemeKind.file.endsAuthority c
      if Path.isDrive host then ([], r) else (host, r.drop host.length)
    else ([], cs)
  | _ => ([], cs)

/-- What stands behind the two slashes of a file. -/
def file (cs : List Char) : Except Fault (List Char) := do
  let (host, rest) := splitFileHost cs
  let text ← if host.isEmpty then .ok "" else Host.parse .file host
  let path := Path.build .file (rest.takeWhile fun c => !endsPath c)
  let shown := if text = "localhost" ∨ path.drive then [] else text.toList
  return shown ++ path.text .file ++ tail .file (rest.dropWhile fun c => !endsPath c)

/-- What stands behind the scheme and its colon, in normal form. -/
def body (k : SchemeKind) (cs : List Char) : Except Fault (List Char) :=
  match k, cs with
  | .file, cs => do
    let text ← file cs
    return '/' :: '/' :: text
  | .special p, cs => do
    let a ← authority (.special p) (cs.dropWhile (SchemeKind.special p).isSlash)
    return '/' :: '/' :: a.text ++ behindAuthority (.special p) a.rest
  | .other, '/' :: '/' :: r => do
    let a ← authority .other r
    return '/' :: '/' :: a.text ++ behindAuthority .other a.rest
  | .other, cs => .ok (withoutAuthority cs)

def parse (s : String) : Except Fault Url :=
  if s.isEmpty then .error .emptyInput
  else match takeScheme? (clean s) with
    | none => .error .noScheme
    | some (scheme, r) =>
      (body (.ofName scheme) r).map fun text => ⟨scheme ++ ":" ++ String.ofList text⟩

end Url

end BuildIntake
