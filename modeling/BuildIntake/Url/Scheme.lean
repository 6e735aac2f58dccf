/-!
# Schemes

A URL starts with its scheme. A few schemes are special: they have a host, and a backslash in them
counts as a slash.
-/

namespace BuildIntake.Url

inductive SchemeKind where
  /-- A scheme of files on hosts or on the local machine. -/
  | file
  /-- A special scheme with the `portNumber` that goes without saying. -/
  | special (portNumber : Nat)
  | other
  deriving DecidableEq

namespace SchemeKind

def ofName : String → SchemeKind
  | "http" | "ws" => .special 80
  | "https" | "wss" => .special 443
  | "ftp" => .special 21
  | "file" => .file
  | _ => .other

def isSpecial : SchemeKind → Bool
  | .other => false
  | _ => true

def defaultPort? : SchemeKind → Option Nat
  | .special n => some n
  | _ => none

/-- The characters that part the segments of a path. -/
def isSlash (k : SchemeKind) (c : Char) : Bool :=
  c = '/' || (c = '\\' && k.isSpecial)

/-- The characters behind which neither a host nor a user can go on. -/
def endsAuthority (k : SchemeKind) (c : Char) : Bool :=
  k.isSlash c || c = '?' || c = '#'

end SchemeKind

def isSchemeChar (c : Char) : Bool :=
  c.isAlphanum || c = '+' || c = '-' || c = '.'

/-- The scheme in small letters and what stands behind its colon. -/
def takeScheme? (cs : List Char) : Option (String × List Char) :=
  match cs.head?, cs.dropWhile isSchemeChar with
  | some c, ':' :: r =>
    if c.isAlpha then some (String.ofList ((cs.takeWhile isSchemeChar).map Char.toLower), r)
    else none
  | _, _ => none

end BuildIntake.Url
