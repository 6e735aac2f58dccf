import BuildIntake.Text.Composition
import BuildIntake.Text.Direction
import BuildIntake.Text.Joining
import BuildIntake.Url.Idna.Mapping
import BuildIntake.Url.Idna.Punycode

/-!
# Domains in ASCII

A domain with characters beyond ASCII is brought into its ASCII form label by label. Labels that
are encoded already are decoded for a check and kept.
-/

namespace BuildIntake.Url.Idna

/-- The characters of ASCII that no domain may hold. -/
def isForbidden (c : Char) : Bool :=
  c.toNat ≤ 0x20 || c.toNat = 0x7F || "%#/:<>?@[\\]^|".toList.contains c

def isAscii (c : Char) : Bool := c.toNat < 0x80

/-- What an encoded label starts with. -/
def mark : List Char := "xn--".toList

/-- An encoded label, decoded; it holds a character beyond ASCII and could not be mapped further. -/
def decodeLabel? (l : List Char) : Option (List Char) := do
  let cs ← Punycode.decode? (l.drop mark.length)
  if l.all isAscii ∧ ¬ cs.all isAscii ∧ cs.all isKept ∧ Text.compose cs = cs then return cs
  else none

/-- The label itself, or what it encodes. -/
def plainLabel? (l : List Char) : Option (List Char) :=
  if mark.isPrefixOf l then decodeLabel? l else some l

/-- A joiner stands behind a virama or, if it keeps letters apart, between letters that join. -/
def joinersFit (before : List Char) : List Char → Bool
  | [] => true
  | c :: cs =>
    let behindVirama := (before.head?.map Text.isVirama).getD false
    let passed (ds : List Char) := (ds.map Text.joining).dropWhile (· = .transparent)
    let between := ((passed before).head?.map Text.Joining.joinsNext).getD false &&
      ((passed cs).head?.map Text.Joining.joinsPrevious).getD false
    (if c = '\u200d' then behindVirama
      else if c = '\u200c' then behindVirama || between
      else true) && joinersFit (c :: before) cs

def isRightToLeft (d : Text.Direction) : Bool :=
  d == .right || d == .arabic || d == .arabicNumber

/-- The directions that labels of either direction may hold. -/
def isShared (d : Text.Direction) : Bool :=
  d == .number || d == .numberSign || d == .separator || d == .numberEnd || d == .neutral ||
    d == .boundary || d == .nonspacing

/-- Whether the directions in a label go together. -/
def directionsFit (ds : List Text.Direction) : Bool :=
  let last := (ds.reverse.dropWhile (· = .nonspacing)).head?
  match ds.head? with
  | none => true
  | some .left =>
    ds.all (fun d => d == .left || isShared d) && (last == some .left || last == some .number)
  | some .right | some .arabic =>
    ds.all (fun d => isRightToLeft d || isShared d) &&
      (last.any fun d => isRightToLeft d || d == .number) &&
      !(ds.contains .number && ds.contains .arabicNumber)
  | some _ => false

/-- Whether a label may stand in a domain; `bidirectional` tells that one of its labels is written
from right to left. -/
def isValid (bidirectional : Bool) (l : List Char) : Bool :=
  !(l.head?.map Text.isMark).getD false && !l.any isForbidden && joinersFit [] l &&
    (!bidirectional || directionsFit (l.map Text.direction))

def encodeLabel (l : List Char) : List Char :=
  if l.all isAscii then l else mark ++ Punycode.encode l

/-- A domain of ASCII characters none of whose labels is encoded. -/
def isPlain (cs : List Char) : Bool :=
  cs.all isAscii && !(cs.splitOn '.').any mark.isPrefixOf

/-- The ASCII form of a domain whose labels have to be looked at one by one. -/
def labelsToAscii? (cs : List Char) : Option (List Char) := do
  let mapped ← cs.mapM map?
  let labels ← ((Text.compose mapped.flatten).splitOn '.').mapM plainLabel?
  let bidirectional := labels.any fun l => l.any fun c => isRightToLeft (Text.direction c)
  if labels.all (isValid bidirectional) then
    return ['.'].intercalate (labels.map encodeLabel)
  else none

/-- The ASCII form of a domain, if it has one. Of a plain domain only the letters become small. -/
def toAscii? (cs : List Char) : Option (List Char) :=
  let small := cs.map Char.toLower
  if isPlain small then (if small.any isForbidden then none else some small)
  else labelsToAscii? cs

end BuildIntake.Url.Idna
