import BuildIntake.Number.Decimal
import BuildIntake.Text.Blank

/-!
# Numbers written by people

Whole numbers and doubles read from a text: blanks around the number do not count, and single
underscores may part its ASCII digits.
-/

namespace BuildIntake.Number

/-- How many digits a whole number may be written with, where it is not known to be small. -/
def greatestLength : Nat := 4300

/-- Digits with at most one underscore between two of them. -/
def isGrouped : List Char → Bool
  | [] => false
  | [c] => c.isDigit
  | c :: '_' :: r => c.isDigit && isGrouped r
  | c :: r => c.isDigit && isGrouped r

def groupValue (cs : List Char) : Nat :=
  (cs.filter Char.isDigit).foldl (fun n c => 10 * n + (c.toNat - '0'.toNat)) 0

/-- Takes off the sign; `true` is the minus. -/
def takeSign : List Char → Bool × List Char
  | '-' :: r => (true, r)
  | '+' :: r => (false, r)
  | r => (false, r)

/-- The text before the first character of the kind `p`, and the text behind it if there is one. -/
def splitAtFirst (p : Char → Bool) (cs : List Char) : List Char × Option (List Char) :=
  match cs.dropWhile fun c => !p c with
  | [] => (cs, none)
  | _ :: r => (cs.takeWhile fun c => !p c, some r)

/-- A whole number; a point may follow if nothing but zeros stands behind it. -/
def readInteger? (s : String) : Option Int :=
  let (negative, r) := takeSign (Text.trimBy Text.isWhite s.toList)
  let (whole, fraction) := splitAtFirst (· = '.') r
  let idle := match fraction with
    | none => true
    | some ds => !ds.isEmpty && ds.all (· = '0')
  if isGrouped whole && idle then
    let v := groupValue whole
    some (if negative then -(v : Int) else v)
  else none

/-- The exponent of a number in scientific notation. -/
def readExponent? : Option (List Char) → Option Int
  | none => some 0
  | some cs =>
    let (negative, ds) := takeSign cs
    if isGrouped ds then some (if negative then -(groupValue ds : Int) else groupValue ds) else none

/-- A double: a decimal with digits on at least one side of its point, or the name of an infinity
or of no number. -/
def readNumber? (s : String) : Option Extended :=
  let (negative, r) := takeSign (Text.trimBy Text.isWhite s.toList)
  let word := String.ofList (r.map Char.toLower)
  if word = "inf" ∨ word = "infinity" then some (.infinite negative)
  else if word = "nan" then some .nan
  else
    let (mantissa, exponent) := splitAtFirst (fun c => c = 'e' || c = 'E') r
    let (whole, fraction) := splitAtFirst (· = '.') mantissa
    let fraction := fraction.getD []
    if (whole.isEmpty || isGrouped whole) && (fraction.isEmpty || isGrouped fraction) &&
        !(whole.isEmpty && fraction.isEmpty) then
      (readExponent? exponent).map fun e =>
        let places := (fraction.filter Char.isDigit).length
        Decimal.round negative ⟨groupValue (whole ++ fraction), e - places⟩
    else none

end BuildIntake.Number
