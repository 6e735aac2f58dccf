import BuildIntake.Number.Quantity
import BuildIntake.Number.Numeral
import BuildIntake.Text.Digit

/-!
# Delays

How long a build is to wait, written as a number of seconds with an optional unit. Blanks may stand
around the number and around the unit. Where nothing is written, a default is used.
-/

namespace BuildIntake.Delay

open Number

inductive Scale where
  | seconds
  | milliseconds
  deriving DecidableEq

/-- The spellings of the units. -/
def scale? : List Char → Option Scale
  | [] | ['s'] | ['s', 'e', 'c'] | ['s', 'e', 'c', 's'] => some .seconds
  | ['m', 's'] => some .milliseconds
  | _ => none

/-- The digits on both sides of the point; a point without digits behind it is not taken. -/
structure Amount where
  whole : List Nat
  fraction : List Nat
  deriving DecidableEq

/-- The double nearest to the number written. -/
def Amount.value (a : Amount) : Extended :=
  Decimal.round false ⟨Text.ofDigits (a.whole ++ a.fraction), -(a.fraction.length : Int)⟩

/-- Reads an amount from the start of a text. -/
def readAmount? (cs : List Char) : Option (Amount × List Char) :=
  match Text.digits cs with
  | ([], _) => none
  | (whole, '.' :: r) =>
    match Text.digits r with
    | ([], _) => some (⟨whole, []⟩, '.' :: r)
    | (fraction, r) => some (⟨whole, fraction⟩, r)
  | (whole, r) => some (⟨whole, []⟩, r)

def Scale.apply : Scale → Extended → Extended
  | .seconds, x => x
  | .milliseconds, x => Binary64.divNat x 1000

/-- The seconds that a text without blanks at its ends denotes. -/
def seconds? (cs : List Char) : Option Extended := do
  let (amount, r) ← readAmount? cs
  let scale ← scale? (r.dropWhile Text.isBlank)
  return scale.apply amount.value

/-- The text is not a delay. -/
structure Fault where
  text : String
  deriving DecidableEq

def Fault.message (f : Fault) : String := "Invalid delay: " ++ f.text

/-- The delay that a request asks for. -/
def read (default : Quantity) : Option String → Except Fault Quantity
  | none => .ok default
  | some s =>
    match Text.trimBy Text.isBlank s.toList with
    | [] => .ok default
    | cs => match seconds? cs with
      | some x => .ok (.real x)
      | none => .error ⟨s⟩

end BuildIntake.Delay
