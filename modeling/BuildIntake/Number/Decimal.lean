import BuildIntake.Number.Quantity

/-!
# Decimal numerals of doubles

Reading: a numeral denotes a rational, and the double is the one nearest to it. Writing: of the
decimals that read back as the same double, one with the fewest digits, of these the nearest, and
in a tie the one whose last digit is even.
-/

namespace BuildIntake.Number

/-- A whole number times a power of ten. -/
structure Decimal where
  digits : Nat
  exponent : Int
  deriving DecidableEq

namespace Decimal

def toRat (d : Decimal) : Rat :=
  mkRat (d.digits * Nat.pow 10 d.exponent.toNat : Nat) (Nat.pow 10 (-d.exponent).toNat)

/-- How many digits a positive number has in base ten, or one more. -/
def width (n : Nat) : Nat := n.log2 * 30103 / 100000 + 2

/-- The nearest double. Numerals that lie far outside all doubles are settled by their length. -/
def round (negative : Bool) (d : Decimal) : Extended :=
  if d.digits = 0 then .signedZero negative
  else if 400 < d.exponent then .infinite negative
  else if d.exponent + width d.digits < -400 then .signedZero negative
  else
    Binary64.roundRatio negative
      (d.digits * Nat.pow 10 d.exponent.toNat) (Nat.pow 10 (-d.exponent).toNat)

end Decimal

/-- The greatest `p` with `10 ^ p ≤ q`, for positive `q`. -/
def decade (q : Rat) : Int :=
  let fits (p : Int) : Bool := decide ((Decimal.mk 1 p).toRat ≤ q)
  let guess : Int := ((q.num.natAbs.log2 : Int) - q.den.log2) * 30103 / 100000
  if fits (guess + 1) then guess + 1 else if fits guess then guess else guess - 1

/-- The better of the neighbours of `q` on the decimal grid of the exponent `e`, if one of them
reads back as `x`. -/
def nearestOnGrid? (q : Rat) (x : Extended) (e : Int) : Option Decimal :=
  let low := (q / (Decimal.mk 1 e).toRat).floor.toNat
  let readsBack (n : Nat) : Bool := decide (Decimal.round false ⟨n, e⟩ = x)
  match readsBack low, readsBack (low + 1) with
  | true, true =>
    let below := q - (Decimal.mk low e).toRat
    let above := (Decimal.mk (low + 1) e).toRat - q
    if below < above then some ⟨low, e⟩
    else if above < below then some ⟨low + 1, e⟩
    else some ⟨low + low % 2, e⟩
  | true, false => some ⟨low, e⟩
  | false, true => some ⟨low + 1, e⟩
  | false, false => none

/-- The shortest decimal of a positive double; seventeen digits always suffice. -/
def shortest (q : Rat) : Decimal :=
  let p := decade q
  ((List.range 17).findSome? fun k : Nat => nearestOnGrid? q (.rational q) (p - k)).getD ⟨0, 0⟩

/-- How a number is spelled: the decimal exponents that are written with a bare point. -/
structure NumeralStyle where
  leastPositional : Int
  greatestPositional : Int

/-- Plain notation from `0.0001` up to sixteen digits before the point. -/
def NumeralStyle.plain : NumeralStyle := ⟨-4, 15⟩

/-- The exponent of the scientific form: a sign and at least two digits. -/
def exponentText (e : Int) : String :=
  let digits := toString e.natAbs
  (if e < 0 then "e-" else "e+") ++ (if digits.length < 2 then "0" ++ digits else digits)

/-- Spells a decimal; a whole number in plain notation keeps one zero after its point. -/
def Decimal.spell (style : NumeralStyle) (d : Decimal) : String :=
  let all := Nat.toDigits 10 d.digits
  let kept := (all.reverse.dropWhile (· = '0')).reverse
  let e : Int := all.length - 1 + d.exponent
  if style.leastPositional ≤ e ∧ e ≤ style.greatestPositional then
    if e < 0 then
      "0." ++ String.ofList (List.replicate (-e - 1).toNat '0' ++ kept)
    else
      let places := e.toNat + 1
      let whole := kept.take places ++ List.replicate (places - kept.length) '0'
      let fraction := kept.drop places
      String.ofList whole ++ "." ++ (if fraction.isEmpty then "0" else String.ofList fraction)
  else
    let head := String.ofList (kept.take 1)
    let tail := kept.drop 1
    head ++ (if tail.isEmpty then "" else "." ++ String.ofList tail) ++ exponentText e

def Extended.toText : Extended → String
  | .nan => "nan"
  | .infinite negative => if negative then "-inf" else "inf"
  | .negativeZero => "-0.0"
  | .rational q =>
    if q = 0 then "0.0"
    else if q < 0 then "-" ++ (shortest (-q)).spell .plain
    else (shortest q).spell .plain

def Quantity.toText : Quantity → String
  | .whole n => toString n
  | .real x => x.toText

end BuildIntake.Number
