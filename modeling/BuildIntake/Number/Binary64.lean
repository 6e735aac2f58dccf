import BuildIntake.Number.Extended

/-!
# Binary64 arithmetic

The doubles among the extended rationals, as the image of one rounding. Every operation is the
exact operation on rationals followed by that rounding: to nearest, a tie to the even neighbour,
gradual underflow down to `2 ^ -1074`, and infinity from half a unit above the greatest double.
-/

namespace BuildIntake.Number

/-- The quotient to the nearest whole number, a tie to the even one. -/
def divNearest (n d : Nat) : Nat :=
  let q := n / d
  let r := n % d
  if 2 * r < d then q else if d < 2 * r then q + 1 else q + q % 2

/-- The greatest `k` with `2 ^ k ≤ n / d`, for positive `n` and `d`. -/
def binade (n d : Nat) : Int :=
  let k : Int := n.log2 - d.log2
  if d * Nat.pow 2 k.toNat ≤ n * Nat.pow 2 (-k).toNat then k else k - 1

namespace Binary64

def precision : Nat := 53

/-- The exponent of the least positive double. -/
def leastExponent : Int := -1074

/-- The first power of two beyond all doubles. -/
def overflowExponent : Nat := 1024

/-- The exponent of the unit in the last place at the magnitude `n / d`. -/
def unitExponent (n d : Nat) : Int :=
  max (binade n d - (precision - 1 : Nat)) leastExponent

/-- The double nearest to `n / d`, with its sign given apart. -/
def roundRatio (negative : Bool) (n d : Nat) : Extended :=
  if n = 0 then .signedZero negative
  else
    let u := unitExponent n d
    let m := divNearest (n * Nat.pow 2 (-u).toNat) (d * Nat.pow 2 u.toNat)
    if m = 0 then .signedZero negative
    else if Nat.pow 2 overflowExponent ≤ m * Nat.pow 2 u.toNat then .infinite negative
    else
      let q := mkRat (m * Nat.pow 2 u.toNat : Nat) (Nat.pow 2 (-u).toNat)
      .rational (if negative then -q else q)

def round (q : Rat) : Extended :=
  roundRatio (decide (q < 0)) q.num.natAbs q.den

def ofInt (n : Int) : Extended := round n

def add (x y : Extended) : Extended :=
  match x, y with
  | .nan, _ | _, .nan => .nan
  | .infinite s, .infinite t => if s = t then .infinite s else .nan
  | .infinite s, _ | _, .infinite s => .infinite s
  | .negativeZero, .negativeZero => .negativeZero
  | .negativeZero, .rational q | .rational q, .negativeZero => round q
  | .rational p, .rational q => round (p + q)

def sub (x y : Extended) : Extended := add x y.neg

def mul (x y : Extended) : Extended :=
  let negative := x.isNegative != y.isNegative
  match x, y with
  | .nan, _ | _, .nan => .nan
  | .infinite _, y => if y.toRat? = some 0 then .nan else .infinite negative
  | x, .infinite _ => if x.toRat? = some 0 then .nan else .infinite negative
  | x, y =>
    let q := x.toRat?.getD 0 * y.toRat?.getD 0
    roundRatio negative q.num.natAbs q.den

/-- Division by a positive whole number. -/
def divNat (x : Extended) (k : Nat) : Extended :=
  match x with
  | .rational q => round (q / k)
  | x => x

end Binary64

end BuildIntake.Number
