/-!
# Extended rational numbers

The values that floating-point arithmetic works with, as exact numbers: the rationals, two
infinities, a zero below zero and the value that is no number. The order is that of the numbers
held; nothing compares with `nan`. Main statement: the order is transitive.
-/

namespace BuildIntake.Number

inductive Extended where
  | nan
  | infinite (negative : Bool)
  | negativeZero
  | rational (q : Rat)
  deriving DecidableEq

namespace Extended

instance : Inhabited Extended := ⟨.rational 0⟩

def zero : Extended := .rational 0

def ofInt (n : Int) : Extended := .rational n

/-- The rational that a finite value denotes. -/
def toRat? : Extended → Option Rat
  | .negativeZero => some 0
  | .rational q => some q
  | .nan | .infinite _ => none

def IsFinite (x : Extended) : Prop := x.toRat?.isSome

instance (x : Extended) : Decidable x.IsFinite :=
  inferInstanceAs (Decidable (x.toRat?.isSome = true))

def isNegative : Extended → Bool
  | .nan => false
  | .infinite negative => negative
  | .negativeZero => true
  | .rational q => decide (q < 0)

def neg : Extended → Extended
  | .nan => .nan
  | .infinite negative => .infinite !negative
  | .negativeZero => .rational 0
  | .rational q => if q = 0 then .negativeZero else .rational (-q)

/-- The zero of the given sign. -/
def signedZero (negative : Bool) : Extended :=
  if negative then .negativeZero else .rational 0

protected def Le : Extended → Extended → Prop
  | .nan, _ | _, .nan => False
  | .infinite true, _ | _, .infinite false => True
  | .infinite false, _ | _, .infinite true => False
  | .negativeZero, .negativeZero => True
  | .negativeZero, .rational q => 0 ≤ q
  | .rational p, .negativeZero => p ≤ 0
  | .rational p, .rational q => p ≤ q

instance : LE Extended := ⟨Extended.Le⟩

instance (x y : Extended) : Decidable (x ≤ y) := by
  change Decidable (Extended.Le x y)
  unfold Extended.Le
  split <;> infer_instance

theorem le_trans {x y z : Extended} (hxy : x ≤ y) (hyz : y ≤ z) : x ≤ z := by
  change Extended.Le x y at hxy
  change Extended.Le y z at hyz
  change Extended.Le x z
  rcases x with _ | (_ | _) | _ | p <;> rcases y with _ | (_ | _) | _ | q <;>
    rcases z with _ | (_ | _) | _ | r <;> simp_all [Extended.Le] <;> grind

end Extended

end BuildIntake.Number
