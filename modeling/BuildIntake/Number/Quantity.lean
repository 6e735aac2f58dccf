import BuildIntake.Number.Binary64

/-!
# Quantities

A count of seconds is held as a whole number as long as nothing fractional took part in it, and as
a double from then on. Whole numbers add exactly; a sum with a double is rounded once. Comparison
is always of the exact values.
-/

namespace BuildIntake.Number

inductive Quantity where
  | whole (n : Int)
  | real (x : Extended)
  deriving DecidableEq

namespace Quantity

instance : Inhabited Quantity := ⟨.whole 0⟩

/-- The value held, without rounding. -/
def exact : Quantity → Extended
  | .whole n => .ofInt n
  | .real x => x

/-- The nearest double. -/
def toBinary64 : Quantity → Extended
  | .whole n => Binary64.ofInt n
  | .real x => x

def add : Quantity → Quantity → Quantity
  | .whole m, .whole n => .whole (m + n)
  | x, y => .real (Binary64.add x.toBinary64 y.toBinary64)

def sub : Quantity → Quantity → Quantity
  | .whole m, .whole n => .whole (m - n)
  | x, y => .real (Binary64.sub x.toBinary64 y.toBinary64)

instance : Add Quantity := ⟨add⟩
instance : Sub Quantity := ⟨sub⟩
instance : LE Quantity := ⟨fun x y => x.exact ≤ y.exact⟩

instance (x y : Quantity) : Decidable (x ≤ y) :=
  inferInstanceAs (Decidable (x.exact ≤ y.exact))

theorem le_trans {x y z : Quantity} (hxy : x ≤ y) (hyz : y ≤ z) : x ≤ z :=
  Extended.le_trans hxy hyz

end Quantity

end BuildIntake.Number
