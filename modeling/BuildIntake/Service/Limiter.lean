import BuildIntake.Number.Quantity

/-!
# A leaky bucket

Each admission raises the level by one, and the level sinks at a steady rate. An admission needs
room for one more. The arithmetic is that of doubles.
-/

namespace BuildIntake.Service

open Number

structure Limiter where
  level : Extended
  /-- When the level was last brought up to date. -/
  checked : Quantity

namespace Limiter

/-- How many admissions the bucket holds. -/
def capacity : Extended := .ofInt 10

/-- How much leaks in a second: the whole capacity in a minute. -/
def rate : Extended := Binary64.divNat capacity 60

def full (level : Extended) : Bool :=
  decide ¬ (Binary64.add level (.ofInt 1) ≤ capacity)

def empty : Limiter := ⟨.zero, .real .zero⟩

/-- Brings the level up to date; it does not sink below zero. -/
def leak (l : Limiter) (now : Quantity) : Limiter :=
  if l.level.toRat? = some 0 then ⟨l.level, now⟩
  else
    let level := Binary64.sub l.level (Binary64.mul (now - l.checked).toBinary64 rate)
    ⟨if Extended.zero ≤ level ∨ level = .nan then level else .zero, now⟩

/-- Asks for an admission. -/
def enter (l : Limiter) (now : Quantity) : Bool × Limiter :=
  let l := l.leak now
  if full l.level then (false, l)
  else (true, { l with level := Binary64.add l.level (.ofInt 1) })

end Limiter

end BuildIntake.Service
