import BuildIntake.Schema.Problem

/-!
# Checked values

A value, or the problems that stand in its way. Two checks that do not depend on each other are
both made, so the problems of a record are those of all its parts, in order.
-/

namespace BuildIntake.Schema

abbrev Checked (α : Type) := Except (List Problem) α

namespace Checked

variable {α β : Type}

/-- A single problem at the place where the check stands. -/
def fail (cause : Cause) : Checked α := .error [⟨[], cause⟩]

/-- The same outcome, seen from one step further out. -/
def within (s : Step) : Checked α → Checked α
  | .ok a => .ok a
  | .error ps => .error (ps.map (·.within s))

/-- Both checks, the problems of the first before those of the second. -/
def both (f : Checked (α → β)) (a : Checked α) : Checked β :=
  match f, a with
  | .ok f, .ok a => .ok (f a)
  | .ok _, .error ps => .error ps
  | .error ps, .ok _ => .error ps
  | .error ps, .error qs => .error (ps ++ qs)

@[simp] theorem within_ok (s : Step) (a : α) : within s (.ok a) = .ok a := rfl

theorem within_eq_ok_iff {s : Step} {c : Checked α} {a : α} : c.within s = .ok a ↔ c = .ok a := by
  cases c <;> simp [within]

theorem both_eq_ok_iff {f : Checked (α → β)} {a : Checked α} {b : β} :
    both f a = .ok b ↔ ∃ g x, f = .ok g ∧ a = .ok x ∧ g x = b := by
  cases f <;> cases a <;> simp [both]

/-- Checks the items of a list, each in its place. -/
def items (check : α → Checked β) (i : Nat) : List α → Checked (List β)
  | [] => .ok []
  | x :: xs => both (((check x).within (.index i)).map List.cons) (items check (i + 1) xs)

/-- Checks the values of a map, each under its key. -/
def values (check : α → Checked β) : List (String × α) → Checked (List (String × β))
  | [] => .ok []
  | (key, x) :: ms =>
    both (((check x).within (.key key)).map fun y rest => (key, y) :: rest) (values check ms)

end Checked

end BuildIntake.Schema
