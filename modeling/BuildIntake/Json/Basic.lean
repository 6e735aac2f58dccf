import BuildIntake.Number.Extended

/-!
# JSON documents

A document keeps whole numbers apart from doubles, and an object keeps its members in the order in
which their keys first appeared.
-/

namespace BuildIntake

inductive Json where
  | null
  | bool (b : Bool)
  | int (n : Int)
  | float (x : Number.Extended)
  | str (s : String)
  | arr (items : List Json)
  | obj (members : List (String × Json))

namespace Json

instance : Inhabited Json := ⟨.null⟩

/-- The members of an object, in order. -/
abbrev Members := List (String × Json)

/-- Gives `key` the value `v`: in its old place if the key is there, else at the end. -/
def Members.put (ms : Members) (key : String) (v : Json) : Members :=
  if (ms.lookup key).isSome then ms.map fun m => if m.1 = key then (key, v) else m
  else ms ++ [(key, v)]

def Members.keys (ms : Members) : List String := ms.map (·.1)

@[simp] theorem Members.keys_nil : Members.keys [] = [] := rfl

theorem Members.keys_put (ms : Members) (key : String) (v : Json) :
    (ms.put key v).keys = if (ms.lookup key).isSome then ms.keys else ms.keys ++ [key] := by
  unfold put keys
  split
  · rw [List.map_map]
    refine List.map_congr_left fun m _ => ?_
    simp only [Function.comp]
    split <;> simp_all
  · simp

def get? (key : String) : Json → Option Json
  | .obj ms => ms.lookup key
  | _ => none

def str? : Json → Option String
  | .str s => some s
  | _ => none

end Json

end BuildIntake
