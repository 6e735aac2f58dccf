import BuildIntake.Schema.Checked
import BuildIntake.Json.Display
import BuildIntake.Number.Numeral

/-!
# Checks of single values

A check takes a value of one type out of a document. Numbers and flags may be spelled in several
ways; texts, lists and maps are taken as they are or not at all.
-/

namespace BuildIntake.Schema

abbrev Check (α : Type) := Json → Checked α

namespace Check

variable {α : Type}

def anything : Check Json := .ok

def text : Check String
  | .str s => .ok s
  | _ => .fail .notText

/-- Whole doubles count as integers below this magnitude. -/
def integerBound : Int := Nat.pow 2 63

def integerOfReal : Number.Extended → Checked Int
  | .nan | .infinite _ => .fail .integerInfinite
  | .negativeZero => .ok 0
  | .rational q =>
    if q.den ≠ 1 then .fail .integerFraction
    else if -integerBound < q.num ∧ q.num < integerBound then .ok q.num
    else .fail .integerRange

/-- Integers may be spelled as flags, whole doubles and texts. -/
def integer : Check Int
  | .int n => .ok n
  | .bool b => .ok (if b then 1 else 0)
  | .float x => integerOfReal x
  | .str s => match Number.readInteger? s with
    | some n => .ok n
    | none => .fail .integerSyntax
  | _ => .fail .notInteger

def number : Check Number.Extended
  | .float x => .ok x
  | .int n => match Number.Binary64.ofInt n with
    | .infinite _ => .fail .notNumber
    | x => .ok x
  | .bool b => .ok (.ofInt (if b then 1 else 0))
  | .str s => match Number.readNumber? s with
    | some x => .ok x
    | none => .fail .numberSyntax
  | _ => .fail .notNumber

def yesWords : List String := ["1", "on", "t", "true", "y", "yes"]
def noWords : List String := ["0", "off", "f", "false", "n", "no"]

def flagOfText (s : String) : Checked Bool :=
  let s := s.map Char.toLower
  if s ∈ yesWords then .ok true else if s ∈ noWords then .ok false else .fail .flagSyntax

def flag : Check Bool
  | .bool b => .ok b
  | .int n => if n = 0 then .ok false else if n = 1 then .ok true else .fail .flagSyntax
  | .float x =>
    if x.toRat? = some 0 then .ok false else if x.toRat? = some 1 then .ok true else .fail .notFlag
  | .str s => flagOfText s
  | _ => .fail .notFlag

/-- One of a few texts, spelled exactly. -/
def oneOf (options : List String) : Check String
  | .str s => if s ∈ options then .ok s else .fail (.notAmong options)
  | _ => .fail (.notAmong options)

/-- Null counts as the absence of a value. -/
def nullable (check : Check α) : Check (Option α)
  | .null => .ok none
  | v => (check v).map some

def list (check : Check α) : Check (List α)
  | .arr vs => .items check 0 vs
  | _ => .fail .notList

/-- A list with at least one item, given as its first item and the others. -/
def nonempty (check : Check α) : Check (α × List α)
  | .arr vs => match Checked.items check 0 vs with
    | .ok (a :: as) => .ok (a, as)
    | .ok [] => .fail .emptyList
    | .error ps => .error ps
  | _ => .fail .notList

def map (check : Check α) : Check (List (String × α))
  | .obj ms => .values check ms
  | _ => .fail .notMap

end Check

end BuildIntake.Schema
