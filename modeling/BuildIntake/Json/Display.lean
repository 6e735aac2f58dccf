import BuildIntake.Json.Basic
import BuildIntake.Number.Decimal
import BuildIntake.Text.Quoted

/-!
# Documents on one line

A document as it is shown in messages: quoted texts, the literals `None`, `True` and `False`, and
items parted by a comma and a blank. A text that stands alone can also be shown without its quotes.
Containers are shown by calls that are nested as they are, and only so many calls can be nested; who
shows a document has to see that it takes no more.
-/

namespace BuildIntake.Json

mutual

/-- The document with every text quoted. -/
def display : Json → String
  | .null => "None"
  | .bool b => if b then "True" else "False"
  | .int n => toString n
  | .float x => x.toText
  | .str s => Text.quote s
  | .arr items => "[" ++ ", ".intercalate (displayItems items) ++ "]"
  | .obj members => "\x7b" ++ ", ".intercalate (displayMembers members) ++ "\x7d"

def displayItems : List Json → List String
  | [] => []
  | v :: vs => v.display :: displayItems vs

def displayMembers : List (String × Json) → List String
  | [] => []
  | (key, v) :: ms => (Text.quote key ++ ": " ++ v.display) :: displayMembers ms

end

mutual

/-- How many calls are nested in each other while the document is shown: one for each container that
is open, and one for what stands inside. -/
def calls : Json → Nat
  | .arr items => callsOfItems items + 1
  | .obj members => callsOfMembers members + 1
  | _ => 1

def callsOfItems : List Json → Nat
  | [] => 0
  | v :: vs => max v.calls (callsOfItems vs)

def callsOfMembers : List (String × Json) → Nat
  | [] => 0
  | (_, v) :: ms => max v.calls (callsOfMembers ms)

end

/-- The document as a plain text: a text is itself, all else as `display` shows it. -/
def plain : Json → String
  | .str s => s
  | v => v.display

end BuildIntake.Json
