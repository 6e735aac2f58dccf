import BuildIntake.Json.Token

/-!
# Step tables

A property of characters that keeps its value over long ranges is told by the places where it
changes. A table is written in lines of entries parted by blanks; an entry is a code in hexadecimal
digits, a mark, and further codes parted by points.
-/

namespace BuildIntake.Text

/-- From the code `first` on, up to the next entry, characters have the mark. -/
structure Step where
  first : Nat
  mark : Char
  codes : List Nat

abbrev StepTable := List Step

namespace StepTable

def isHexDigit (c : Char) : Bool := c.isDigit || ('A' ≤ c && c ≤ 'F')

def hexNumber (cs : List Char) : Nat :=
  cs.foldl (fun n c => 16 * n + (Json.hexValue? c).getD 0) 0

def entry? (cs : List Char) : Option Step :=
  match cs.dropWhile isHexDigit with
  | [] => none
  | mark :: rest =>
    let codes := if rest.isEmpty then [] else (rest.splitOn '.').map hexNumber
    some ⟨hexNumber (cs.takeWhile isHexDigit), mark, codes⟩

def ofText (s : String) : StepTable := (s.toList.splitOn ' ').filterMap entry?

def ofLines (lines : List String) : StepTable := lines.flatMap ofText

/-- The entry whose range holds the code `n`, with `best` for codes before the first entry. -/
def find (best : Step) (n : Nat) : StepTable → Step
  | [] => best
  | e :: es => if e.first ≤ n then find e n es else best

/-- The mark of a character. -/
def markOf (t : StepTable) (default : Char) (c : Char) : Char :=
  (t.find ⟨0, default, []⟩ c.toNat).mark

end StepTable

end BuildIntake.Text
