/-!
# Blank characters

White space as running text knows it, and what is left of a text when the blanks at its ends are
dropped. Nothing inside the text is touched.
-/

namespace BuildIntake.Text

/-- The characters that carry the property `White_Space`. -/
def isWhite (c : Char) : Bool :=
  ('\t' ≤ c && c ≤ '\r') || c = ' ' || c = '\x85' || c = '\xa0' || c = '\u1680' ||
    ('\u2000' ≤ c && c ≤ '\u200a') || c = '\u2028' || c = '\u2029' || c = '\u202f' ||
    c = '\u205f' || c = '\u3000'

/-- White space, and the four information separators, which part words as blanks do. -/
def isBlank (c : Char) : Bool :=
  isWhite c || ('\x1c' ≤ c && c ≤ '\x1f')

theorem isBlank_of_isWhite {c : Char} (h : isWhite c) : isBlank c := by
  simp [isBlank, h]

/-- Drops the longest runs of `p` at both ends. -/
def trimBy (p : Char → Bool) (cs : List Char) : List Char :=
  ((cs.dropWhile p).reverse.dropWhile p).reverse

@[simp] theorem trimBy_nil (p : Char → Bool) : trimBy p [] = [] := rfl

def trim (s : String) : String :=
  String.ofList (trimBy isBlank s.toList)

end BuildIntake.Text
