/-!
# UTF-8

Bytes of a text, and the text of bytes. Decoding is a machine that is fed byte by byte; a maximal
piece that does not belong to any character comes out as one gap.
-/

namespace BuildIntake.Text.Utf8

def encode (cs : List Char) : List UInt8 := cs.flatMap String.utf8EncodeChar

/-- What is known of a character whose bytes are not complete. -/
structure Pending where
  /-- How many bytes are still to come; none if no character is under way. -/
  needed : Nat
  /-- The bits gathered so far. -/
  bits : Nat
  /-- The least and the greatest byte that may come next. -/
  least : Nat
  greatest : Nat

namespace Pending

def idle : Pending := ⟨0, 0, 0x80, 0xBF⟩

/-- Starts a character; `none` in the output is a gap. -/
def start (b : Nat) : Pending × List (Option Char) :=
  if b < 0x80 then (idle, [some (Char.ofNat b)])
  else if 0xC2 ≤ b ∧ b ≤ 0xDF then (⟨1, b - 0xC0, 0x80, 0xBF⟩, [])
  else if 0xE0 ≤ b ∧ b ≤ 0xEF then
    (⟨2, b - 0xE0, if b = 0xE0 then 0xA0 else 0x80, if b = 0xED then 0x9F else 0xBF⟩, [])
  else if 0xF0 ≤ b ∧ b ≤ 0xF4 then
    (⟨3, b - 0xF0, if b = 0xF0 then 0x90 else 0x80, if b = 0xF4 then 0x8F else 0xBF⟩, [])
  else (idle, [none])

def step (p : Pending) (b : Nat) : Pending × List (Option Char) :=
  if p.needed = 0 then start b
  else if p.least ≤ b ∧ b ≤ p.greatest then
    let bits := p.bits * 0x40 + b % 0x40
    if p.needed = 1 then (idle, [some (Char.ofNat bits)])
    else (⟨p.needed - 1, bits, 0x80, 0xBF⟩, [])
  else
    let (p, out) := start b
    (p, none :: out)

end Pending

/-- The characters of the bytes, with a `none` for each gap. -/
def pieces (p : Pending) : List UInt8 → List (Option Char)
  | [] => if p.needed = 0 then [] else [none]
  | b :: bs =>
    let (p, out) := p.step b.toNat
    out ++ pieces p bs

/-- The text of the bytes, if they have no gap. -/
def decode? (bs : List UInt8) : Option String :=
  ((pieces .idle bs).mapM id).map String.ofList

def replacement : Char := '\uFFFD'

/-- The text of the bytes, with the replacement character for each gap. -/
def decodeWithReplacement (bs : List UInt8) : List Char :=
  (pieces .idle bs).map (·.getD replacement)

end BuildIntake.Text.Utf8
