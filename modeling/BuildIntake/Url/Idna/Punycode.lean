/-!
# Punycode

A label with characters beyond ASCII is written in letters and digits: first its ASCII characters,
then, in ascending order, where the others are to be inserted. The distances are numbers of
variable length in base 36, whose digit thresholds adapt to what was written before.
-/

namespace BuildIntake.Url.Idna.Punycode

def base : Nat := 36
def leastThreshold : Nat := 1
def greatestThreshold : Nat := 26
def firstCode : Nat := 0x80
def firstBias : Nat := 72

/-- The threshold of the digit of weight position `k`, which counts in steps of the base. -/
def threshold (k bias : Nat) : Nat :=
  max leastThreshold (min greatestThreshold (k - bias))

theorem threshold_pos (k bias : Nat) : 1 ≤ threshold k bias := Nat.le_max_left _ _

theorem threshold_lt (k bias : Nat) : threshold k bias < base := by
  simp only [threshold, leastThreshold, greatestThreshold, base]
  omega

/-- Scales a distance down; gives what is left and the steps of the base that were taken. -/
def scaleDown (delta k : Nat) : Nat × Nat :=
  if 455 < delta then scaleDown (delta / 35) (k + base) else (delta, k)
termination_by delta
decreasing_by exact Nat.div_lt_self (by omega) (by omega)

/-- The bias after a distance, with `count` characters placed. -/
def adapt (delta count : Nat) (first : Bool) : Nat :=
  let delta := if first then delta / 700 else delta / 2
  let (delta, k) := scaleDown (delta + delta / count) 0
  k + base * delta / (delta + 38)

def digitChar (d : Nat) : Char :=
  if d < 26 then Char.ofNat ('a'.toNat + d) else Char.ofNat ('0'.toNat + (d - 26))

def digitValue? (c : Char) : Option Nat :=
  if 'a' ≤ c ∧ c ≤ 'z' then some (c.toNat - 'a'.toNat)
  else if 'A' ≤ c ∧ c ≤ 'Z' then some (c.toNat - 'A'.toNat)
  else if '0' ≤ c ∧ c ≤ '9' then some (c.toNat - '0'.toNat + 26)
  else none

/-- A distance as a number of variable length, from weight position `k` on. -/
def distance (bias k q : Nat) : List Char :=
  let t := threshold k bias
  if q < t then [digitChar q]
  else digitChar (t + (q - t) % (base - t)) :: distance bias (k + base) ((q - t) / (base - t))
termination_by q
decreasing_by
  have := threshold_pos k bias
  calc (q - threshold k bias) / (base - threshold k bias)
      ≤ q - threshold k bias := Nat.div_le_self _ _
    _ < q := by omega

structure Encoder where
  /-- How far the next insertion is from the last one. -/
  delta : Nat
  bias : Nat
  /-- How many characters are placed already. -/
  placed : Nat
  first : Bool

/-- Passes one character of the label while the characters of code `n` are inserted. -/
def Encoder.pass (n : Nat) (e : Encoder) (c : Char) : Encoder × List Char :=
  if c.toNat < n then ({ e with delta := e.delta + 1 }, [])
  else if c.toNat = n then
    (⟨0, adapt e.delta (e.placed + 1) e.first, e.placed + 1, false⟩, distance e.bias base e.delta)
  else (e, [])

def Encoder.passAll (n : Nat) (e : Encoder) : List Char → Encoder × List Char
  | [] => (e, [])
  | c :: cs =>
    let (e, out) := e.pass n c
    let (e, outs) := e.passAll n cs
    (e, out ++ outs)

/-- Inserts the characters of the codes `ns`, the first of which is not less than `n`. -/
def Encoder.insertAll (label : List Char) (n : Nat) (e : Encoder) : List Nat → List Char
  | [] => []
  | m :: ms =>
    let (e, out) :=
      { e with delta := e.delta + (m - n) * (e.placed + 1) : Encoder }.passAll m label
    out ++ { e with delta := e.delta + 1 : Encoder }.insertAll label (m + 1) ms

def encode (label : List Char) : List Char :=
  let ascii := label.filter fun c => c.toNat < firstCode
  let codes := (label.filterMap fun c =>
    if firstCode ≤ c.toNat then some c.toNat else none).eraseDups.mergeSort
  let start : Encoder := ⟨0, firstBias, ascii.length, true⟩
  ascii ++ (if ascii.isEmpty then [] else ['-']) ++ start.insertAll label firstCode codes

structure Decoder where
  chars : List Char
  code : Nat
  place : Nat
  bias : Nat
  /-- The place from which the current distance is counted. -/
  origin : Nat
  weight : Nat
  k : Nat

/-- The character of a code, if it is one. -/
def charOfCode? (n : Nat) : Option Char :=
  if n.isValidChar then some (Char.ofNat n) else none

def Decoder.step (d : Decoder) (c : Char) : Option Decoder := do
  let digit ← digitValue? c
  let place := d.place + digit * d.weight
  let t := threshold d.k d.bias
  if digit < t then
    let count := d.chars.length + 1
    let code := d.code + place / count
    let char ← charOfCode? code
    let place' := place % count
    return ⟨d.chars.take place' ++ char :: d.chars.drop place', code, place' + 1,
      adapt (place - d.origin) count (d.origin = 0), place' + 1, 1, base⟩
  else
    return { d with place, weight := d.weight * (base - t), k := d.k + base }

/-- Decodes what stands behind the mark of an encoded label. -/
def decode? (cs : List Char) : Option (List Char) := do
  let (ascii, digits) :=
    match cs.reverse.dropWhile (· ≠ '-') with
    | [] => ([], cs)
    | _ :: before => (before.reverse, cs.drop (before.length + 1))
  let d ← digits.foldlM Decoder.step ⟨ascii, firstCode, 0, firstBias, 0, 1, base⟩
  if d.k = base then return d.chars else none

end BuildIntake.Url.Idna.Punycode
