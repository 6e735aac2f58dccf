import BuildIntake.Json.Basic
import BuildIntake.Number.Numeral

/-!
# JSON tokens

The lexical half of reading JSON. A dialect says how lenient the reading is; every dialect takes
the number words `NaN`, `Infinity` and `-Infinity`. Texts are rows of Unicode characters throughout,
so documents with half of a surrogate pair in a text are beyond what is described here: they are not
read, whatever the dialect.
-/

namespace BuildIntake.Json

structure Dialect where
  /-- Control characters other than NUL may stand unescaped in a text. -/
  rawControls : Bool
  /-- Numbers may begin with superfluous zeros and leave out the digits on one side of the point. -/
  looseNumbers : Bool
  /-- How deep containers that are not empty may be nested. -/
  depth : Nat

inductive Token where
  | openArray | closeArray | openObject | closeObject | comma | colon
  | atom (v : Json)

def hexValue? (c : Char) : Option Nat :=
  if '0' ≤ c ∧ c ≤ '9' then some (c.toNat - '0'.toNat)
  else if 'a' ≤ c ∧ c ≤ 'f' then some (c.toNat - 'a'.toNat + 10)
  else if 'A' ≤ c ∧ c ≤ 'F' then some (c.toNat - 'A'.toNat + 10)
  else none

def hex4? (a b c d : Char) : Option Nat := do
  let a ← hexValue? a
  let b ← hexValue? b
  let c ← hexValue? c
  let d ← hexValue? d
  return ((a * 16 + b) * 16 + c) * 16 + d

/-- The character that an escape of one letter stands for. -/
def shortEscape? : Char → Option Char
  | '"' => some '"'
  | '\\' => some '\\'
  | '/' => some '/'
  | 'b' => some '\x08'
  | 'f' => some '\x0c'
  | 'n' => some '\n'
  | 'r' => some '\r'
  | 't' => some '\t'
  | _ => none

def isHighSurrogate (n : Nat) : Bool := 0xD800 ≤ n && n < 0xDC00

def isLowSurrogate (n : Nat) : Bool := 0xDC00 ≤ n && n < 0xE000

/-- Reads a text from behind its opening mark; `acc` holds what was read, the last first. Two escapes
that stand for a surrogate pair are one character; half of a pair is none, and is not read. -/
def lexText (d : Dialect) (acc : List Char) : List Char → Option (String × List Char)
  | [] => none
  | '"' :: r => some (String.ofList acc.reverse, r)
  | '\\' :: 'u' :: a :: b :: c :: e :: r =>
    match hex4? a b c e with
    | none => none
    | some high =>
      if isHighSurrogate high then
        match r with
        | '\\' :: 'u' :: a' :: b' :: c' :: e' :: r' =>
          match hex4? a' b' c' e' with
          | none => none
          | some low =>
            if isLowSurrogate low then
              let n := 0x10000 + (high - 0xD800) * 0x400 + (low - 0xDC00)
              lexText d (Char.ofNat n :: acc) r'
            else none
        | _ => none
      else if isLowSurrogate high then none
      else lexText d (Char.ofNat high :: acc) r
  | '\\' :: c :: r =>
    match shortEscape? c with
    | none => none
    | some c => lexText d (c :: acc) r
  | c :: r =>
    if c = '\\' ∨ c = '\x00' then none
    else if c < ' ' ∧ ¬ d.rawControls then none
    else lexText d (c :: acc) r

/-- The parts of a written number. -/
structure Numeral where
  negative : Bool
  whole : List Char
  /-- The digits behind the point, if there is one. -/
  fraction : Option (List Char)
  /-- The sign and the digits of the exponent, if there is one. -/
  exponent : Option (Bool × List Char)

def digitsValue (cs : List Char) : Nat :=
  cs.foldl (fun n c => 10 * n + (c.toNat - '0'.toNat)) 0

/-- The number denoted: whole as long as it has neither point nor exponent. -/
def Numeral.value (n : Numeral) : Json :=
  match n.fraction, n.exponent with
  | none, none =>
    let v := digitsValue n.whole
    .int (if n.negative then -(v : Int) else v)
  | fraction, exponent =>
    let fraction := fraction.getD []
    let e : Int := match exponent with
      | none => 0
      | some (negative, ds) => if negative then -(digitsValue ds : Int) else digitsValue ds
    .float (Number.Decimal.round n.negative ⟨digitsValue (n.whole ++ fraction), e - fraction.length⟩)

/-- Whether the number can be taken. A whole number of more digits than allowed is taken only if it
fits into 64 bits. -/
def Numeral.isTaken (n : Numeral) : Bool :=
  n.fraction.isSome || n.exponent.isSome || n.whole.length ≤ Number.greatestLength ||
    digitsValue n.whole < 0x10000000000000000

def lexFraction (d : Dialect) (whole : List Char) :
    List Char → Option (List Char) × List Char
  | '.' :: r =>
    let ds := r.takeWhile Char.isDigit
    if ds.isEmpty ∧ ¬ (d.looseNumbers ∧ ¬ whole.isEmpty) then (none, '.' :: r)
    else (some ds, r.dropWhile Char.isDigit)
  | r => (none, r)

def lexExponent : List Char → Option (Bool × List Char) × List Char
  | c :: r =>
    if c = 'e' ∨ c = 'E' then
      let (negative, r') := match r with
        | '-' :: r' => (true, r')
        | '+' :: r' => (false, r')
        | r' => (false, r')
      let ds := r'.takeWhile Char.isDigit
      if ds.isEmpty then (none, c :: r) else (some (negative, ds), r'.dropWhile Char.isDigit)
    else (none, c :: r)
  | [] => (none, [])

/-- Reads a number from behind its sign. -/
def lexNumber (d : Dialect) (negative : Bool) (cs : List Char) : Option (Json × List Char) :=
  let ds := cs.takeWhile Char.isDigit
  let whole := if d.looseNumbers then ds else match ds with
    | '0' :: _ => ['0']
    | ds => ds
  let (fraction, r) := lexFraction d whole (cs.drop whole.length)
  if whole.isEmpty ∧ (fraction.isNone ∨ ¬ d.looseNumbers) then none
  else
    let (exponent, r) := lexExponent r
    let n : Numeral := ⟨negative, whole, fraction, exponent⟩
    if n.isTaken then some (n.value, r) else none

/-- What is left of `cs` behind the word `w`. -/
def dropWord? (w : String) (cs : List Char) : Option (List Char) :=
  if w.toList.isPrefixOf cs then some (cs.drop w.length) else none

/-- Reads one token that starts with `c` and is continued by `r`. -/
def lexToken (d : Dialect) (c : Char) (r : List Char) : Option (Token × List Char) :=
  match c with
  | '[' => some (.openArray, r)
  | ']' => some (.closeArray, r)
  | '\x7b' => some (.openObject, r)
  | '\x7d' => some (.closeObject, r)
  | ',' => some (.comma, r)
  | ':' => some (.colon, r)
  | '"' => (lexText d [] r).map fun (s, r) => (.atom (.str s), r)
  | 't' => (dropWord? "rue" r).map fun r => (.atom (.bool true), r)
  | 'f' => (dropWord? "alse" r).map fun r => (.atom (.bool false), r)
  | 'n' => (dropWord? "ull" r).map fun r => (.atom .null, r)
  | 'N' => (dropWord? "aN" r).map fun r => (.atom (.float .nan), r)
  | 'I' => (dropWord? "nfinity" r).map fun r => (.atom (.float (.infinite false)), r)
  | '-' =>
    match dropWord? "Infinity" r with
    | some r => some (.atom (.float (.infinite true)), r)
    | none => (lexNumber d true r).map fun (v, r) => (.atom v, r)
  | c => if c.isDigit then (lexNumber d false (c :: r)).map fun (v, r) => (.atom v, r) else none

def isJsonBlank (c : Char) : Bool :=
  c = ' ' || c = '\t' || c = '\n' || c = '\r'

/-- The tokens of a text. Each token takes at least one character, so `fuel` as long as the text is
never used up. -/
def lexAll (d : Dialect) : (fuel : Nat) → List Char → Option (List Token)
  | _, [] => some []
  | 0, _ => none
  | fuel + 1, c :: r =>
    if isJsonBlank c then lexAll d fuel r
    else match lexToken d c r with
      | none => none
      | some (t, r) => (lexAll d fuel r).map (t :: ·)

def tokens (d : Dialect) (s : String) : Option (List Token) :=
  let cs := s.toList
  lexAll d cs.length cs

end BuildIntake.Json
