import BuildIntake.Text.Utf8
import BuildIntake.Json.Token
import BuildIntake.Text.Quoted

/-!
# Percent-encoding

A byte is written as a percent sign and two hexadecimal digits. Each part of a URL has its own set
of characters that have to be written so; controls and all that is not ASCII are in every set.
-/

namespace BuildIntake.Url

abbrev EncodeSet := Char → Bool

namespace EncodeSet

def controls : EncodeSet := fun c => c.toNat < 0x20 || 0x7F ≤ c.toNat

/-- The controls and the characters listed. -/
def withChars (s : String) : EncodeSet := fun c => controls c || s.toList.contains c

def fragment : EncodeSet := withChars " \"<>`"
def query : EncodeSet := withChars " \"#<>"
def specialQuery : EncodeSet := withChars " \"#<>'"
def path : EncodeSet := withChars " \"#<>?`\x7b\x7d"
def userinfo : EncodeSet := withChars " \"#<>?`\x7b\x7d/:;=@[\\]^|"

end EncodeSet

def percentByte (b : UInt8) : List Char :=
  '%' :: (Text.hex 2 b.toNat).map Char.toUpper

def encodeChar (set : EncodeSet) (c : Char) : List Char :=
  if set c then (String.utf8EncodeChar c).flatMap percentByte else [c]

def percentEncode (set : EncodeSet) (cs : List Char) : List Char :=
  cs.flatMap (encodeChar set)

/-- The bytes that a text stands for; a percent sign without two digits stands for itself. -/
def percentDecode : List Char → List UInt8
  | '%' :: a :: b :: r =>
    match Json.hexValue? a, Json.hexValue? b with
    | some h, some l => UInt8.ofNat (16 * h + l) :: percentDecode r
    | _, _ => 37 :: percentDecode (a :: b :: r)
  | c :: r => String.utf8EncodeChar c ++ percentDecode r
  | [] => []

end BuildIntake.Url
