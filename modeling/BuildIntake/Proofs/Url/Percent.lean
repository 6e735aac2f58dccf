import BuildIntake.Url.Percent
import Mathlib.Data.List.Basic

/-!
# Laws of percent-encoding

Decoding takes back what was encoded, if the percent sign is encoded itself. Encoding brings in
percent signs and hexadecimal digits only, and leaves nothing else of the characters in the set.
-/

namespace BuildIntake.Url

open Json Text

variable {set : EncodeSet}

/-- The characters of a component that need no encoding anywhere: letters, digits and `-._~`. -/
def EncodeSet.component : EncodeSet := fun c => !(c.isAlphanum || "-._~".toList.contains c)

/-! ### Bytes -/

theorem hexValue?_digit : ∀ n < 16, hexValue? (Nat.digitChar n).toUpper = some n := by
  decide

theorem percentByte_eq (b : UInt8) : ∃ h l, percentByte b = ['%', h, l] ∧
    hexValue? h = some (b.toNat / 16) ∧ hexValue? l = some (b.toNat % 16) := by
  have small : b.toNat / 16 < 16 := by
    have := b.toNat_lt
    omega
  refine ⟨_, _, rfl, ?_, ?_⟩
  · rw [Nat.mod_eq_of_lt small]
    exact hexValue?_digit _ small
  · exact hexValue?_digit _ (Nat.mod_lt _ (by decide))

theorem percentDecode_percentByte (b : UInt8) (cs : List Char) :
    percentDecode (percentByte b ++ cs) = b :: percentDecode cs := by
  obtain ⟨h, l, digits, high, low⟩ := percentByte_eq b
  have value : 16 * (b.toNat / 16) + b.toNat % 16 = b.toNat := Nat.div_add_mod _ _
  rw [digits, List.cons_append, List.cons_append, List.singleton_append, percentDecode, high, low]
  dsimp only
  rw [value, UInt8.ofNat_toNat]

theorem percentDecode_bytes (bs : List UInt8) (cs : List Char) :
    percentDecode (bs.flatMap percentByte ++ cs) = bs ++ percentDecode cs := by
  induction bs with
  | nil => rfl
  | cons b bs ih =>
    rw [List.flatMap_cons, List.append_assoc, percentDecode_percentByte, ih, List.cons_append]

theorem percentDecode_of_ne {c : Char} (plain : c ≠ '%') (cs : List Char) :
    percentDecode (c :: cs) = String.utf8EncodeChar c ++ percentDecode cs := by
  rw [percentDecode]
  intro a b r mark
  exact absurd mark plain

/-! ### Texts -/

theorem percentDecode_percentEncode (marked : set '%' = true) (cs : List Char) :
    percentDecode (percentEncode set cs) = Utf8.encode cs := by
  induction cs with
  | nil => rfl
  | cons c cs ih =>
    unfold percentEncode at ih ⊢
    rw [List.flatMap_cons, Utf8.encode, List.flatMap_cons]
    unfold encodeChar at ih ⊢
    by_cases escaped : set c = true
    · rw [if_pos escaped, percentDecode_bytes, ih]
      rfl
    · have plain : c ≠ '%' := by
        rintro rfl
        exact escaped marked
      rw [if_neg escaped, List.singleton_append, percentDecode_of_ne plain, ih]
      rfl

theorem mem_percentEncode {c : Char} {cs : List Char} (h : c ∈ percentEncode set cs) :
    (c ∈ cs ∧ set c = false) ∨ c = '%' ∨ (hexValue? c).isSome := by
  obtain ⟨d, listed, made⟩ := List.mem_flatMap.mp h
  unfold encodeChar at made
  by_cases escaped : set d = true
  · rw [if_pos escaped] at made
    obtain ⟨b, -, digit⟩ := List.mem_flatMap.mp made
    obtain ⟨h, l, digits, high, low⟩ := percentByte_eq b
    rw [digits] at digit
    simp only [List.mem_cons, List.not_mem_nil, or_false] at digit
    rcases digit with rfl | rfl | rfl
    · exact .inr (.inl rfl)
    · exact .inr (.inr (by rw [high]; rfl))
    · exact .inr (.inr (by rw [low]; rfl))
  · rw [if_neg escaped] at made
    obtain rfl := List.mem_singleton.mp made
    exact .inl ⟨listed, eq_false_of_ne_true escaped⟩

theorem not_mem_percentEncode {c : Char} {cs : List Char} (absent : c ∉ cs ∨ set c = true)
    (plain : c ≠ '%') (digit : hexValue? c = none) : c ∉ percentEncode set cs := by
  intro listed
  rcases mem_percentEncode listed with ⟨kept, unescaped⟩ | mark | hex
  · rcases absent with absent | escaped
    · exact absent kept
    · rw [escaped] at unescaped
      cases unescaped
  · exact plain mark
  · rw [digit] at hex
    cases hex

theorem length_encodeChar (set : EncodeSet) (c : Char) :
    (encodeChar set c).length = if set c then 3 * c.utf8Size else 1 := by
  have bytes (bs : List UInt8) : (bs.flatMap percentByte).length = 3 * bs.length := by
    induction bs with
    | nil => rfl
    | cons b bs ih =>
      obtain ⟨h, l, digits, -⟩ := percentByte_eq b
      have three : (percentByte b).length = 3 := by
        rw [digits]
        rfl
      rw [List.flatMap_cons, List.length_append, ih, three, List.length_cons]
      omega
  unfold encodeChar
  by_cases escaped : set c = true
  · rw [if_pos escaped, if_pos escaped, bytes, String.length_utf8EncodeChar]
  · rw [if_neg escaped, if_neg escaped]
    rfl

theorem length_le_percentEncode (set : EncodeSet) (cs : List Char) :
    cs.length ≤ (percentEncode set cs).length := by
  induction cs with
  | nil => exact Nat.zero_le _
  | cons c cs ih =>
    have width := length_encodeChar set c
    have size := c.utf8Size_pos
    unfold percentEncode at ih ⊢
    rw [List.flatMap_cons, List.length_append, List.length_cons, width]
    split <;> omega

/-- A text is encoded as it stands exactly if none of its characters is in the set. -/
theorem percentEncode_eq_self_iff {cs : List Char} :
    percentEncode set cs = cs ↔ ∀ c ∈ cs, set c = false := by
  induction cs with
  | nil => exact iff_of_true rfl nofun
  | cons c cs ih =>
    rw [List.forall_mem_cons, ← ih]
    constructor
    · intro kept
      have long := length_le_percentEncode set cs
      have lengths := congrArg List.length kept
      have size := c.utf8Size_pos
      -- An encoded character is longer than itself, and the rest cannot make up for it.
      have plain : set c = false := by
        by_contra escaped
        unfold percentEncode at long lengths
        rw [List.flatMap_cons, List.length_append, length_encodeChar,
          if_pos (eq_true_of_ne_false escaped), List.length_cons] at lengths
        omega
      refine ⟨plain, ?_⟩
      simpa [percentEncode, encodeChar, plain] using kept
    · rintro ⟨plain, rest⟩
      unfold percentEncode at rest ⊢
      rw [List.flatMap_cons, rest, encodeChar, if_neg (ne_true_of_eq_false plain)]
      rfl

end BuildIntake.Url
