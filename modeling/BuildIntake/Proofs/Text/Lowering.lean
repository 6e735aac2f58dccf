import BuildIntake.Text.Lowering
import Mathlib.Data.List.Basic

/-!
# Small letters of words in ASCII

Of the characters beyond ASCII only the Kelvin sign has an ASCII letter for its small form, and the
small form of the dotted capital i holds another character as well. A word of other letters of ASCII
is therefore the small form of a text exactly if only the letters of ASCII have to become small.
-/

namespace BuildIntake.Text

theorem toNat_ofNat {n : Nat} (valid : n.isValidChar) : (Char.ofNat n).toNat = n := by
  rw [Char.ofNat, dif_pos valid]
  rfl

theorem toLower_of_beyond {c : Char} (beyond : 0x80 ≤ c.toNat) : c.toLower = c := by
  unfold Char.toLower
  rw [dif_neg]
  rintro ⟨-, most⟩
  have : c.toNat ≤ 0x5A := UInt32.le_iff_toNat_le.mp most
  omega

/-! ### Single letters -/

theorem small_of_ascii {c : Char} (ascii : c.toNat < 0x80) : small c = c.toLower := by
  have all : ∀ n < 0x80, small (Char.ofNat n) = (Char.ofNat n).toLower := by decide +kernel
  have same := all c.toNat ascii
  rwa [Char.ofNat_toNat] at same

/-- The run has its small letters beyond ASCII. -/
def CaseRun.StaysBeyond (r : CaseRun) : Prop :=
  0x80 ≤ r.first + r.shift ∧
    (r.last + r.shift < 0xD800 ∨ 0xDFFF < r.first + r.shift ∧ r.last + r.shift < 0x110000)

instance (r : CaseRun) : Decidable r.StaysBeyond := inferInstanceAs (Decidable (_ ∧ _))

theorem caseRuns_cases : ∀ r ∈ caseRuns,
    r.last < 0x80 ∨ r.StaysBeyond ∨ r.first = 0x212A ∧ r.last = 0x212A ∧ r.shift = -0x20BF := by
  decide +kernel

theorem small_of_beyond {c : Char} (beyond : 0x80 ≤ c.toNat) :
    0x80 ≤ (small c).toNat ∨ small c = 'k' := by
  unfold small
  cases found : caseRuns.find? fun r => r.holds c.toNat with
  | none => exact .inl beyond
  | some r =>
    have listed := List.mem_of_find?_eq_some found
    have holds := List.find?_some found
    simp only [CaseRun.holds, Bool.and_eq_true, decide_eq_true_eq] at holds
    obtain ⟨⟨least, most⟩, -⟩ := holds
    dsimp only
    rcases caseRuns_cases r listed with ascii | ⟨above, bound⟩ | ⟨first, last, shift⟩
    · omega
    · left
      have valid : (c.toNat + r.shift).toNat.isValidChar := by
        unfold Nat.isValidChar
        omega
      rw [toNat_ofNat valid]
      omega
    · right
      rw [show c.toNat = 0x212A by omega, shift]
      rfl

/-! ### Words -/

theorem lowerAt_of_ascii {c : Char} (ascii : c.toNat < 0x80) (before after : List Char) :
    lowerAt before c after = [c.toLower] := by
  unfold lowerAt
  rw [if_neg, if_neg, small_of_ascii ascii]
  · rintro rfl
    exact absurd ascii (by decide)
  · rintro rfl
    exact absurd ascii (by decide)

theorem lowerAt_of_beyond {c : Char} (beyond : 0x80 ≤ c.toNat) (before after : List Char) :
    ∃ d ∈ lowerAt before c after, 0x80 ≤ d.toNat ∨ d = 'k' := by
  unfold lowerAt
  split
  · split
    · exact ⟨_, List.mem_singleton_self _, .inl (by decide)⟩
    · exact ⟨_, List.mem_singleton_self _, .inl (by decide)⟩
  · split
    · exact ⟨'\u0307', by decide, .inl (by decide)⟩
    · exact ⟨small c, List.mem_singleton_self _, small_of_beyond beyond⟩

theorem lowerFrom_of_ascii {cs : List Char} (ascii : ∀ c ∈ cs, c.toNat < 0x80)
    (before : List Char) : lowerFrom before cs = cs.map Char.toLower := by
  induction cs generalizing before with
  | nil => rfl
  | cons c cs ih =>
    rw [lowerFrom, lowerAt_of_ascii (ascii c List.mem_cons_self),
      ih fun d listed => ascii d (List.mem_cons_of_mem _ listed)]
    rfl

theorem mem_lowerFrom {cs : List Char} {c : Char} (listed : c ∈ cs) (before : List Char) :
    ∃ before' after, ∀ d ∈ lowerAt before' c after, d ∈ lowerFrom before cs := by
  induction cs generalizing before with
  | nil => cases listed
  | cons e cs ih =>
    rcases List.mem_cons.mp listed with rfl | behind
    · exact ⟨before, cs, fun d small => List.mem_append_left _ small⟩
    · obtain ⟨before', after, within⟩ := ih behind (e :: before)
      exact ⟨before', after, fun d small => List.mem_append_right _ (within d small)⟩

/-- The word has no letters but those of ASCII, and no k among them. -/
def IsPlainWord (word : String) : Prop := ∀ c ∈ word.toList, c.toNat < 0x80 ∧ c ≠ 'k'

instance (word : String) : Decidable (IsPlainWord word) :=
  List.decidableBAll (fun c : Char => c.toNat < 0x80 ∧ c ≠ 'k') word.toList

/-- To be such a word in small letters is to be the word up to the case of the letters of ASCII. -/
theorem lower_eq_iff {s word : String} (plain : IsPlainWord word) :
    lower s = word ↔ s.toLower = word := by
  have chars : s.toLower.toList = s.toList.map Char.toLower := String.toList_map
  have chars' : (lower s).toList = lowerFrom [] s.toList := String.toList_ofList
  have same (ascii : ∀ c ∈ s.toList, c.toNat < 0x80) : lower s = s.toLower := by
    rw [← String.toList_inj, chars, chars', lowerFrom_of_ascii ascii]
  constructor
  · intro small
    rw [← same, small]
    intro c listed
    by_contra beyond
    obtain ⟨before, after, within⟩ := mem_lowerFrom listed []
    obtain ⟨d, holds, outside⟩ := lowerAt_of_beyond (Nat.not_lt.mp beyond) before after
    have letter : d ∈ word.toList := by
      rw [← small, chars']
      exact within d holds
    obtain ⟨ascii, other⟩ := plain d letter
    exact outside.elim (Nat.not_le.mpr ascii) other
  · intro small
    rw [same, small]
    intro c listed
    by_contra beyond
    have letter : c ∈ word.toList := by
      rw [← small, chars, List.mem_map]
      exact ⟨c, listed, toLower_of_beyond (Nat.not_lt.mp beyond)⟩
    exact beyond (plain c letter).1

end BuildIntake.Text
