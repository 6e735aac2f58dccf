import BuildIntake.Text.Blank
import Mathlib.Data.List.DropRight

/-!
# Trimmed texts

A text is trimmed if it neither begins nor ends with a blank. Trimming gives such a text, and leaves
only such texts as they are.
-/

namespace BuildIntake.Text

def IsTrimmed (s : String) : Prop :=
  (∀ c ∈ s.toList.head?, isBlank c = false) ∧ ∀ c ∈ s.toList.getLast?, isBlank c = false

instance (s : String) : Decidable (IsTrimmed s) := inferInstanceAs (Decidable (_ ∧ _))

variable (p : Char → Bool) (cs : List Char)

theorem trimBy_eq : trimBy p cs = (cs.dropWhile p).rdropWhile p := rfl

variable {p cs}

theorem head?_dropWhile {c : Char} (h : c ∈ (cs.dropWhile p).head?) : p c = false := by
  have head := List.head?_dropWhile_not p cs
  rw [Option.mem_def.mp h] at head
  exact head

theorem getLast?_trimBy {c : Char} (h : c ∈ (trimBy p cs).getLast?) : p c = false := by
  rw [trimBy, List.getLast?_reverse] at h
  exact head?_dropWhile h

theorem head?_trimBy {c : Char} (h : c ∈ (trimBy p cs).head?) : p c = false := by
  rw [trimBy_eq] at h
  obtain ⟨rest, eq⟩ := List.rdropWhile_prefix p (l := cs.dropWhile p)
  have first : c ∈ (cs.dropWhile p).head? := by
    rw [← eq, List.head?_append, Option.mem_def.mp h]
    rfl
  exact head?_dropWhile first

theorem trimBy_eq_self (head : ∀ c ∈ cs.head?, p c = false) (last : ∀ c ∈ cs.getLast?, p c = false) :
    trimBy p cs = cs := by
  have front : cs.dropWhile p = cs := by
    refine List.dropWhile_eq_self_iff.mpr fun nonempty => ?_
    simpa using head cs[0] (by simp [List.head?_eq_getElem?])
  have back : cs.rdropWhile p = cs := by
    refine List.rdropWhile_eq_self_iff.mpr fun nonempty => ?_
    simpa using last (cs.getLast nonempty) (List.getLast?_eq_getLast_of_ne_nil nonempty)
  rw [trimBy_eq, front, back]

theorem isTrimmed_trim (s : String) : IsTrimmed (trim s) := by
  rw [IsTrimmed, trim, String.toList_ofList]
  exact ⟨fun _ => head?_trimBy, fun _ => getLast?_trimBy⟩

theorem trim_eq_self_iff {s : String} : trim s = s ↔ IsTrimmed s := by
  constructor
  · intro same
    exact same ▸ isTrimmed_trim s
  · rintro ⟨head, last⟩
    rw [trim, trimBy_eq_self head last, String.ofList_toList]

end BuildIntake.Text
