import BuildIntake.Proofs.Json.Reordering
import Mathlib.Data.List.Perm.Basic

/-!
# Faithful encodings

An encoding into documents is faithful to a relation if it takes related values, and no others, to
the same document up to the order of members. The encodings of lists and of maps are as faithful as
those of their parts.
-/

namespace BuildIntake.Json

/-! ### Same documents -/

@[simp] theorem isAtom_null : null.IsAtom := trivial
@[simp] theorem isAtom_bool (b : Bool) : (bool b).IsAtom := trivial
@[simp] theorem isAtom_int (n : Int) : (int n).IsAtom := trivial
@[simp] theorem isAtom_float (x : Number.Extended) : (float x).IsAtom := trivial
@[simp] theorem isAtom_str (s : String) : (str s).IsAtom := trivial

theorem Same.eq_of_isAtom {v w : Json} (same : Same v w) (atom : v.IsAtom ∨ w.IsAtom) : v = w := by
  cases same with
  | atom => rfl
  | arr => cases atom <;> contradiction
  | obj => cases atom <;> contradiction

@[simp] theorem IsAtom.same_iff {v w : Json} (atom : v.IsAtom) : Same v w ↔ v = w := by
  constructor
  · intro same
    exact same.eq_of_isAtom (.inl atom)
  · rintro rfl
    exact .atom atom

@[simp] theorem IsAtom.same_iff_right {v w : Json} (atom : w.IsAtom) : Same v w ↔ v = w := by
  constructor
  · intro same
    exact same.eq_of_isAtom (.inr atom)
  · rintro rfl
    exact .atom atom

@[simp] theorem same_arr_iff {vs ws : List Json} :
    Same (.arr vs) (.arr ws) ↔ List.Forall₂ Same vs ws := by
  rw [List.forall₂_iff_zip]
  constructor
  · intro same
    cases same with
    | atom atom => exact atom.elim
    | arr length items => exact ⟨length, fun mem => items _ mem⟩
  · rintro ⟨length, items⟩
    exact .arr length fun p mem => items mem

theorem same_obj_iff {ms ns : Members} :
    Same (.obj ms) (.obj ns) ↔
      ∃ ls, List.Forall₂ (fun m l => m.1 = l.1 ∧ Same m.2 l.2) ms ls ∧ ls.Perm ns := by
  simp only [List.forall₂_iff_zip]
  constructor
  · intro same
    cases same with
    | atom atom => exact atom.elim
    | obj length keys values perm =>
      exact ⟨_, ⟨length, fun mem => ⟨keys _ mem, values _ mem⟩⟩, perm⟩
  · rintro ⟨ls, ⟨length, members⟩, perm⟩
    exact .obj length (fun p mem => (members mem).1) (fun p mem => (members mem).2) perm

/-- A permutation that leaves the keys in their places leaves everything where it is, if no key
occurs twice. -/
theorem eq_of_perm_of_keys {α : Type} {ls ns : List (String × α)} (perm : ls.Perm ns)
    (keys : ls.map (·.1) = ns.map (·.1)) (nodup : (ls.map (·.1)).Nodup) : ls = ns := by
  induction ls generalizing ns with
  | nil => exact (List.nil_perm.mp perm).symm
  | cons l ls ih =>
    cases ns with
    | nil => simp at keys
    | cons n ns =>
      simp only [List.map_cons, List.cons.injEq, List.nodup_cons] at keys nodup
      have first : l = n := by
        have member : l ∈ n :: ns := perm.mem_iff.mp List.mem_cons_self
        obtain same | later := List.mem_cons.mp member
        · exact same
        · apply absurd _ nodup.1
          rw [keys.2]
          exact List.mem_map_of_mem later
      subst first
      rw [ih (List.perm_cons l |>.mp perm) keys.2 nodup.2]

/-- Objects with the same keys in the same order are compared member by member. -/
theorem same_obj_iff_of_keys {ms ns : Members} (keys : ms.keys = ns.keys)
    (nodup : ms.keys.Nodup) :
    Same (.obj ms) (.obj ns) ↔ List.Forall₂ Same (ms.map (·.2)) (ns.map (·.2)) := by
  rw [same_obj_iff, List.forall₂_map_left_iff, List.forall₂_map_right_iff]
  constructor
  · rintro ⟨ls, pairs, perm⟩
    have own : ms.keys = ls.map (·.1) := keys_eq_of_forall₂ pairs
    obtain rfl := eq_of_perm_of_keys perm (own.symm.trans keys) (own ▸ nodup)
    exact pairs.imp fun _ _ both => both.2
  · intro values
    refine ⟨ns, ?_, .refl _⟩
    induction values with
    | nil => exact .nil
    | cons value _ ih =>
      simp only [Members.keys, List.map_cons, List.cons.injEq, List.nodup_cons] at keys nodup
      exact .cons ⟨keys.1, value⟩ (ih keys.2 nodup.2)

theorem lookup_of_same {ms ns : Members} (same : Same (.obj ms) (.obj ns)) (nodup : ms.keys.Nodup)
    (key : String) : Option.Rel Same (ms.lookup key) (ns.lookup key) := by
  obtain ⟨ls, pairs, perm⟩ := same_obj_iff.mp same
  exact (Paired.of_nodup pairs perm nodup).lookup key

/-! ### Encodings -/

/-- Encoded values are the same documents exactly if the relation holds between them. -/
def Faithful {α : Type} (encode : α → Json) (R : α → α → Prop) : Prop :=
  ∀ a b, Same (encode a) (encode b) ↔ R a b

namespace Faithful

variable {α : Type} {encode : α → Json} {R : α → α → Prop}

theorem list (h : Faithful encode R) :
    Faithful (fun as : List α => .arr (as.map encode)) (List.Forall₂ R) := by
  intro as bs
  simp only [same_arr_iff, List.forall₂_map_left_iff, List.forall₂_map_right_iff]
  constructor
  · intro items
    exact items.imp fun a b => (h a b).mp
  · intro items
    exact items.imp fun a b => (h a b).mpr

theorem list_eq (h : Faithful encode Eq) :
    Faithful (fun as : List α => .arr (as.map encode)) Eq := by
  intro as bs
  rw [h.list, List.forall₂_eq_eq_eq]

end Faithful

theorem faithful_str : Faithful .str Eq := by
  intro s t
  simp

/-- The order of a map does not show in its encoding. -/
theorem faithful_texts :
    Faithful (fun ms : List (String × String) => .obj (ms.map fun m => (m.1, .str m.2)))
      List.Perm := by
  intro ms ns
  have injective : Function.Injective fun m : String × String => (m.1, Json.str m.2) := by
    intro m n same
    simpa [Prod.ext_iff] using same
  have eq_iff (ls : Members) :
      List.Forall₂ (fun m l => m.1 = l.1 ∧ Same m.2 l.2) (ms.map fun m => (m.1, .str m.2)) ls ↔
        (ms.map fun m => (m.1, .str m.2)) = ls := by
    rw [← List.forall₂_eq_eq_eq, List.forall₂_map_left_iff, List.forall₂_map_left_iff]
    simp [Prod.ext_iff]
  rw [same_obj_iff]
  simp only [eq_iff, exists_eq_left']
  exact List.map_perm_map_iff injective

end BuildIntake.Json
