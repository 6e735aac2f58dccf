import BuildIntake.Proofs.Agreement
import BuildIntake.Schema.Reader

/-!
# Like documents

Documents can be like each other in many ways: up to the order of members, up to undeclared members,
or up to the spelling of fields. Along a shape, only the parts that the shape declares have to be
like each other. Reordered documents are alike along every shape.
-/

namespace BuildIntake.Schema

/-- Like documents are equal atoms, or of one kind; like objects hold like values under their
keys. -/
def Likeness (L : Json → Json → Prop) : Prop :=
  ∀ v w, L v w → v = w ∧ v.IsAtom ∨ (∃ vs ws, v = .arr vs ∧ w = .arr ws) ∨
    ∃ ms ns, v = .obj ms ∧ w = .obj ns ∧ Paired L ms ns

namespace Likeness

variable {L : Json → Json → Prop} (hL : Likeness L) {v w : Json} (h : L v w)
include hL h

theorem arrays : (∃ vs ws, v = .arr vs ∧ w = .arr ws) ∨ (∀ vs, v ≠ .arr vs) ∧ ∀ ws, w ≠ .arr ws := by
  rcases hL v w h with ⟨rfl, atom⟩ | arrays | ⟨ms, ns, rfl, rfl, -⟩
  · refine .inr ⟨?_, ?_⟩ <;> rintro vs rfl <;> exact atom
  · exact .inl arrays
  · exact .inr ⟨nofun, nofun⟩

theorem objects : (∃ ms ns, v = .obj ms ∧ w = .obj ns ∧ Paired L ms ns) ∨
    (∀ ms, v ≠ .obj ms) ∧ ∀ ns, w ≠ .obj ns := by
  rcases hL v w h with ⟨rfl, atom⟩ | ⟨vs, ws, rfl, rfl⟩ | objects
  · refine .inr ⟨?_, ?_⟩ <;> rintro ms rfl <;> exact atom
  · exact .inr ⟨nofun, nofun⟩
  · exact .inl objects

theorem null_iff : v = .null ↔ w = .null := by
  rcases hL v w h with ⟨rfl, -⟩ | ⟨vs, ws, rfl, rfl⟩ | ⟨ms, ns, rfl, rfl, -⟩ <;> simp

end Likeness

variable {L : Json → Json → Prop}

/-! ### Likeness along a shape -/

theorem FieldName.find?_plain (name : String) (ms : Json.Members) :
    (plain name).find? ms = (ms.lookup name).map (name, ·) := by
  rw [find?, plain]
  cases ms.lookup name <;> rfl

theorem FieldName.find?_rel {ms ns : Json.Members} (h : Paired L ms ns) (f : FieldName) :
    Option.Rel (fun m n => m.1 = n.1 ∧ L m.2 n.2) (f.find? ms) (f.find? ns) := by
  have byKey := h.lookup f.key
  have byName := h.lookup f.name
  unfold find?
  generalize ms.lookup f.key = a, ns.lookup f.key = b at byKey
  cases byKey with
  | some related => exact .some ⟨rfl, related⟩
  | none =>
    generalize ms.lookup f.name = a, ns.lookup f.name = b at byName
    cases byName with
    | some related => exact .some ⟨rfl, related⟩
    | none => exact .none

namespace Shape

mutual

/-- Documents are alike along a shape if their declared parts are; undeclared members of records do
not count. -/
def Alike (L : Json → Json → Prop) : Shape → Json → Json → Prop
  | .list item, .arr vs, .arr ws => List.Forall₂ (item.Alike L) vs ws
  | .map item, .obj ms, .obj ns => Paired (item.Alike L) ms ns
  | .record _ fields, .obj ms, .obj ns => FieldsAlike L fields ms ns
  | _, v, w => L v w

def FieldsAlike (L : Json → Json → Prop) :
    List (FieldName × Shape) → Json.Members → Json.Members → Prop
  | [], _, _ => True
  | (f, shape) :: rest, ms, ns =>
    Option.Rel (fun m n => shape.Alike L m.2 n.2) (f.find? ms) (f.find? ns) ∧
      FieldsAlike L rest ms ns

end

theorem alike_leaf_iff {v w : Json} : leaf.Alike L v w ↔ L v w := by
  simp only [Alike]

theorem fieldsAlike_concat_iff {fields : List (FieldName × Shape)} {f : FieldName} {s : Shape}
    {ms ns : Json.Members} :
    FieldsAlike L (fields ++ [(f, s)]) ms ns ↔
      FieldsAlike L fields ms ns ∧
        Option.Rel (fun m n => s.Alike L m.2 n.2) (f.find? ms) (f.find? ns) := by
  induction fields with
  | nil => simp [FieldsAlike]
  | cons field fields ih => simp [FieldsAlike, ih, and_assoc]

/-- Along the shape of a list, two lists are alike item by item, or no list is involved. -/
theorem alike_list (hL : Likeness L) {item : Shape} {v w : Json} (h : (list item).Alike L v w) :
    (∃ vs ws, v = .arr vs ∧ w = .arr ws ∧ List.Forall₂ (item.Alike L) vs ws) ∨
      (∀ vs, v ≠ .arr vs) ∧ ∀ ws, w ≠ .arr ws := by
  unfold Alike at h
  split at h
  case h_1 vs ws eq =>
    cases eq
    exact .inl ⟨vs, ws, rfl, rfl, h⟩
  case h_4 lists _ _ =>
    refine (hL.arrays h).imp_left ?_
    rintro ⟨vs, ws, rfl, rfl⟩
    exact (lists item vs ws rfl rfl rfl).elim
  all_goals contradiction

/-- Along the shape of a map, two maps are alike key by key, or no map is involved. -/
theorem alike_map (hL : Likeness L) {item : Shape} {v w : Json} (h : (map item).Alike L v w) :
    (∃ ms ns, v = .obj ms ∧ w = .obj ns ∧ Paired (item.Alike L) ms ns) ∨
      (∀ ms, v ≠ .obj ms) ∧ ∀ ns, w ≠ .obj ns := by
  unfold Alike at h
  split at h
  case h_2 ms ns eq =>
    cases eq
    exact .inl ⟨ms, ns, rfl, rfl, h⟩
  case h_4 maps _ =>
    refine (hL.objects h).imp_left ?_
    rintro ⟨ms, ns, rfl, rfl, -⟩
    exact (maps item ms ns rfl rfl rfl).elim
  all_goals contradiction

/-- Along the shape of a record, two records are alike field by field, or no record is involved. -/
theorem alike_record (hL : Likeness L) {keeps : Bool} {fields : List (FieldName × Shape)}
    {v w : Json} (h : (record keeps fields).Alike L v w) :
    (∃ ms ns, v = .obj ms ∧ w = .obj ns ∧ FieldsAlike L fields ms ns) ∨
      (∀ ms, v ≠ .obj ms) ∧ ∀ ns, w ≠ .obj ns := by
  unfold Alike at h
  split at h
  case h_3 ms ns eq =>
    cases eq
    exact .inl ⟨ms, ns, rfl, rfl, h⟩
  case h_4 records =>
    refine (hL.objects h).imp_left ?_
    rintro ⟨ms, ns, rfl, rfl, -⟩
    exact (records keeps fields ms ns rfl rfl rfl).elim
  all_goals contradiction

theorem alike_null_iff (hL : Likeness L) {s : Shape} {v w : Json} (h : s.Alike L v w) :
    v = .null ↔ w = .null := by
  unfold Alike at h
  split at h
  case h_4 => exact hL.null_iff h
  all_goals simp

end Shape

theorem likeness_alike : Likeness Json.Alike := fun _ _ h => h.kinds

namespace Shape

mutual

/-- Reordered documents are alike along every shape. -/
theorem alike_of_reordered {v w : Json} (h : Json.Alike v w) : ∀ s : Shape, s.Alike Json.Alike v w
  | .leaf => alike_leaf_iff.mpr h
  | .list item => by
    rcases likeness_alike.arrays h with ⟨vs, ws, rfl, rfl⟩ | ⟨others, -⟩
    · simp only [Alike]
      exact h.items.imp fun _ _ like => alike_of_reordered like item
    · unfold Alike
      split
      · exact absurd rfl (others _)
      all_goals first | contradiction | exact h
  | .map item => by
    rcases likeness_alike.objects h with ⟨ms, ns, rfl, rfl, -⟩ | ⟨others, -⟩
    · simp only [Alike]
      exact h.members.mono fun _ _ like => alike_of_reordered like item
    · unfold Alike
      split
      case h_2 => exact absurd rfl (others _)
      all_goals first | contradiction | exact h
  | .record _ fields => by
    rcases likeness_alike.objects h with ⟨ms, ns, rfl, rfl, -⟩ | ⟨others, -⟩
    · simp only [Alike]
      exact fieldsAlike_of_reordered h fields
    · unfold Alike
      split
      case h_3 => exact absurd rfl (others _)
      all_goals first | contradiction | exact h

theorem fieldsAlike_of_reordered {ms ns : Json.Members} (h : Json.Alike (.obj ms) (.obj ns)) :
    ∀ fields, FieldsAlike Json.Alike fields ms ns
  | [] => trivial
  | (f, s) :: fields => by
    refine ⟨?_, fieldsAlike_of_reordered h fields⟩
    have found := f.find?_rel h.members
    generalize f.find? ms = m, f.find? ns = n at found
    cases found with
    | none => exact .none
    | some related => exact .some (alike_of_reordered related.2 s)

end

end Shape

end BuildIntake.Schema
