import BuildIntake.Proofs.Schema.Likeness
import Mathlib.Data.List.Pairwise

/-!
# Respelled documents

A document is edited along a shape by adding a key that a record keeps but does not declare, and by
giving a field under its other spelling. Neither shows in what is found under the declared fields.
-/

namespace BuildIntake.Schema

/-- No member of the record gives a field under the key: the key spells none, or it is the name of a
field whose own key is there. -/
def Undeclared (fields : List (FieldName × Shape)) (ms : Json.Members) (key : String) : Prop :=
  ∀ p ∈ fields, key ≠ p.1.key ∧ (key = p.1.name → p.1.key ∈ ms.keys)

instance (fields : List (FieldName × Shape)) (ms : Json.Members) (key : String) :
    Decidable (Undeclared fields ms key) :=
  inferInstanceAs (Decidable (∀ p ∈ fields, _ ∧ (_ → _ ∈ _)))

/-- A single edit of a document, at some place that the shape leads to. -/
inductive Edit : Shape → Json → Json → Prop where
  | add {fields : List (FieldName × Shape)} {ms ns : Json.Members} {key : String} {v : Json} :
      Undeclared fields (ms ++ ns) key →
      Edit (.record true fields) (.obj (ms ++ ns)) (.obj (ms ++ (key, v) :: ns))
  | rename {keeps : Bool} {fields : List (FieldName × Shape)} {f : FieldName} {s : Shape}
      {ms ns : Json.Members} {v : Json} :
      (f, s) ∈ fields → f.key ∉ Json.Members.keys (ms ++ ns) →
      f.name ∉ Json.Members.keys (ms ++ ns) →
      Edit (.record keeps fields) (.obj (ms ++ (f.key, v) :: ns)) (.obj (ms ++ (f.name, v) :: ns))
  | field {keeps : Bool} {fields : List (FieldName × Shape)} {f : FieldName} {s : Shape}
      {ms ns : Json.Members} {key : String} {v w : Json} :
      (f, s) ∈ fields → key = f.key ∨ key = f.name → Edit s v w →
      Edit (.record keeps fields) (.obj (ms ++ (key, v) :: ns)) (.obj (ms ++ (key, w) :: ns))
  | item {s : Shape} {vs ws : List Json} {v w : Json} : Edit s v w →
      Edit (.list s) (.arr (vs ++ v :: ws)) (.arr (vs ++ w :: ws))
  | value {s : Shape} {ms ns : Json.Members} {key : String} {v w : Json} : Edit s v w →
      Edit (.map s) (.obj (ms ++ (key, v) :: ns)) (.obj (ms ++ (key, w) :: ns))

/-! ### Fields apart -/

/-- No spelling of one field is a spelling of the other. -/
def FieldName.Apart (f g : FieldName) : Prop :=
  f.key ≠ g.key ∧ f.key ≠ g.name ∧ f.name ≠ g.key ∧ f.name ≠ g.name

instance (f g : FieldName) : Decidable (f.Apart g) := inferInstanceAs (Decidable (_ ∧ _))

theorem FieldName.Apart.symm {f g : FieldName} (h : f.Apart g) : g.Apart f :=
  ⟨h.1.symm, h.2.2.1.symm, h.2.1.symm, h.2.2.2.symm⟩

namespace Shape

mutual

/-- Whether the fields of every record are apart from each other. -/
def areApart : Shape → Bool
  | .leaf => true
  | .list item => item.areApart
  | .map item => item.areApart
  | .record _ fields =>
    decide (fields.Pairwise fun p q => p.1.Apart q.1) && fieldsAreApart fields

def fieldsAreApart : List (FieldName × Shape) → Bool
  | [] => true
  | (_, s) :: fields => s.areApart && fieldsAreApart fields

end

section

variable {keeps : Bool} {fields : List (FieldName × Shape)} (h : (record keeps fields).areApart = true)
include h

theorem eq_or_apart {p q : FieldName × Shape} (hp : p ∈ fields) (hq : q ∈ fields) :
    p = q ∨ p.1.Apart q.1 := by
  simp only [areApart, Bool.and_eq_true, decide_eq_true_eq] at h
  have : Std.Symm fun p q : FieldName × Shape => p.1.Apart q.1 := ⟨fun _ _ => .symm⟩
  by_cases same : p = q
  · exact .inl same
  · exact .inr (h.1.forall hp hq same)

theorem areApart_of_mem {p : FieldName × Shape} (hp : p ∈ fields) : p.2.areApart = true := by
  simp only [areApart, Bool.and_eq_true] at h
  have parts := h.2
  clear h
  induction fields with
  | nil => cases hp
  | cons q fields ih =>
    simp only [fieldsAreApart, Bool.and_eq_true] at parts
    rcases List.mem_cons.mp hp with rfl | hp
    · exact parts.1
    · exact ih hp parts.2

end

theorem fieldsAlike_of_forall {L : Json → Json → Prop} {fields : List (FieldName × Shape)}
    {ms ns : Json.Members}
    (h : ∀ p ∈ fields, Option.Rel (fun m n => p.2.Alike L m.2 n.2) (p.1.find? ms) (p.1.find? ns)) :
    FieldsAlike L fields ms ns := by
  induction fields with
  | nil => trivial
  | cons p fields ih =>
    rw [List.forall_mem_cons] at h
    exact ⟨h.1, ih h.2⟩

mutual

theorem alike_refl {L : Json → Json → Prop} (hL : ∀ v, L v v) :
    ∀ (s : Shape) (v : Json), s.Alike L v v
  | .leaf, v => alike_leaf_iff.mpr (hL v)
  | .list item, v => by
    cases v with
    | arr vs =>
      simp only [Alike]
      exact List.forall₂_same.mpr fun v _ => alike_refl hL item v
    | _ => exact hL _
  | .map item, v => by
    cases v with
    | obj ms =>
      simp only [Alike]
      exact Paired.refl (alike_refl hL item) ms
    | _ => exact hL _
  | .record _ fields, v => by
    cases v with
    | obj ms =>
      simp only [Alike]
      exact fieldsAlike_refl hL fields ms
    | _ => exact hL _

theorem fieldsAlike_refl {L : Json → Json → Prop} (hL : ∀ v, L v v) :
    ∀ (fields : List (FieldName × Shape)) (ms : Json.Members), FieldsAlike L fields ms ms
  | [], _ => trivial
  | (f, s) :: fields, ms => by
    refine ⟨?_, fieldsAlike_refl hL fields ms⟩
    cases f.find? ms with
    | none => exact .none
    | some m => exact .some (alike_refl hL s m.2)

end

end Shape

/-! ### What is found in an edited record -/

theorem lookup_insert_of_ne {ms ns : Json.Members} {key k : String} (other : key ≠ k) (v : Json) :
    (ms ++ (k, v) :: ns).lookup key = (ms ++ ns).lookup key := by
  rw [List.lookup_append, List.lookup_append, List.lookup_cons, beq_eq_false_iff_ne.mpr other]

theorem isSome_lookup_iff {ms : Json.Members} {key : String} :
    (ms.lookup key).isSome ↔ key ∈ ms.keys := by
  rw [List.lookup_isSome_iff, Json.Members.keys, List.mem_map]
  exact exists_congr fun m => and_congr_right fun _ => beq_iff_eq.trans eq_comm

theorem lookup_insert_self {ms ns : Json.Members} {key : String}
    (h : key ∉ Json.Members.keys (ms ++ ns)) (v : Json) :
    (ms ++ (key, v) :: ns).lookup key = some v := by
  have unseen : ms.lookup key = none := by
    rw [← Option.not_isSome_iff_eq_none, isSome_lookup_iff]
    intro hm
    exact h (by simpa [Json.Members.keys] using .inl (by simpa [Json.Members.keys] using hm))
  rw [List.lookup_append, unseen, List.lookup_cons_self]
  rfl

theorem paired_replace {R : Json → Json → Prop} (hR : ∀ v, R v v) {v w : Json} (h : R v w)
    (ms ns : Json.Members) (key : String) :
    Paired R (ms ++ (key, v) :: ns) (ms ++ (key, w) :: ns) := by
  have same (ls : Json.Members) : List.Forall₂ (fun m l => m.1 = l.1 ∧ R m.2 l.2) ls ls :=
    List.forall₂_same.mpr fun m _ => ⟨rfl, hR m.2⟩
  have head : (key, v).1 = (key, w).1 ∧ R (key, v).2 (key, w).2 := ⟨rfl, h⟩
  have pairs := List.rel_append (same ms) (.cons head (same ns))
  exact ⟨⟨_, pairs, .refl _⟩, lookup_of_forall₂ pairs⟩

namespace FieldName

variable {f : FieldName} {ms ns : Json.Members}

/-- The name of a field does not count beside its key. -/
theorem find?_insert {k : String} (key : k ≠ f.key)
    (name : k = f.name → f.key ∈ Json.Members.keys (ms ++ ns)) (v : Json) :
    f.find? (ms ++ (k, v) :: ns) = f.find? (ms ++ ns) := by
  rw [find?, find?, lookup_insert_of_ne key.symm]
  by_cases spelled : k = f.name
  · obtain ⟨u, found⟩ := Option.isSome_iff_exists.mp (isSome_lookup_iff.mpr (name spelled))
    rw [found]
  · rw [lookup_insert_of_ne (Ne.symm spelled)]

theorem find?_insert_of_ne {k : String} (key : k ≠ f.key) (name : k ≠ f.name) (v : Json) :
    f.find? (ms ++ (k, v) :: ns) = f.find? (ms ++ ns) :=
  find?_insert key (fun spelled => absurd spelled name) v

theorem find?_insert_key (h : f.key ∉ Json.Members.keys (ms ++ ns)) (v : Json) :
    f.find? (ms ++ (f.key, v) :: ns) = some (f.key, v) := by
  rw [find?, lookup_insert_self h]

theorem find?_insert_only_name (key : f.key ∉ Json.Members.keys (ms ++ ns))
    (name : f.name ∉ Json.Members.keys (ms ++ ns)) (v : Json) :
    ∃ k, f.find? (ms ++ (f.name, v) :: ns) = some (k, v) := by
  by_cases plain : f.key = f.name
  · exact ⟨f.key, plain ▸ find?_insert_key key v⟩
  · have unseen : (ms ++ ns).lookup f.key = none := by
      rw [← Option.not_isSome_iff_eq_none, isSome_lookup_iff]
      exact key
    refine ⟨f.name, ?_⟩
    rw [find?, lookup_insert_of_ne plain, unseen, lookup_insert_self name]
    rfl

end FieldName

namespace Edit

/-- An edited document is like the one before along the shape. -/
theorem alike {L : Json → Json → Prop} (hL : ∀ v, L v v) {s : Shape} {v w : Json}
    (h : Edit s v w) (apart : s.areApart = true) : s.Alike L v w := by
  have refl {s : Shape} (m : Option (String × Json)) :
      Option.Rel (fun m n => s.Alike L m.2 n.2) m m := by
    cases m with
    | none => exact .none
    | some m => exact .some (s.alike_refl hL m.2)
  induction h with
  | add undeclared =>
    simp only [Shape.Alike]
    refine Shape.fieldsAlike_of_forall fun p hp => ?_
    rw [FieldName.find?_insert (undeclared p hp).1 (undeclared p hp).2]
    exact refl _
  | rename declared key name =>
    simp only [Shape.Alike]
    refine Shape.fieldsAlike_of_forall fun p hp => ?_
    rcases Shape.eq_or_apart apart declared hp with rfl | other
    · obtain ⟨k, found⟩ := FieldName.find?_insert_only_name key name _
      rw [FieldName.find?_insert_key key, found]
      exact .some (Shape.alike_refl hL _ _)
    · rw [FieldName.find?_insert_of_ne other.1 other.2.1,
        FieldName.find?_insert_of_ne other.2.2.1 other.2.2.2]
      exact refl _
  | @field _ fields f s ms ns key v w declared spelled _ ih =>
    simp only [Shape.Alike]
    refine Shape.fieldsAlike_of_forall fun p hp => ?_
    rcases Shape.eq_or_apart apart declared hp with rfl | other
    · have inner := ih (Shape.areApart_of_mem apart declared)
      have found := f.find?_rel (paired_replace (s.alike_refl hL) inner ms ns key)
      generalize f.find? (ms ++ (key, v) :: ns) = m, f.find? (ms ++ (key, w) :: ns) = n at found
      cases found with
      | none => exact .none
      | some both => exact .some both.2
    · have unspelled : key ≠ p.1.key ∧ key ≠ p.1.name := by
        rcases spelled with rfl | rfl
        · exact ⟨other.1, other.2.1⟩
        · exact ⟨other.2.2.1, other.2.2.2⟩
      rw [FieldName.find?_insert_of_ne unspelled.1 unspelled.2,
        FieldName.find?_insert_of_ne unspelled.1 unspelled.2]
      exact refl _
  | @item s vs ws v w _ ih =>
    have same (us : List Json) : List.Forall₂ (s.Alike L) us us :=
      List.forall₂_same.mpr fun v _ => s.alike_refl hL v
    simp only [Shape.Alike]
    exact List.rel_append (same vs) (.cons (ih apart) (same ws))
  | @value s ms ns key v w _ ih =>
    simp only [Shape.Alike]
    exact paired_replace (s.alike_refl hL) (ih apart) ms ns key

/-- Where a record forgets what it does not declare, nothing else is edited in it. -/
theorem lookup_eq {fields : List (FieldName × Shape)} {ms ns : Json.Members}
    (h : Edit (.record false fields) (.obj ms) (.obj ns)) {key : String}
    (other : ∀ p ∈ fields, key ≠ p.1.key ∧ key ≠ p.1.name) : ms.lookup key = ns.lookup key := by
  cases h with
  | rename declared _ _ =>
    rw [lookup_insert_of_ne (other _ declared).1, lookup_insert_of_ne (other _ declared).2]
  | @field _ _ f _ _ _ k v w declared spelled _ =>
    have unspelled : key ≠ k := by
      rcases spelled with rfl | rfl
      · exact (other _ declared).1
      · exact (other _ declared).2
    rw [lookup_insert_of_ne unspelled, lookup_insert_of_ne unspelled]

end Edit

end BuildIntake.Schema
