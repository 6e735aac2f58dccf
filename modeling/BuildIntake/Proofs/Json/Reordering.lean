import BuildIntake.Json.Basic
import Mathlib.Data.List.Forall2
import Mathlib.Data.List.Nodup

/-!
# Reordered documents

Two documents are the same up to the order of the members of their objects. No object names a key
twice, so the order of its members does not show in what is found under a key.
-/

namespace BuildIntake

/-- Two maps with the same keys in whatever order, and with related values. -/
structure Paired {α β : Type} (R : α → β → Prop) (ms : List (String × α))
    (ns : List (String × β)) : Prop where
  members : ∃ ls, List.Forall₂ (fun m l => m.1 = l.1 ∧ R m.2 l.2) ms ls ∧ ls.Perm ns
  /-- Under a key, both maps hold nothing or related values. -/
  lookup (key : String) : Option.Rel R (ms.lookup key) (ns.lookup key)

theorem lookup_eq_of_perm {α : Type} {ms ns : List (String × α)} (perm : ms.Perm ns)
    (nodup : (ms.map (·.1)).Nodup) (key : String) : ms.lookup key = ns.lookup key := by
  induction perm with
  | nil => rfl
  | cons m _ ih =>
    obtain ⟨k, a⟩ := m
    rw [List.lookup_cons, List.lookup_cons, ih (List.nodup_cons.mp nodup).2]
  | swap m n ls =>
    obtain ⟨k, a⟩ := m
    obtain ⟨l, b⟩ := n
    have different : l ≠ k := by
      rintro rfl
      simp at nodup
    cases hk : key == k <;> cases hl : key == l <;> simp only [List.lookup_cons, hk, hl]
    exact absurd ((eq_of_beq hl).symm.trans (eq_of_beq hk)) different
  | trans first _ ihFirst ihSecond =>
    exact (ihFirst nodup).trans (ihSecond ((first.map _).nodup nodup))

theorem lookup_of_forall₂ {α β : Type} {R : α → β → Prop} {ms : List (String × α)}
    {ls : List (String × β)} (h : List.Forall₂ (fun m l => m.1 = l.1 ∧ R m.2 l.2) ms ls)
    (key : String) : Option.Rel R (ms.lookup key) (ls.lookup key) := by
  induction h with
  | nil => exact .none
  | @cons m l _ _ head _ ih =>
    obtain ⟨k, a⟩ := m
    obtain ⟨_, b⟩ := l
    obtain ⟨rfl, related⟩ := head
    rw [List.lookup_cons, List.lookup_cons]
    cases key == k with
    | true => exact .some related
    | false => exact ih

theorem forall_of_forall₂ {α β : Type} {R : α → β → Prop} {p : β → Prop} {as : List α}
    {bs : List β} (h : List.Forall₂ R as bs) (hp : ∀ a ∈ as, ∀ b, R a b → p b) : ∀ b ∈ bs, p b := by
  induction h with
  | nil => simp
  | cons head _ ih =>
    simp only [List.forall_mem_cons] at hp ⊢
    exact ⟨hp.1 _ head, ih hp.2⟩

theorem keys_eq_of_forall₂ {α β : Type} {R : α → β → Prop} {ms : List (String × α)}
    {ls : List (String × β)} (h : List.Forall₂ (fun m l => m.1 = l.1 ∧ R m.2 l.2) ms ls) :
    ms.map (·.1) = ls.map (·.1) := by
  induction h with
  | nil => rfl
  | cons head _ ih => rw [List.map_cons, List.map_cons, head.1, ih]

theorem eq_of_rel {α : Type} {a b : Option α} (h : Option.Rel Eq a b) : a = b := by
  cases h with
  | some eq => rw [eq]
  | none => rfl

namespace Paired

variable {α β : Type} {R : α → β → Prop} {ms : List (String × α)} {ns : List (String × β)}

theorem of_nodup {ls : List (String × β)}
    (pairs : List.Forall₂ (fun m l => m.1 = l.1 ∧ R m.2 l.2) ms ls) (perm : ls.Perm ns)
    (nodup : (ms.map (·.1)).Nodup) : Paired R ms ns where
  members := ⟨ls, pairs, perm⟩
  lookup key := by
    rw [← lookup_eq_of_perm perm (keys_eq_of_forall₂ pairs ▸ nodup) key]
    exact lookup_of_forall₂ pairs key

theorem refl {R : α → α → Prop} (hR : ∀ a, R a a) (ms : List (String × α)) : Paired R ms ms where
  members := ⟨ms, List.forall₂_same.mpr fun m _ => ⟨rfl, hR m.2⟩, .refl _⟩
  lookup key := by
    cases ms.lookup key with
    | none => exact .none
    | some a => exact .some (hR a)

theorem mono (h : Paired R ms ns) {S : α → β → Prop} (imp : ∀ a b, R a b → S a b) :
    Paired S ms ns where
  members := by
    obtain ⟨ls, pairs, perm⟩ := h.members
    exact ⟨ls, pairs.imp fun _ _ both => ⟨both.1, imp _ _ both.2⟩, perm⟩
  lookup key := by
    have related := h.lookup key
    generalize ms.lookup key = a, ns.lookup key = b at related
    cases related with
    | none => exact .none
    | some related => exact .some (imp _ _ related)

theorem keys_perm (h : Paired R ms ns) : (ms.map (·.1)).Perm (ns.map (·.1)) := by
  obtain ⟨ls, pairs, perm⟩ := h.members
  rw [keys_eq_of_forall₂ pairs]
  exact perm.map _

theorem perm {ms ns : List (String × α)} (h : Paired Eq ms ns) : ms.Perm ns := by
  obtain ⟨ls, pairs, perm⟩ := h.members
  have eq : ms = ls := List.forall₂_eq_eq_eq ▸ pairs.imp fun _ _ both => Prod.ext both.1 both.2
  rw [eq]
  exact perm

theorem lookup_eq {ms ns : List (String × α)} (h : Paired Eq ms ns) (key : String) :
    ms.lookup key = ns.lookup key :=
  eq_of_rel (h.lookup key)

end Paired

namespace Json

def IsAtom : Json → Prop
  | .arr _ | .obj _ => False
  | _ => True

/-- Equality of documents up to the order of the members of objects. -/
inductive Same : Json → Json → Prop where
  | atom {v : Json} : v.IsAtom → Same v v
  | arr {vs ws : List Json} : vs.length = ws.length → (∀ p ∈ vs.zip ws, Same p.1 p.2) →
      Same (.arr vs) (.arr ws)
  | obj {ms ls ns : Members} : ms.length = ls.length → (∀ p ∈ ms.zip ls, p.1.1 = p.2.1) →
      (∀ p ∈ ms.zip ls, Same p.1.2 p.2.2) → ls.Perm ns → Same (.obj ms) (.obj ns)

/-- No object in the document names a key twice. -/
inductive Distinct : Json → Prop where
  | atom {v : Json} : v.IsAtom → Distinct v
  | arr {vs : List Json} : (∀ v ∈ vs, Distinct v) → Distinct (.arr vs)
  | obj {ms : Members} : ms.keys.Nodup → (∀ m ∈ ms, Distinct m.2) → Distinct (.obj ms)

theorem distinct_arr_iff {vs : List Json} : (Json.arr vs).Distinct ↔ ∀ v ∈ vs, v.Distinct :=
  ⟨fun | .arr h => h, .arr⟩

theorem distinct_obj_iff {ms : Members} :
    (Json.obj ms).Distinct ↔ ms.keys.Nodup ∧ ∀ m ∈ ms, m.2.Distinct :=
  ⟨fun | .obj keys h => ⟨keys, h⟩, fun h => .obj h.1 h.2⟩

theorem Same.distinct {v w : Json} (h : Same v w) (hv : v.Distinct) : w.Distinct := by
  induction h with
  | atom atom => exact .atom atom
  | arr length _ ih =>
    rw [distinct_arr_iff] at hv ⊢
    have pairs := List.forall₂_iff_zip.mpr ⟨length, fun {v w} mem => ih (v, w) mem⟩
    exact forall_of_forall₂ pairs fun v hmem w imp => imp (hv v hmem)
  | @obj ms ls ns length keys _ perm ih =>
    rw [distinct_obj_iff] at hv ⊢
    have pairs : List.Forall₂ (fun m l => m.1 = l.1 ∧ (m.2.Distinct → l.2.Distinct)) ms ls :=
      List.forall₂_iff_zip.mpr ⟨length, fun {m l} mem => ⟨keys (m, l) mem, ih (m, l) mem⟩⟩
    have keys_eq := keys_eq_of_forall₂ (R := fun v w : Json => v.Distinct → w.Distinct) pairs
    refine ⟨(perm.map _).nodup (keys_eq ▸ hv.1), fun m hm => ?_⟩
    exact forall_of_forall₂ pairs (fun l hmem _ imp => imp.2 (hv.2 l hmem)) m (perm.mem_iff.mpr hm)

/-- Documents that name no key twice and are the same up to the order of members. -/
structure Alike (v w : Json) : Prop where
  same : Same v w
  left : v.Distinct
  right : w.Distinct

namespace Alike

theorem of_same {v w : Json} (h : Same v w) (hv : v.Distinct) : Alike v w :=
  ⟨h, hv, h.distinct hv⟩

theorem items {vs ws : List Json} (h : Alike (.arr vs) (.arr ws)) : List.Forall₂ Alike vs ws := by
  cases h.same with
  | atom atom => exact atom.elim
  | arr length items =>
    have left := distinct_arr_iff.mp h.left
    refine List.forall₂_iff_zip.mpr ⟨length, fun {v w} mem => ?_⟩
    exact .of_same (items _ mem) (left v (List.of_mem_zip mem).1)

theorem members {ms ns : Members} (h : Alike (.obj ms) (.obj ns)) : Paired Alike ms ns := by
  cases h.same with
  | atom atom => exact atom.elim
  | obj length keys members perm =>
    obtain ⟨nodup, left⟩ := distinct_obj_iff.mp h.left
    refine .of_nodup (List.forall₂_iff_zip.mpr ⟨length, fun {m l} mem => ⟨keys _ mem, ?_⟩⟩) perm nodup
    exact .of_same (members _ mem) (left m (List.of_mem_zip mem).1)

theorem kinds {v w : Json} (h : Alike v w) :
    v = w ∧ v.IsAtom ∨ (∃ vs ws, v = .arr vs ∧ w = .arr ws) ∨
      ∃ ms ns, v = .obj ms ∧ w = .obj ns ∧ Paired Alike ms ns := by
  cases h.same with
  | atom atom => exact .inl ⟨rfl, atom⟩
  | arr => exact .inr (.inl ⟨_, _, rfl, rfl⟩)
  | obj => exact .inr (.inr ⟨_, _, rfl, rfl, h.members⟩)

end Alike

end Json

end BuildIntake
