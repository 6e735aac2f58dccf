import BuildIntake.Proofs.Json.Reordering
import BuildIntake.Schema.Checked
import Mathlib.Logic.Relation

/-!
# Computations that agree

Two computations agree if both fail, or if both give values and these are related. How they fail
does not matter. What is put together from computations that agree agrees again.
-/

namespace BuildIntake

open Schema Relator

namespace Schema.Checked

variable {α β : Type} {check : α → Checked β}

theorem forall₂_of_items {i : Nat} {as : List α} {bs : List β} (h : items check i as = .ok bs) :
    List.Forall₂ (fun a b => check a = .ok b) as bs := by
  induction as generalizing i bs with
  | nil =>
    cases h
    exact .nil
  | cons a as ih =>
    obtain ⟨_, rest, first, read, rfl⟩ := both_eq_ok_iff.mp h
    cases ha : check a with
    | error ps => simp [ha, within, Except.map] at first
    | ok b =>
      simp only [ha, within_ok, Except.map, Except.ok.injEq] at first
      subst first
      exact .cons ha (ih read)

theorem items_eq_ok_iff {i : Nat} {as : List α} {bs : List β} :
    items check i as = .ok bs ↔ List.Forall₂ (fun a b => check a = .ok b) as bs := by
  constructor
  · exact forall₂_of_items
  · intro read
    induction read generalizing i with
    | nil => rfl
    | cons head _ ih => simp [items, head, ih, Except.map, both]

theorem items_congr {γ : Type} {again : γ → Checked β} {as : List α} {cs : List γ}
    (same : List.Forall₂ (fun a c => check a = again c) as cs) (i : Nat) :
    items check i as = items again i cs := by
  induction same generalizing i with
  | nil => rfl
  | cons head _ ih => rw [items, items, head, ih]

theorem forall₂_of_values {ms : List (String × α)} {ns : List (String × β)}
    (h : values check ms = .ok ns) :
    List.Forall₂ (fun m n => m.1 = n.1 ∧ check m.2 = .ok n.2) ms ns := by
  induction ms generalizing ns with
  | nil =>
    cases h
    exact .nil
  | cons m ms ih =>
    obtain ⟨key, a⟩ := m
    obtain ⟨_, rest, first, read, rfl⟩ := both_eq_ok_iff.mp h
    cases ha : check a with
    | error ps => simp [ha, within, Except.map] at first
    | ok b =>
      simp only [ha, within_ok, Except.map, Except.ok.injEq] at first
      subst first
      exact .cons ⟨rfl, ha⟩ (ih read)

end Schema.Checked

inductive Agree {ε δ α β : Type} (R : α → β → Prop) : Except ε α → Except δ β → Prop where
  | ok {a : α} {b : β} : R a b → Agree R (.ok a) (.ok b)
  | error (e : ε) (d : δ) : Agree R (.error e) (.error d)

namespace Agree

variable {ε ε' δ δ' α α' β β' γ : Type} {R : α → β → Prop} {S : α' → β' → Prop}
  {x : Except ε α} {y : Except δ β}

theorem refl {R : α → α → Prop} (hR : ∀ a, R a a) (x : Except ε α) : Agree R x x := by
  cases x with
  | ok a => exact .ok (hR a)
  | error e => exact .error e e

theorem of_ok {a : α} (h : Agree R x y) (hx : x = .ok a) : ∃ b, y = .ok b ∧ R a b := by
  subst hx
  cases h with
  | ok related => exact ⟨_, rfl, related⟩

theorem of_ok_right {b : β} (h : Agree R x y) (hy : y = .ok b) : ∃ a, x = .ok a ∧ R a b := by
  subst hy
  cases h with
  | ok related => exact ⟨_, rfl, related⟩

theorem of_forall (left : ∀ a, x = .ok a → ∃ b, y = .ok b ∧ R a b)
    (right : ∀ b, y = .ok b → ∃ a, x = .ok a) : Agree R x y := by
  cases x with
  | ok a =>
    obtain ⟨b, rfl, related⟩ := left a rfl
    exact .ok related
  | error e =>
    cases y with
    | ok b =>
      obtain ⟨_, eq⟩ := right b rfl
      cases eq
    | error d => exact .error e d

theorem of_error {e : ε} (h : Agree R x y) (hx : x = .error e) : ∃ d, y = .error d := by
  subst hx
  cases h with
  | error _ d => exact ⟨d, rfl⟩

theorem mono {T : α → β → Prop} (h : Agree R x y) (imp : ∀ a b, R a b → T a b) : Agree T x y := by
  cases h with
  | ok related => exact .ok (imp _ _ related)
  | error e d => exact .error e d

theorem map (h : Agree R x y) {f : α → α'} {g : β → β'} (hfg : (R ⇒ S) f g) :
    Agree S (x.map f) (y.map g) := by
  cases h with
  | ok related => exact .ok (hfg related)
  | error e d => exact .error e d

theorem mapError (h : Agree R x y) (f : ε → ε') (g : δ → δ') :
    Agree R (x.mapError f) (y.mapError g) := by
  cases h with
  | ok related => exact .ok related
  | error e d => exact .error (f e) (g d)

theorem bind (h : Agree R x y) {f : α → Except ε α'} {g : β → Except δ β'}
    (hfg : ∀ a b, R a b → Agree S (f a) (g b)) : Agree S (x.bind f) (y.bind g) := by
  cases h with
  | ok related => exact hfg _ _ related
  | error e d => exact .error e d

theorem trans {z : Except ε' γ} {T : β → γ → Prop} (h : Agree R x y) (h' : Agree T y z) :
    Agree (Relation.Comp R T) x z := by
  cases h with
  | ok related =>
    cases h' with
    | ok related' => exact .ok ⟨_, related, related'⟩
  | error e d =>
    cases h' with
    | error _ d' => exact .error e d'

/-! ### Checked values -/

theorem within {x : Checked α} {y : Checked β} (h : Agree R x y) (s t : Step) :
    Agree R (x.within s) (y.within t) := by
  cases h with
  | ok related => exact .ok related
  | error ps qs => exact .error _ _

theorem both {f : Checked (α → α')} {g : Checked (β → β')} {x : Checked α} {y : Checked β}
    (hfg : Agree (R ⇒ S) f g) (h : Agree R x y) : Agree S (Checked.both f x) (Checked.both g y) := by
  cases hfg with
  | ok liftFun =>
    cases h with
    | ok related => exact .ok (liftFun related)
    | error ps qs => exact .error _ _
  | error ps qs => cases h <;> exact .error _ _

section Containers

variable {c : α → Checked α'} {d : β → Checked β'} (hcd : ∀ a b, R a b → Agree S (c a) (d b))

include hcd in
theorem items {as : List α} {bs : List β} (h : List.Forall₂ R as bs) (i j : Nat) :
    Agree (List.Forall₂ S) (Checked.items c i as) (Checked.items d j bs) := by
  induction h generalizing i j with
  | nil => exact .ok .nil
  | cons head _ ih =>
    refine both (map ((hcd _ _ head).within _ _) ?_) (ih (i + 1) (j + 1))
    exact fun _ _ first _ _ rest => .cons first rest

theorem items_of_perm (d : β → Checked β') {bs cs : List β} (h : bs.Perm cs) (i j : Nat) :
    Agree List.Perm (Checked.items d i bs) (Checked.items d j cs) := by
  induction h generalizing i j with
  | nil => exact .ok .nil
  | cons b _ ih =>
    refine both (map ((refl (R := Eq) (fun _ => rfl) (d b)).within _ _) ?_) (ih (i + 1) (j + 1))
    rintro a _ rfl as as' perm
    exact perm.cons a
  | swap b c bs =>
    -- The problems tell the places of the items, so only the values are compared.
    have rest : Agree (List.Forall₂ Eq) (Checked.items d (i + 1 + 1) bs)
        (Checked.items d (j + 1 + 1) bs) := by
      apply items (R := Eq)
      · rintro a _ rfl
        exact refl (fun _ => rfl) _
      · exact List.forall₂_refl bs
    simp only [Checked.items]
    generalize Checked.items d (i + 1 + 1) bs = x, Checked.items d (j + 1 + 1) bs = y at rest
    cases rest with
    | ok same =>
      obtain rfl := List.forall₂_eq_eq_eq ▸ same
      cases d b <;> cases d c <;> first | exact .error _ _ | exact .ok (.swap _ _ _)
    | error ps qs => cases d b <;> cases d c <;> exact .error _ _
  | trans _ _ ihFirst ihSecond =>
    exact ((ihFirst i j).trans (ihSecond j j)).mono fun _ _ ⟨_, first, second⟩ => first.trans second

include hcd in
theorem values_of_forall₂ {ms : List (String × α)} {ls : List (String × β)}
    (h : List.Forall₂ (fun m l => m.1 = l.1 ∧ R m.2 l.2) ms ls) :
    Agree (List.Forall₂ fun m l => m.1 = l.1 ∧ S m.2 l.2) (Checked.values c ms)
      (Checked.values d ls) := by
  induction h with
  | nil => exact .ok .nil
  | cons head _ ih =>
    refine both (map ((hcd _ _ head.2).within _ _) ?_) ih
    exact fun _ _ first _ _ rest => .cons ⟨head.1, first⟩ rest

theorem values_of_perm (d : β → Checked β') {ls ns : List (String × β)} (h : ls.Perm ns) :
    Agree List.Perm (Checked.values d ls) (Checked.values d ns) := by
  induction h with
  | nil => exact .ok (.refl _)
  | cons m _ ih =>
    refine both (map (refl (R := Eq) (fun _ => rfl) _) ?_) ih
    rintro b _ rfl ls ns perm
    exact perm.cons _
  | swap m n ls =>
    simp only [Checked.values]
    cases (d m.2).within (.key m.1) <;> cases (d n.2).within (.key n.1) <;>
      cases Checked.values d ls <;> first | exact .error _ _ | exact .ok (.swap _ _ _)
  | trans _ _ ihFirst ihSecond =>
    exact (ihFirst.trans ihSecond).mono fun _ _ ⟨_, first, second⟩ => first.trans second

include hcd in
/-- Values of maps may be checked in any order. -/
theorem values {ms : List (String × α)} {ns : List (String × β)} (h : Paired R ms ns) :
    Agree (Paired S) (Checked.values c ms) (Checked.values d ns) := by
  obtain ⟨ls, pairs, perm⟩ := h.members
  have agree := (values_of_forall₂ hcd pairs).trans (values_of_perm d perm)
  cases left : Checked.values c ms with
  | error ps =>
    obtain ⟨qs, right⟩ := agree.of_error left
    rw [right]
    exact .error ps qs
  | ok as =>
    obtain ⟨bs, right, members⟩ := agree.of_ok left
    rw [right]
    refine .ok ⟨members, fun key => ?_⟩
    have lookup := h.lookup key
    have leftLookup : Option.Rel (fun v a => c v = .ok a) (ms.lookup key) (as.lookup key) :=
      lookup_of_forall₂ (Checked.forall₂_of_values left) key
    have rightLookup : Option.Rel (fun w b => d w = .ok b) (ns.lookup key) (bs.lookup key) :=
      lookup_of_forall₂ (Checked.forall₂_of_values right) key
    generalize ms.lookup key = v, ns.lookup key = w, as.lookup key = a, bs.lookup key = b at *
    cases lookup with
    | none =>
      cases leftLookup
      cases rightLookup
      exact .none
    | some related =>
      cases leftLookup with
      | some hv =>
        cases rightLookup with
        | some hw =>
          obtain ⟨_, eq, values⟩ := (hcd _ _ related).of_ok hv
          rw [hw] at eq
          cases eq
          exact .some values

end Containers

end Agree

end BuildIntake
