import BuildIntake.Proofs.Schema.Likeness

/-!
# Undeclared members

The undeclared members that a reader finds in a value it has read are those that its shape finds in
the document. Reordering a document reorders them.
-/

namespace BuildIntake.Schema

variable {ρ α β : Type}

theorem flatMap_eq_of_forall₂ {γ : Type} {R : α → β → Prop} {as : List α} {bs : List β}
    (h : List.Forall₂ R as bs) {f : α → List γ} {g : β → List γ} (hfg : ∀ a b, R a b → f a = g b) :
    as.flatMap f = bs.flatMap g := by
  induction h with
  | nil => rfl
  | cons head _ ih => rw [List.flatMap_cons, List.flatMap_cons, hfg _ _ head, ih]

namespace Shape

theorem undeclaredFields_concat (path : String) (ms : Json.Members) (f : FieldName) (s : Shape)
    (fields : List (FieldName × Shape)) :
    undeclaredFields path ms (fields ++ [(f, s)]) =
      undeclaredFields path ms fields ++
        (f.find? ms).elim [] fun m => s.undeclared (path ++ f.name ++ ".") m.2 := by
  induction fields with
  | nil =>
    simp only [List.nil_append, undeclaredFields, List.append_nil]
    cases f.find? ms <;> rfl
  | cons field fields ih => simp only [List.cons_append, undeclaredFields, ih, List.append_assoc]

theorem undeclared_null (path : String) (s : Shape) : s.undeclared path .null = [] := by
  cases s <;> simp [undeclared]

end Shape

namespace Reader

/-- What the reader finds undeclared in a value is what its shape finds in the document. -/
def Lawful (r : Reader α) : Prop :=
  ∀ v a, r.read v = .ok a → ∀ path, r.unknown path a = r.shape.undeclared path v

namespace Lawful

variable {r : Reader α} (h : r.Lawful)
include h

theorem nullable : r.nullable.Lawful := by
  intro v a read path
  by_cases null : v = .null
  · subst null
    cases read
    exact (Shape.undeclared_null ..).symm
  · have some : r.nullable.read v = (r.read v).map some := by
      cases v <;> first | rfl | exact absurd rfl null
    rw [some] at read
    cases hv : r.read v with
    | error ps => simp [hv, Except.map] at read
    | ok b =>
      simp only [hv, Except.map, Except.ok.injEq] at read
      subst read
      exact h v b hv path

theorem list : r.list.Lawful := by
  intro v as read path
  cases v with
  | arr vs =>
    simp only [Reader.list, Shape.undeclared]
    exact (flatMap_eq_of_forall₂ (Checked.forall₂_of_items read)
      fun v a item => (h v a item path).symm).symm
  | _ => cases read

theorem map : r.map.Lawful := by
  intro v as read path
  cases v with
  | obj ms =>
    simp only [Reader.map, Shape.undeclared]
    exact (flatMap_eq_of_forall₂ (Checked.forall₂_of_values read)
      fun m a member => (h m.2 a.2 member.2 path).symm).symm
  | _ => cases read

end Lawful

end Reader

namespace Fields

/-- What the fields find undeclared in a record is what their shapes find in the members. The values
read satisfy `P`, and `finish` completes them to records. -/
def Lawful {κ : Type} (fs : Fields ρ α) (P : α → Prop) (finish : α → κ → ρ) : Prop :=
  ∀ ms a, fs.read ms = .ok a → P a ∧
    ∀ k path, fs.unknown path (finish a k) = Shape.undeclaredFields path ms fs.shape

namespace Lawful

variable {κ : Type} {P : α → Prop} {finish : α → κ → ρ}

theorem done {a : α} (h : P a) : (done a : Fields ρ α).Lawful P finish := by
  rintro ms _ ⟨⟩
  exact ⟨h, fun k path => by simp [Fields.done, Shape.undeclaredFields]⟩

theorem value {fs : Fields ρ (β → α)}
    (h : fs.Lawful (fun g => ∀ b, P (g b)) fun g (k : β × κ) => finish (g k.1) k.2)
    {f : FieldName} {check : Check β} {absent : Checked β} :
    (fs.value f check absent).Lawful P finish := by
  intro ms a read
  obtain ⟨g, b, before, -, rfl⟩ := Checked.both_eq_ok_iff.mp read
  obtain ⟨hP, declared⟩ := h ms g before
  refine ⟨hP b, fun k path => ?_⟩
  simp only [Fields.value, Shape.undeclaredFields_concat, declared (b, k) path]
  cases f.find? ms <;> simp [Shape.undeclared]

section

variable {fs : Fields ρ (β → α)} {get : ρ → β}
  (h : fs.Lawful (fun g => ∀ b, P (g b) ∧ ∀ k, get (finish (g b) k) = b)
    fun g (k : β × κ) => finish (g k.1) k.2)
  {f : FieldName} {r : Reader β} (hr : r.Lawful)
include h hr

theorem part {absent : Checked β}
    (habsent : ∀ b, absent = .ok b → ∀ path, r.unknown path b = []) :
    (fs.part f get r absent).Lawful P finish := by
  intro ms a read
  obtain ⟨g, b, before, this, rfl⟩ := Checked.both_eq_ok_iff.mp read
  obtain ⟨hP, declared⟩ := h ms g before
  refine ⟨(hP b).1, fun k path => ?_⟩
  simp only [Fields.part, Shape.undeclaredFields_concat, declared (b, k) path, (hP b).2 k]
  congr 1
  unfold readField at this
  split at this
  case h_1 key v found =>
    rw [found]
    exact hr v b (Checked.within_eq_ok_iff.mp this) _
  case h_2 found =>
    rw [found]
    exact habsent b this _

theorem requiredPart : (fs.requiredPart f get r).Lawful P finish :=
  h.part hr nofun

theorem optionalPart {default : β} (hdefault : ∀ path, r.unknown path default = []) :
    (fs.optionalPart f get r default).Lawful P finish := by
  refine h.part hr ?_
  rintro _ ⟨⟩
  exact hdefault

end

theorem closed {fs : Fields ρ ρ} (h : fs.Lawful (fun _ => True) fun a (_ : Unit) => a)
    {title : String} : (fs.closed title).Lawful := by
  intro v a read path
  cases v with
  | obj ms =>
    have declared := (h ms a read).2 () path
    simpa [Fields.closed, Shape.undeclared] using declared
  | _ => cases read

theorem opened {fs : Fields ρ (Json.Members → ρ)} {extras : ρ → Json.Members}
    (h : fs.Lawful (fun g => ∀ ms, extras (g ms) = ms) fun g ms => g ms)
    {title : String} : (fs.opened title extras).Lawful := by
  intro v a read path
  cases v with
  | obj ms =>
    cases hms : fs.read ms with
    | error ps => simp [Fields.opened, hms, Except.map] at read
    | ok g =>
      simp only [Fields.opened, hms, Except.map, Except.ok.injEq] at read
      subst read
      obtain ⟨kept, declared⟩ := h ms g hms
      simp only [Fields.opened, kept, declared, Shape.undeclared, Fields.names, if_true]
  | _ => cases read

end Lawful

end Fields

/-! ### Reordered documents -/

theorem FieldName.usedKey?_eq {L : Json → Json → Prop} {ms ns : Json.Members} (h : Paired L ms ns)
    (f : FieldName) : f.usedKey? ms = f.usedKey? ns := by
  have found := f.find?_rel h
  unfold usedKey?
  generalize f.find? ms = m, f.find? ns = n at found
  cases found with
  | none => rfl
  | some both => exact congrArg some both.1

theorem keys_undeclaredMembers (fs : List FieldName) (ms : Json.Members) :
    (undeclaredMembers fs ms).keys = ms.keys.filter (· ∉ fs.filterMap (·.usedKey? ms)) := by
  simp only [undeclaredMembers, Json.Members.keys, List.filter_map]
  rfl

theorem keys_undeclaredMembers_perm {L : Json → Json → Prop} {ms ns : Json.Members}
    (h : Paired L ms ns) (fs : List FieldName) :
    (undeclaredMembers fs ms).keys.Perm (undeclaredMembers fs ns).keys := by
  have used : (fs.filterMap (·.usedKey? ms)) = fs.filterMap (·.usedKey? ns) :=
    List.filterMap_congr fun f _ => f.usedKey?_eq h
  rw [keys_undeclaredMembers, keys_undeclaredMembers, used]
  exact h.keys_perm.filter _

namespace Shape

theorem flatMap_perm_of_forall₂ {γ : Type} {R : α → β → Prop} {as : List α} {bs : List β}
    (h : List.Forall₂ R as bs) {f : α → List γ} {g : β → List γ}
    (hfg : ∀ a b, R a b → (f a).Perm (g b)) : (as.flatMap f).Perm (bs.flatMap g) := by
  induction h with
  | nil => exact .nil
  | cons head _ ih => exact (hfg _ _ head).append ih

mutual

theorem undeclared_perm {v w : Json} (h : Json.Alike v w) :
    ∀ (s : Shape) (path : String), (s.undeclared path v).Perm (s.undeclared path w)
  | .leaf, path => by simp [undeclared]
  | .list item, path => by
    rcases h.kinds with ⟨rfl, -⟩ | ⟨vs, ws, rfl, rfl⟩ | ⟨ms, ns, rfl, rfl, -⟩
    · exact .refl _
    · simp only [undeclared]
      exact flatMap_perm_of_forall₂ h.items fun v w like => undeclared_perm like item path
    · simp [undeclared]
  | .map item, path => by
    rcases h.kinds with ⟨rfl, -⟩ | ⟨vs, ws, rfl, rfl⟩ | ⟨ms, ns, rfl, rfl, like⟩
    · exact .refl _
    · simp [undeclared]
    · obtain ⟨ls, pairs, perm⟩ := like.members
      simp only [undeclared]
      refine .trans (flatMap_perm_of_forall₂ pairs fun m l both => ?_) (perm.flatMap_right _)
      exact undeclared_perm both.2 item path
  | .record keeps fields, path => by
    rcases h.kinds with ⟨rfl, -⟩ | ⟨vs, ws, rfl, rfl⟩ | ⟨ms, ns, rfl, rfl, like⟩
    · exact .refl _
    · simp [undeclared]
    · simp only [undeclared]
      refine .append ?_ (undeclaredFields_perm like fields path)
      cases keeps with
      | true => exact (keys_undeclaredMembers_perm like _).map _
      | false => exact .nil

theorem undeclaredFields_perm {ms ns : Json.Members} (h : Paired Json.Alike ms ns) :
    ∀ (fields : List (FieldName × Shape)) (path : String),
      (undeclaredFields path ms fields).Perm (undeclaredFields path ns fields)
  | [], _ => .nil
  | (f, s) :: fields, path => by
    simp only [undeclaredFields]
    refine .append ?_ (undeclaredFields_perm h fields path)
    have found := f.find?_rel h
    generalize f.find? ms = m, f.find? ns = n at found
    cases found with
    | none => exact .nil
    | some both => exact undeclared_perm both.2 s _

end

end Shape

end BuildIntake.Schema
