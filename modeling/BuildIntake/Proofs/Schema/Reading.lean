import BuildIntake.Proofs.Schema.Likeness

/-!
# Readings of like documents

A reader looks at a document only as far as its shape tells. Documents that are alike along the
shape are therefore read alike: both are rejected, or the values read are related. Every way to put
a reader together keeps this.
-/

namespace BuildIntake.Schema

open Relator

variable {L : Json → Json → Prop} {ρ α β : Type} {R : α → α → Prop} {S : β → β → Prop}

namespace Check

/-- Documents that are related by `L` are both rejected, or give values related by `R`. -/
def Respects (check : Check α) (L : Json → Json → Prop) (R : α → α → Prop) : Prop :=
  ∀ v w, L v w → Agree R (check v) (check w)

def Scalar (check : Check α) : Prop :=
  (∀ vs, ∃ ps, check (.arr vs) = .error ps) ∧ ∀ ms, ∃ ps, check (.obj ms) = .error ps

theorem scalar_text : text.Scalar := ⟨fun _ => ⟨_, rfl⟩, fun _ => ⟨_, rfl⟩⟩

theorem scalar_integer : integer.Scalar := ⟨fun _ => ⟨_, rfl⟩, fun _ => ⟨_, rfl⟩⟩

theorem Scalar.nullable {check : Check α} (h : check.Scalar) : check.nullable.Scalar := by
  refine ⟨fun vs => ?_, fun ms => ?_⟩
  · obtain ⟨ps, rejected⟩ := h.1 vs
    exact ⟨ps, by simp [Check.nullable, rejected, Except.map]⟩
  · obtain ⟨ps, rejected⟩ := h.2 ms
    exact ⟨ps, by simp [Check.nullable, rejected, Except.map]⟩

theorem Scalar.respects {check : Check α} (h : check.Scalar) (hL : Likeness L) :
    check.Respects L Eq := by
  intro v w like
  rcases hL v w like with ⟨rfl, -⟩ | ⟨vs, ws, rfl, rfl⟩ | ⟨ms, ns, rfl, rfl, -⟩
  · exact .refl (fun _ => rfl) _
  · obtain ⟨ps, left⟩ := h.1 vs
    obtain ⟨qs, right⟩ := h.1 ws
    rw [left, right]
    exact .error ps qs
  · obtain ⟨ps, left⟩ := h.2 ms
    obtain ⟨qs, right⟩ := h.2 ns
    rw [left, right]
    exact .error ps qs

theorem respects_anything : anything.Respects L L := fun _ _ like => .ok like

namespace Respects

variable {check : Check α}

theorem nullable (h : check.Respects L R) (null_iff : ∀ v w, L v w → (v = .null ↔ w = .null)) :
    check.nullable.Respects L (Option.Rel R) := by
  intro v w like
  by_cases null : v = .null
  · rw [null, (null_iff v w like).mp null]
    exact .ok .none
  · have some (u : Json) (hu : u ≠ .null) : check.nullable u = (check u).map some := by
      cases u <;> first | rfl | exact absurd rfl hu
    rw [some v null, some w (mt (null_iff v w like).mpr null)]
    exact (h v w like).map fun _ _ related => .some related

theorem list (h : check.Respects L R) {M : Json → Json → Prop}
    (cases : ∀ v w, M v w → (∃ vs ws, v = .arr vs ∧ w = .arr ws ∧ List.Forall₂ L vs ws) ∨
      (∀ vs, v ≠ .arr vs) ∧ ∀ ws, w ≠ .arr ws) :
    check.list.Respects M (List.Forall₂ R) := by
  intro v w like
  rcases cases v w like with ⟨vs, ws, rfl, rfl, items⟩ | ⟨left, right⟩
  · exact .items h items 0 0
  · have fail (u : Json) (hu : ∀ vs, u ≠ .arr vs) : check.list u = .fail .notList := by
      cases u <;> first | rfl | exact absurd rfl (hu _)
    rw [fail v left, fail w right]
    exact .error _ _

theorem map (h : check.Respects L R) {M : Json → Json → Prop}
    (cases : ∀ v w, M v w → (∃ ms ns, v = .obj ms ∧ w = .obj ns ∧ Paired L ms ns) ∨
      (∀ ms, v ≠ .obj ms) ∧ ∀ ns, w ≠ .obj ns) :
    check.map.Respects M (Paired R) := by
  intro v w like
  rcases cases v w like with ⟨ms, ns, rfl, rfl, members⟩ | ⟨left, right⟩
  · exact .values h members
  · have fail (u : Json) (hu : ∀ ms, u ≠ .obj ms) : check.map u = .fail .notMap := by
      cases u <;> first | rfl | exact absurd rfl (hu _)
    rw [fail v left, fail w right]
    exact .error _ _

end Respects

end Check

namespace Reader

/-- Documents alike along the shape of the reader are both rejected, or are read as related values. -/
def Respects (r : Reader α) (L : Json → Json → Prop) (R : α → α → Prop) : Prop :=
  r.read.Respects (r.shape.Alike L) R

namespace Respects

variable {r : Reader α} (h : r.Respects L R) (hL : Likeness L)
include h hL

theorem nullable : r.nullable.Respects L (Option.Rel R) :=
  Check.Respects.nullable h fun _ _ like => Shape.alike_null_iff hL like

theorem list : r.list.Respects L (List.Forall₂ R) :=
  Check.Respects.list h fun _ _ like => Shape.alike_list hL like

theorem map : r.map.Respects L (Paired R) :=
  Check.Respects.map h fun _ _ like => Shape.alike_map hL like

end Respects

end Reader

namespace Fields

/-- Records alike along the declared fields are both rejected, or are read as related values. -/
def Respects (fs : Fields ρ α) (L : Json → Json → Prop) (R : α → α → Prop) : Prop :=
  ∀ ms ns, Shape.FieldsAlike L fs.shape ms ns → Agree R (fs.read ms) (fs.read ns)

theorem readField_congr {f : FieldName} {check : Check β} {absent : Checked β}
    {ms ns : Json.Members} (found : f.find? ms = f.find? ns) :
    readField f check absent ms = readField f check absent ns := by
  rw [readField, readField, found]

theorem readField_agree {M : Json → Json → Prop} {f : FieldName} {check : Check β}
    {absent : Checked β} {ms ns : Json.Members}
    (found : Option.Rel (fun m n => M m.2 n.2) (f.find? ms) (f.find? ns))
    (h : check.Respects M S) (habsent : Agree S absent absent) :
    Agree S (readField f check absent ms) (readField f check absent ns) := by
  unfold readField
  generalize f.find? ms = m, f.find? ns = n at found
  cases found with
  | none => exact habsent
  | some like => exact (h _ _ like).within _ _

namespace Respects

theorem done {a : α} (h : R a a) : (done a : Fields ρ α).Respects L R := fun _ _ _ => .ok h

variable {fs : Fields ρ (β → α)} (h : fs.Respects L (S ⇒ R)) {f : FieldName}
include h

section

variable {check : Check β} (hcheck : check.Respects L S)
include hcheck

theorem value {absent : Checked β} (habsent : Agree S absent absent) :
    (fs.value f check absent).Respects L R := by
  intro ms ns like
  obtain ⟨before, found⟩ := Shape.fieldsAlike_concat_iff.mp like
  simp only [Shape.alike_leaf_iff] at found
  exact .both (h ms ns before) (readField_agree found hcheck habsent)

theorem required : (fs.required f check).Respects L R := h.value hcheck (.error _ _)

theorem optional {default : β} (hdefault : S default default) :
    (fs.optional f check default).Respects L R :=
  h.value hcheck (.ok hdefault)

end

variable {r : Reader β} (hr : r.Respects L S) {get : ρ → β}
include hr

theorem part {absent : Checked β} (habsent : Agree S absent absent) :
    (fs.part f get r absent).Respects L R := by
  intro ms ns like
  obtain ⟨before, found⟩ := Shape.fieldsAlike_concat_iff.mp like
  exact .both (h ms ns before) (readField_agree found hr habsent)

theorem requiredPart : (fs.requiredPart f get r).Respects L R := h.part hr (.error _ _)

theorem optionalPart {default : β} (hdefault : S default default) :
    (fs.optionalPart f get r default).Respects L R :=
  h.part hr (.ok hdefault)

end Respects

theorem Respects.optionalText {fs : Fields ρ (Option String → α)} (h : fs.Respects L (Eq ⇒ R))
    (hL : Likeness L) {f : FieldName} : (fs.optionalText f).Respects L R :=
  h.optional (Check.scalar_text.nullable.respects hL) rfl

theorem respects_of_records (hL : Likeness L) {keeps : Bool} {fields : List (FieldName × Shape)}
    {check : Check α}
    (records : ∀ ms ns, Shape.FieldsAlike L fields ms ns →
      Agree R (check (.obj ms)) (check (.obj ns)))
    (others : ∀ v, (∀ ms, v ≠ .obj ms) → ∃ ps, check v = .error ps) :
    check.Respects ((Shape.record keeps fields).Alike L) R := by
  intro v w like
  rcases Shape.alike_record hL like with ⟨ms, ns, rfl, rfl, fields⟩ | ⟨left, right⟩
  · exact records ms ns fields
  · obtain ⟨ps, hv⟩ := others v left
    obtain ⟨qs, hw⟩ := others w right
    rw [hv, hw]
    exact .error ps qs

/-- What a record keeps of its undeclared members is not looked at. -/
theorem Respects.opened {fs : Fields ρ (Json.Members → ρ)} {R : ρ → ρ → Prop}
    (h : fs.Respects L ((fun _ _ => True) ⇒ R)) (hL : Likeness L) {title : String}
    {extras : ρ → Json.Members} : (fs.opened title extras).Respects L R := by
  refine respects_of_records hL (fun ms ns like => ?_) fun v hv => ?_
  · exact (h ms ns like).map fun _ _ related => related trivial
  · cases v with
    | obj ms => exact absurd rfl (hv ms)
    | _ => exact ⟨_, rfl⟩

theorem Respects.closed {fs : Fields α α} (h : fs.Respects L R) (hL : Likeness L) {title : String} :
    (fs.closed title).Respects L R := by
  refine respects_of_records hL h fun v hv => ?_
  cases v with
  | obj ms => exact absurd rfl (hv ms)
  | _ => exact ⟨_, rfl⟩

end Fields

end BuildIntake.Schema
