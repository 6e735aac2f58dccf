import BuildIntake.Proofs.Schema.Respelling
import BuildIntake.Proofs.Schema.Undeclared

/-!
# Surplus keys

The keys that a record does not take can be told from the document alone, by walking it along the
shape: at each record the keys that spell none of its fields, and the names of fields whose own keys
are there too; then what is surplus in the values that the fields take. Where the fields of every
record are apart from each other, these are the undeclared keys.
-/

namespace BuildIntake.Schema

/-- The record takes nothing from the key: no field is spelled so, or it is the name of a field whose
own, different key is there too. -/
def Surplus (fields : List (FieldName × Shape)) (ms : Json.Members) (key : String) : Prop :=
  (∀ p ∈ fields, key ≠ p.1.key ∧ key ≠ p.1.name) ∨
    ∃ p ∈ fields, key = p.1.name ∧ p.1.key ≠ p.1.name ∧ p.1.key ∈ ms.keys

instance (fields : List (FieldName × Shape)) (ms : Json.Members) (key : String) :
    Decidable (Surplus fields ms key) :=
  inferInstanceAs (Decidable (_ ∨ _))

/-- The value that a record takes for a field: that under its key, or else that under its name. -/
def FieldName.accepted? (f : FieldName) (ms : Json.Members) : Option Json :=
  (ms.lookup f.key).or (ms.lookup f.name)

namespace Shape

mutual

/-- The paths of the surplus keys of a document, those of a record before those of its parts. -/
def surplus (path : String) : Shape → Json → List String
  | .list item, .arr vs => vs.flatMap (item.surplus path)
  | .map item, .obj ms => ms.flatMap fun m => item.surplus path m.2
  | .record keepsExtras fields, .obj ms =>
    (if keepsExtras then ((Json.Members.keys ms).filter (Surplus fields ms)).map (path ++ ·)
      else []) ++ surplusFields path ms fields
  | _, _ => []

def surplusFields (path : String) (ms : Json.Members) : List (FieldName × Shape) → List String
  | [] => []
  | (f, shape) :: rest =>
    (f.accepted? ms).elim [] (shape.surplus (path ++ f.name ++ ".")) ++ surplusFields path ms rest

end

end Shape

/-! ### Keys of a record -/

theorem FieldName.accepted?_eq (f : FieldName) (ms : Json.Members) :
    f.accepted? ms = (f.find? ms).map (·.2) := by
  unfold accepted? find?
  cases ms.lookup f.key with
  | some v => rfl
  | none => cases ms.lookup f.name <;> rfl

theorem FieldName.usedKey?_eq_some_iff {f : FieldName} {ms : Json.Members} {key : String} :
    f.usedKey? ms = some key ↔
      key ∈ ms.keys ∧ (key = f.key ∨ key = f.name ∧ f.key ∉ ms.keys) := by
  unfold usedKey? find?
  cases byKey : ms.lookup f.key with
  | some v =>
    have present : f.key ∈ ms.keys := isSome_lookup_iff.mp (by rw [byKey]; rfl)
    simp only [Option.map_some, Option.some.injEq, present, not_true_eq_false, and_false, or_false]
    constructor
    · rintro rfl
      exact ⟨present, rfl⟩
    · rintro ⟨-, rfl⟩
      rfl
  | none =>
    have absent : f.key ∉ ms.keys := mt isSome_lookup_iff.mpr (by simp [byKey])
    simp only [Option.map_map, Option.map_eq_some_iff, Function.comp, absent, not_false_eq_true,
      and_true]
    constructor
    · rintro ⟨v, byName, rfl⟩
      exact ⟨isSome_lookup_iff.mp (by rw [byName]; rfl), .inr rfl⟩
    · rintro ⟨present, rfl | rfl⟩
      · exact absurd present absent
      · obtain ⟨v, byName⟩ := Option.isSome_iff_exists.mp (isSome_lookup_iff.mpr present)
        exact ⟨v, byName, rfl⟩

/-- The keys that no field uses are those that are undeclared. -/
theorem not_mem_used_iff {fields : List (FieldName × Shape)} {ms : Json.Members} {key : String}
    (present : key ∈ ms.keys) :
    key ∉ (fields.map (·.1)).filterMap (·.usedKey? ms) ↔ Undeclared fields ms key := by
  simp only [List.mem_filterMap, List.mem_map, FieldName.usedKey?_eq_some_iff, Undeclared]
  grind

theorem surplus_iff_undeclared {keeps : Bool} {fields : List (FieldName × Shape)}
    (apart : (Shape.record keeps fields).areApart = true) {ms : Json.Members} {key : String} :
    Surplus fields ms key ↔ Undeclared fields ms key := by
  constructor
  · rintro (unspelled | ⟨p, declared, rfl, different, present⟩) q hq
    · exact ⟨(unspelled q hq).1, fun spelled => absurd spelled (unspelled q hq).2⟩
    · rcases Shape.eq_or_apart apart declared hq with rfl | other
      · exact ⟨Ne.symm different, fun _ => present⟩
      · exact ⟨other.2.2.1, fun spelled => absurd spelled other.2.2.2⟩
  · intro undeclared
    by_cases spelled : ∃ p ∈ fields, key = p.1.name
    · obtain ⟨p, declared, rfl⟩ := spelled
      obtain ⟨different, present⟩ := undeclared p declared
      exact .inr ⟨p, declared, rfl, Ne.symm different, present rfl⟩
    · exact .inl fun p declared =>
        ⟨(undeclared p declared).1, fun name => spelled ⟨p, declared, name⟩⟩

/-! ### Whole documents -/

namespace Shape

theorem keys_surplus {keeps : Bool} {fields : List (FieldName × Shape)}
    (apart : (record keeps fields).areApart = true) (ms : Json.Members) :
    ms.keys.filter (Surplus fields ms) = (undeclaredMembers (fields.map (·.1)) ms).keys := by
  rw [keys_undeclaredMembers]
  refine List.filter_congr fun key present => ?_
  exact decide_eq_decide.mpr ((surplus_iff_undeclared apart).trans (not_mem_used_iff present).symm)

mutual

/-- What is surplus in a document is what is undeclared in it. -/
theorem surplus_eq : ∀ (s : Shape), s.areApart = true → ∀ (path : String) (v : Json),
    s.surplus path v = s.undeclared path v
  | .leaf, _, path, v => by simp only [surplus, undeclared]
  | .list item, apart, path, v => by
    simp only [areApart] at apart
    cases v with
    | arr vs => simp only [surplus, undeclared, funext (surplus_eq item apart path)]
    | _ => simp only [surplus, undeclared]
  | .map item, apart, path, v => by
    simp only [areApart] at apart
    cases v with
    | obj ms => simp only [surplus, undeclared, surplus_eq item apart path]
    | _ => simp only [surplus, undeclared]
  | .record keeps fields, apart, path, v => by
    cases v with
    | obj ms =>
      have parts : fieldsAreApart fields = true := by
        simp only [areApart, Bool.and_eq_true] at apart
        exact apart.2
      simp only [surplus, undeclared, keys_surplus apart, surplusFields_eq fields parts path ms]
    | _ => simp only [surplus, undeclared]

theorem surplusFields_eq : ∀ (fields : List (FieldName × Shape)), fieldsAreApart fields = true →
    ∀ (path : String) (ms : Json.Members),
      surplusFields path ms fields = undeclaredFields path ms fields
  | [], _, _, _ => by simp only [surplusFields, undeclaredFields]
  | (f, s) :: fields, apart, path, ms => by
    simp only [fieldsAreApart, Bool.and_eq_true] at apart
    simp only [surplusFields, undeclaredFields, surplusFields_eq fields apart.2 path ms,
      FieldName.accepted?_eq]
    cases f.find? ms with
    | none => rfl
    | some m => simp only [Option.map_some, Option.elim_some, surplus_eq s apart.1]

end

end Shape

end BuildIntake.Schema
