import BuildIntake.Parameter.Definition
import BuildIntake.Proofs.Text.Trimming

/-!
# Conforming values

Each kind of definition admits contents of one form. Whatever a kind makes of a raw value is admitted
by it, and what it admits are exactly the contents that it makes of themselves again. What a kind
gives where a request gives nothing is admitted too, except that the default of a multiple choice is
not held against the choices.
-/

namespace BuildIntake.Parameter

namespace Kind

/-- The contents that fit a kind. -/
inductive Admits : Kind → Content → Prop where
  | line {default : Option String} {trimmed : Bool} {s : String} :
      (trimmed = true → Text.IsTrimmed s) → Admits (.line default trimmed) (.text s)
  | text {default : Option String} {trimmed : Bool} {s : String} :
      (trimmed = true → Text.IsTrimmed s) → Admits (.text default trimmed) (.text s)
  | flag {default b : Bool} : Admits (.flag default) (.flag b)
  | choice {first : String} {others : List String} {s : String} :
      s ∈ first :: others → Admits (.choice first others) (.text s)
  | multiChoice {first : String} {others default items : List String} :
      (∀ s ∈ items, s ∈ first :: others) → Admits (.multiChoice first others default) (.texts items)

theorem chosen?_eq_some_iff {choices : List String} {vs : List Json} {items : List String} :
    chosen? choices vs = some items ↔ vs = items.map .str ∧ ∀ s ∈ items, s ∈ choices := by
  induction vs generalizing items with
  | nil => cases items <;> simp [chosen?]
  | cons v vs ih =>
    cases v with
    | str s =>
      rw [chosen?]
      split
      case isTrue listed =>
        simp only [Option.map_eq_some_iff, ih]
        constructor
        · rintro ⟨rest, ⟨rfl, all⟩, rfl⟩
          exact ⟨rfl, List.forall_mem_cons.mpr ⟨listed, all⟩⟩
        · rintro ⟨eq, all⟩
          obtain ⟨t, rest, rfl, same, rfl⟩ := List.map_eq_cons_iff.mp eq.symm
          cases same
          exact ⟨rest, ⟨rfl, (List.forall_mem_cons.mp all).2⟩, rfl⟩
      case isFalse unlisted =>
        refine iff_of_false nofun ?_
        rintro ⟨eq, all⟩
        obtain ⟨t, rest, rfl, same, -⟩ := List.map_eq_cons_iff.mp eq.symm
        cases same
        exact unlisted (List.forall_mem_cons.mp all).1
    | _ => cases items <;> simp [chosen?]

theorem trimmed_of_textOf? {trimmed : Bool} {v : Json} {s : String} (h : textOf? trimmed v = some s) :
    trimmed = true → Text.IsTrimmed s := by
  rintro rfl
  unfold textOf? at h
  split at h
  case h_4 =>
    cases h
    exact Text.isTrimmed_trim v.plain
  all_goals cases h

theorem textOf?_str {trimmed : Bool} {s : String} (h : trimmed = true → Text.IsTrimmed s) :
    textOf? trimmed (.str s) = some s := by
  cases trimmed with
  | false => rfl
  | true => exact congrArg some (Text.trim_eq_self_iff.mpr (h rfl))

/-- What a kind makes of a raw value, it admits. -/
theorem admits_of_coerce {k : Kind} {raw : Json} {c : Content} (h : k.coerce raw = some c) :
    k.Admits c := by
  unfold coerce at h
  split at h
  case h_1 | h_2 =>
    obtain ⟨s, made, rfl⟩ := Option.map_eq_some_iff.mp h
    constructor
    exact trimmed_of_textOf? made
  case h_3 | h_4 =>
    cases h
    exact .flag
  case h_6 =>
    split at h
    case isTrue listed =>
      cases h
      exact .choice listed
    case isFalse => cases h
  case h_8 | h_9 =>
    obtain ⟨items, made, rfl⟩ := Option.map_eq_some_iff.mp h
    exact .multiChoice (chosen?_eq_some_iff.mp made).2
  all_goals cases h

/-- A content is admitted exactly if the kind makes it of itself. -/
theorem coerce_toJson_eq_some_iff {k : Kind} {c : Content} :
    k.coerce c.toJson = some c ↔ k.Admits c := by
  constructor
  · exact admits_of_coerce
  · intro h
    cases h with
    | line trimmed | text trimmed =>
      simp only [coerce, Content.toJson, textOf?_str trimmed, Option.map_some]
    | flag => rfl
    | choice listed => exact if_pos listed
    | @multiChoice first others _ items listed =>
      have chosen : chosen? (first :: others) (items.map .str) = some items :=
        chosen?_eq_some_iff.mpr ⟨rfl, listed⟩
      simp only [coerce, Content.toJson, chosen, Option.map_some]

/-- Whether the kind admits what it gives where a request gives nothing. -/
def DefaultFits (k : Kind) : Prop := ∀ c ∈ k.default?, k.Admits c

/-- Only the default of a multiple choice may not fit. -/
theorem defaultFits_of_form {k : Kind} (h : k.form ≠ .multiChoice) : k.DefaultFits := by
  intro c given
  cases k with
  | line default trimmed | text default trimmed =>
    obtain ⟨s, -, made⟩ := Option.bind_eq_some_iff.mp given
    exact admits_of_coerce made
  | flag default =>
    cases given
    exact .flag
  | choice first others =>
    cases given
    exact .choice List.mem_cons_self
  | multiChoice => exact absurd rfl h

theorem defaultFits_iff {k : Kind} :
    k.DefaultFits ↔ ∀ first others default, k = .multiChoice first others default →
      ∀ s ∈ default, s ∈ first :: others := by
  constructor
  · rintro fits first others default rfl
    cases fits _ rfl with
    | multiChoice listed => exact listed
  · intro listed
    by_cases form : k.form = .multiChoice
    · cases k with
      | multiChoice first others default =>
        rintro _ ⟨⟩
        exact .multiChoice (listed first others default rfl)
      | _ => cases form
    · exact defaultFits_of_form form

end Kind

end BuildIntake.Parameter
