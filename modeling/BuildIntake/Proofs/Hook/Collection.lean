import BuildIntake.Hook.Decoding
import Mathlib.Data.List.Infix

/-!
# Collections of repositories

The URI of a collection is cut out of the URL of a repository at the first mark of the interface.
The mark has a slash at both of its ends, and the slash it begins with belongs to the collection.
There is none in between, so that no mark can begin inside of the collection and end behind it.
-/

namespace BuildIntake.Hook

/-! ### First marks -/

section Marks

variable {mark cs before : List Char} {d : Char} {inner : List Char}

theorem before?_eq_none_iff : before? mark cs = none ↔ ¬ mark <:+: cs := by
  induction cs with
  | nil =>
    rw [List.infix_nil, ← List.isEmpty_iff, before?]
    cases mark.isEmpty <;> simp
  | cons c cs ih =>
    rw [List.infix_cons_iff, ← List.isPrefixOf_iff_prefix, before?]
    by_cases starts : mark.isPrefixOf (c :: cs)
    · simp [starts]
    · simp [starts, ih]

/-- What ends with its only `d` and begins a text goes no further than to the first `d` in it. -/
theorem prefix_of_inside {rest : List Char} (inside : d ∉ inner)
    (starts : inner ++ [d] <+: before ++ [d] ++ rest) : inner ++ [d] <+: before ++ [d] := by
  have upTo : before ++ [d] <+: before ++ [d] ++ rest := List.prefix_append _ _
  obtain within | beyond := List.prefix_or_prefix_of_prefix starts upTo
  · exact within
  · -- A text that reaches further would have the first `d` inside of `inner`.
    rw [List.prefix_concat_iff] at beyond
    obtain eq | shorter := beyond
    · rw [eq]
    · exact absurd (shorter.subset (List.mem_append_right _ List.mem_cons_self)) inside

/-- A mark is the first one, if there is none in the text up to and with the `d` that it begins
with. -/
theorem before?_of_not_infix (inside : d ∉ inner) (rest : List Char)
    (unmarked : ¬ d :: (inner ++ [d]) <:+: before ++ [d]) :
    before? (d :: (inner ++ [d])) (before ++ [d] ++ (inner ++ [d] ++ rest)) = some before := by
  induction before with
  | nil =>
    have starts : d :: (inner ++ [d]) <+: d :: (inner ++ [d] ++ rest) := ⟨rest, rfl⟩
    exact if_pos (List.isPrefixOf_iff_prefix.mpr starts)
  | cons c before ih =>
    rw [List.cons_append, List.infix_cons_iff, not_or] at unmarked
    rw [List.cons_append, List.cons_append, before?, if_neg, ih unmarked.2]
    · rfl
    · -- A mark that began here could not reach over the `d` behind `before`.
      rw [List.isPrefixOf_iff_prefix, List.cons_prefix_cons]
      rintro ⟨rfl, starts⟩
      exact unmarked.1 (List.cons_prefix_cons.mpr ⟨rfl, prefix_of_inside inside starts⟩)

theorem before?_eq_some_iff (inside : d ∉ inner) :
    before? (d :: (inner ++ [d])) cs = some before ↔
      ¬ d :: (inner ++ [d]) <:+: before ++ [d] ∧
        ∃ rest, cs = before ++ [d] ++ (inner ++ [d] ++ rest) := by
  constructor
  · intro found
    induction cs generalizing before with
    | nil => cases found
    | cons c cs ih =>
      rw [before?] at found
      split at found
      case isTrue starts =>
        cases found
        obtain ⟨rest, eq⟩ := List.isPrefixOf_iff_prefix.mp starts
        refine ⟨fun reaches => ?_, rest, eq.symm⟩
        have shorter := reaches.length_le
        simp at shorter
      case isFalse starts =>
        obtain ⟨before, behind, rfl⟩ := Option.map_eq_some_iff.mp found
        obtain ⟨unmarked, rest, rfl⟩ := ih behind
        refine ⟨?_, rest, rfl⟩
        rw [List.cons_append, List.infix_cons_iff, not_or]
        refine ⟨fun begins => starts ?_, unmarked⟩
        exact List.isPrefixOf_iff_prefix.mpr
          (begins.trans (List.prefix_append (c :: (before ++ [d])) _))
  · rintro ⟨unmarked, rest, rfl⟩
    exact before?_of_not_infix inside rest unmarked

end Marks

/-! ### Collections -/

/-- The text can lead to a collection: it ends with a slash, and has no mark in it. -/
structure IsCollection (c : String) : Prop where
  slash : ['/'] <:+ c.toList
  unmarked : ¬ "/_apis/".toList <:+: c.toList

theorem collectionOfUrl?_eq_some_iff {url c : String} :
    collectionOfUrl? url = some c ↔ IsCollection c ∧ ∃ rest, url = c ++ "_apis/" ++ rest := by
  have inside : '/' ∉ "_apis".toList := by decide
  have cut {before : List Char} := @before?_eq_some_iff url.toList before '/' _ inside
  rw [collectionOfUrl?, Option.map_eq_some_iff]
  constructor
  · rintro ⟨before, found, rfl⟩
    obtain ⟨unmarked, rest, made⟩ := cut.mp found
    have chars : (String.ofList (before ++ ['/'])).toList = before ++ ['/'] := String.toList_ofList
    refine ⟨⟨⟨before, chars.symm⟩, ?_⟩, String.ofList rest, ?_⟩
    · rw [chars]
      exact unmarked
    · rw [← String.toList_inj, made, String.toList_append, String.toList_append, chars,
        List.append_assoc (before ++ ['/'])]
      exact congrArg _ (congrArg _ String.toList_ofList.symm)
  · rintro ⟨⟨⟨before, slash⟩, unmarked⟩, rest, made⟩
    refine ⟨before, cut.mpr ⟨slash ▸ unmarked, rest.toList, ?_⟩, ?_⟩
    · rw [made, String.toList_append, String.toList_append, ← slash,
        List.append_assoc (before ++ ['/'])]
      rfl
    · rw [slash, String.ofList_toList]

theorem collectionOfUrl?_eq_none_iff {url : String} :
    collectionOfUrl? url = none ↔ ¬ "/_apis/".toList <:+: url.toList := by
  rw [collectionOfUrl?, Option.map_eq_none_iff, before?_eq_none_iff]
  exact Iff.rfl

/-- The containers of the event leave it to the repository where its collection is. -/
def Event.LeavesCollection (e : Event) : Prop :=
  ∀ container, e.containers.lookup "collection" = some container →
    ∀ url, container.baseUrl = some url → url = ""

theorem collectionUri_of_leaves {e : Event} (leaves : e.LeavesCollection) (r : Repository) :
    collectionUri e r = collectionUri.ofRepository r := by
  unfold collectionUri
  split
  case h_1 url told =>
    obtain ⟨container, listed, based⟩ := Option.bind_eq_some_iff.mp told
    rw [if_pos (leaves container listed url based)]
  case h_2 => rfl

theorem ofRepository_eq_ok_iff {r : Repository} {c : String} :
    collectionUri.ofRepository r = .ok c ↔
      ∃ url, r.url = some url ∧ collectionOfUrl? url = some c := by
  rw [collectionUri.ofRepository]
  cases r.url with
  | none => simp
  | some url =>
    cases found : collectionOfUrl? url <;> simp [found]

theorem ofRepository_eq_error_iff {r : Repository} {fault : Fault} :
    collectionUri.ofRepository r = .error fault ↔
      r.url = none ∧ fault = .noCollection ∨
      ∃ url, r.url = some url ∧ collectionOfUrl? url = none ∧ fault = .noCollectionIn url := by
  rw [collectionUri.ofRepository]
  cases r.url with
  | none => simp [eq_comm]
  | some url =>
    cases found : collectionOfUrl? url <;> simp [found, eq_comm]

/-- Where a collection is undoes how the URL of a repository is made from it. Only a URL that is not
made this way has none. -/
theorem collectionUri_iff {e : Event} (leaves : e.LeavesCollection) (r : Repository) :
    (∀ c, collectionUri e r = .ok c ↔
      IsCollection c ∧ ∃ rest, r.url = some (c ++ "_apis/" ++ rest)) ∧
    (∀ fault, collectionUri e r = .error fault ↔
      r.url = none ∧ fault = .noCollection ∨
      ∃ url, r.url = some url ∧ ¬ "/_apis/".toList <:+: url.toList ∧
        fault = .noCollectionIn url) := by
  rw [collectionUri_of_leaves leaves]
  constructor
  · intro c
    simp only [ofRepository_eq_ok_iff, collectionOfUrl?_eq_some_iff]
    constructor
    · rintro ⟨_, given, collection, rest, rfl⟩
      exact ⟨collection, rest, given⟩
    · rintro ⟨collection, rest, given⟩
      exact ⟨_, given, collection, rest, rfl⟩
  · intro fault
    simp only [ofRepository_eq_error_iff, collectionOfUrl?_eq_none_iff]

/-- A container without a URI, and a repository with a second mark in its URL. -/
theorem collectionUri_of_second_mark :
    let e : Event := ⟨"git.push", .null, none, none, [("collection", ⟨none, some "", []⟩)],
      none, none, none, []⟩
    let r : Repository := ⟨"n", "https://h/n", ⟨"p", none, []⟩, none,
      some "https://h/_apis_/C/_apis/_apis/git", []⟩
    e.LeavesCollection ∧ collectionUri e r = .ok "https://h/_apis_/C/" := by
  intro e r
  have leaves : e.LeavesCollection := by
    intro container listed url based
    cases listed
    cases based
    rfl
  have collection : IsCollection "https://h/_apis_/C/" := ⟨by decide, by decide⟩
  exact ⟨leaves, ((collectionUri_iff leaves r).1 _).mpr ⟨collection, "_apis/git", rfl⟩⟩

end BuildIntake.Hook
