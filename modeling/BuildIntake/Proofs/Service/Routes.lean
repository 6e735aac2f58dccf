import BuildIntake.Service.Route
import Mathlib.Data.List.TakeWhile

/-!
# Routes of requests

A target leads to a build if its path is the path of builds with one more segment. What follows the
path does not matter.
-/

namespace BuildIntake.Service

namespace Route

theorem resolve_of_ofPath? {cs : List Char} {route : Route} (given : cs ≠ [])
    (leads : ofPath? cs.reverse = some route) : resolve cs = .ok route := by
  unfold resolve
  split
  · rw [leads]
  · rw [leads]

/-- A segment behind the paths of builds is the name of a job. -/
theorem ofPath?_build {segment : List Char} (nonempty : segment ≠ []) (whole : '/' ∉ segment) :
    ofPath? ("/team-build/build/".toList ++ segment) = some (.build (String.ofList segment)) := by
  have parts : ("team-build/build/".toList ++ segment).splitOn '/' =
      ["team-build".toList, "build".toList, segment] := by
    have joined : ['/'].intercalate ["team-build".toList, "build".toList, segment] =
        "team-build/build/".toList ++ segment := by
      simp [List.intercalate]
    rw [← joined, List.splitOn_intercalate]
    · simp only [List.forall_mem_cons]
      exact ⟨by decide, by decide, whole, nofun⟩
    · exact List.cons_ne_nil _ _
  change ofSegments? ((("team-build/build/".toList ++ segment).splitOn '/').map String.ofList) = _
  rw [parts]
  have named : String.ofList segment ≠ "" := by
    simpa using nonempty
  exact if_neg named

theorem ofRequest_of_resolve {r : Request} {route : Route}
    (leads : resolve r.path.reverse = .ok route) (method : r.method = route.method) :
    ofRequest r = .ok route := by
  unfold ofRequest
  rw [leads]
  exact if_pos method

theorem ofRequest_build {r : Request} {segment : List Char} (post : r.method = "POST")
    (path : r.path = "/team-build/build/".toList ++ segment) (nonempty : segment ≠ [])
    (whole : '/' ∉ segment) : ofRequest r = .ok (.build (String.ofList segment)) := by
  refine ofRequest_of_resolve (resolve_of_ofPath? ?_ ?_) post
  · rw [path]
    simp
  · rw [List.reverse_reverse, path]
    exact ofPath?_build nonempty whole

end Route

/-- What stands in front of the first mark that ends a path is the path. -/
theorem Request.path_of_target {r : Request} {path rest : List Char}
    (target : r.target.toList = path ++ rest) (inner : ∀ c ∈ path, endsPath c = false)
    (behind : ∀ c ∈ rest.head?, endsPath c = true) : r.path = path := by
  have none : rest.takeWhile (fun c => !endsPath c) = [] := by
    cases rest with
    | nil => rfl
    | cons c rest => exact List.takeWhile_cons_of_neg (by simp [behind c rfl])
  unfold Request.path
  rw [target, List.takeWhile_append_of_pos fun c listed => by simp [inner c listed], none,
    List.append_nil]

/-- Nothing is asked for where no question mark stands. -/
theorem Request.queryValue?_of_plain {r : Request} (plain : '?' ∉ r.target.toList) (name : String) :
    r.queryValue? name = none := by
  have empty : r.query = [] := by
    have inner : ∀ c ∈ r.target.toList.takeWhile (· ≠ '#'), decide (c ≠ '?') = true := by
      intro c mem
      exact decide_eq_true fun mark => plain (mark ▸ List.takeWhile_subset _ mem)
    rw [query, List.dropWhile_eq_nil_iff.mpr inner, List.drop_nil]
  rw [queryValue?, empty]
  rfl

end BuildIntake.Service
