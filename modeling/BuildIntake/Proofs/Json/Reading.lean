import BuildIntake.Json.Display
import BuildIntake.Json.Parser
import BuildIntake.Proofs.Json.Reordering
import Mathlib.Algebra.Group.Nat.Defs

/-!
# Documents that were read

What holds of the atoms that are read and passes on from the parts of a container to the container
holds of every document that was read, since the containers that are still open keep it at every
token. So a document that was read names no key twice in any of its objects, its whole numbers are
short enough to be shown, and it nests no deeper than the dialect allows.
-/

namespace BuildIntake.Json

/-- The document stands for a token, and is short enough to be shown if it is a whole number. -/
structure IsRead (v : Json) : Prop where
  atom : v.IsAtom
  short : ∀ n, v = .int n → n.natAbs < 10 ^ Number.greatestLength

/-! ### Tokens -/

theorem digitsValue_lt {cs : List Char} (digits : ∀ c ∈ cs, c.isDigit = true) :
    digitsValue cs < 10 ^ cs.length := by
  have value {c : Char} (digit : c.isDigit = true) : c.toNat - '0'.toNat ≤ 9 := by
    simp only [Char.isDigit, Bool.and_eq_true, decide_eq_true_eq, ge_iff_le,
      UInt32.le_iff_toNat_le] at digit
    exact Nat.sub_le_of_le_add digit.2
  -- The digits read so far are a number of their own.
  have behind (n : Nat) : cs.foldl (fun n c => 10 * n + (c.toNat - '0'.toNat)) n <
      (n + 1) * 10 ^ cs.length := by
    induction cs generalizing n with
    | nil => simp
    | cons c cs ih =>
      obtain ⟨head, tail⟩ := List.forall_mem_cons.mp digits
      have first := value head
      have rest := ih tail (10 * n + (c.toNat - '0'.toNat))
      rw [List.foldl_cons, List.length_cons, Nat.pow_succ]
      calc _ < (10 * n + (c.toNat - '0'.toNat) + 1) * 10 ^ cs.length := rest
        _ ≤ (10 * (n + 1)) * 10 ^ cs.length := Nat.mul_le_mul_right _ (by omega)
        _ = _ := by rw [Nat.mul_comm 10, Nat.mul_assoc, Nat.mul_comm 10]
  simpa [digitsValue] using behind 0

namespace Numeral

theorem value_lt {n : Numeral} (digits : ∀ c ∈ n.whole, c.isDigit = true) (taken : n.isTaken = true)
    (whole : n.fraction = none ∧ n.exponent = none) :
    digitsValue n.whole < 10 ^ Number.greatestLength := by
  simp only [isTaken, whole.1, whole.2, Option.isSome_none, Bool.false_or, Bool.or_eq_true,
    decide_eq_true_eq] at taken
  rcases taken with short | small
  · exact Nat.lt_of_lt_of_le (digitsValue_lt digits) (Nat.pow_le_pow_right (by decide) short)
  · have wide : 0x10000000000000000 ≤ 10 ^ 20 := by decide
    have shown : 10 ^ 20 ≤ 10 ^ Number.greatestLength :=
      Nat.pow_le_pow_right (by decide) (by decide)
    exact Nat.lt_of_lt_of_le small (Nat.le_trans wide shown)

theorem isRead_value {n : Numeral} (digits : ∀ c ∈ n.whole, c.isDigit = true)
    (taken : n.isTaken = true) : n.value.IsRead := by
  unfold value
  split
  case h_1 fraction exponent =>
    have small := value_lt digits taken ⟨fraction, exponent⟩
    refine ⟨trivial, ?_⟩
    rintro _ ⟨⟩
    split <;> simpa using small
  case h_2 => exact ⟨trivial, nofun⟩

end Numeral

theorem isRead_of_lexNumber {d : Dialect} {negative : Bool} {cs r : List Char} {v : Json}
    (h : lexNumber d negative cs = some (v, r)) : v.IsRead := by
  simp only [lexNumber, Option.ite_none_left_eq_some, Option.ite_none_right_eq_some,
    Option.some.injEq, Prod.mk.injEq] at h
  obtain ⟨-, taken, rfl, -⟩ := h
  refine Numeral.isRead_value ?_ taken
  have digits : ∀ c ∈ cs.takeWhile Char.isDigit, c.isDigit = true :=
    List.all_eq_true.mp List.all_takeWhile
  dsimp only
  split
  · exact digits
  · split
    · simp
    · exact digits

/-- The tokens that are read. -/
def Token.Plain (t : Token) : Prop := ∀ v, t = .atom v → v.IsRead

theorem plain_of_lexToken {d : Dialect} {c : Char} {r r' : List Char} {t : Token}
    (h : lexToken d c r = some (t, r')) : t.Plain := by
  have number {negative : Bool} {cs : List Char}
      (h : (lexNumber d negative cs).map (fun p => (Token.atom p.1, p.2)) = some (t, r')) :
      t.Plain := by
    obtain ⟨⟨w, r⟩, lexed, eq⟩ := Option.map_eq_some_iff.mp h
    cases eq
    rintro v ⟨⟩
    exact isRead_of_lexNumber lexed
  unfold lexToken at h
  split at h
  case h_1 | h_2 | h_3 | h_4 | h_5 | h_6 =>
    cases h
    rintro v ⟨⟩
  case h_7 | h_8 | h_9 | h_10 | h_11 | h_12 =>
    obtain ⟨_, -, eq⟩ := Option.map_eq_some_iff.mp h
    cases eq
    rintro v ⟨⟩
    exact ⟨trivial, nofun⟩
  case h_13 =>
    split at h
    · cases h
      rintro v ⟨⟩
      exact ⟨trivial, nofun⟩
    · exact number h
  case h_14 =>
    split at h
    · exact number h
    · cases h

theorem plain_of_lexAll {d : Dialect} {fuel : Nat} {cs : List Char} {ts : List Token}
    (h : lexAll d fuel cs = some ts) : ∀ t ∈ ts, t.Plain := by
  induction fuel generalizing cs ts with
  | zero =>
    cases cs <;> cases h
    simp
  | succ fuel ih =>
    cases cs with
    | nil =>
      cases h
      simp
    | cons c r =>
      simp only [lexAll] at h
      split at h
      case isTrue => exact ih h
      case isFalse =>
        split at h
        case h_1 => cases h
        case h_2 t r' lexed =>
          obtain ⟨ts, rest, rfl⟩ := Option.map_eq_some_iff.mp h
          exact List.forall_mem_cons.mpr ⟨plain_of_lexToken lexed, ih rest⟩

/-! ### Members -/

namespace Members

variable {ms : Members} {key : String} {v : Json}

theorem nodup_keys_put (nodup : ms.keys.Nodup) : (ms.put key v).keys.Nodup := by
  rw [keys_put]
  split
  case isTrue => exact nodup
  case isFalse absent =>
    have new : key ∉ ms.keys := by
      intro mem
      obtain ⟨m, hm, rfl⟩ := List.mem_map.mp mem
      rw [Option.isSome_iff_ne_none, not_not, List.lookup_eq_none_iff] at absent
      simpa using absent m hm
    refine List.nodup_append.mpr ⟨nodup, List.nodup_singleton _, ?_⟩
    rintro a ha _ hb rfl
    exact new (List.mem_singleton.mp hb ▸ ha)

theorem forall_mem_put {P : Json → Prop} (old : ∀ m ∈ ms, P m.2) (new : P v) :
    ∀ m ∈ ms.put key v, P m.2 := by
  intro m hm
  unfold put at hm
  split at hm
  case isTrue =>
    obtain ⟨n, hn, rfl⟩ := List.mem_map.mp hm
    by_cases same : n.1 = key
    · simpa only [same, if_true] using new
    · simpa only [same, if_false] using old n hn
  case isFalse =>
    rcases List.mem_append.mp hm with hm | hm
    · exact old m hm
    · rw [List.mem_singleton.mp hm]
      exact new

end Members

/-! ### Readings -/

/-- What holds of documents that stand inside `n` open containers, for every `n` that the dialect
allows: it holds of atoms, and of containers if it holds of what they contain. -/
structure Kept (d : Dialect) (P : Nat → Json → Prop) : Prop where
  atom : ∀ {n v}, n ≤ d.depth → v.IsRead → P n v
  arr : ∀ {n vs}, n ≤ d.depth → (∀ v ∈ vs, P (n + 1) v) → P n (.arr vs)
  obj : ∀ {n} {ms : Members}, n ≤ d.depth → ms.keys.Nodup → (∀ m ∈ ms, P (n + 1) m.2) →
    P n (.obj ms)

/-- It holds of all that was read inside an open container. -/
def Frame.Keeps (P : Json → Prop) : Frame → Prop
  | .array items => ∀ v ∈ items, P v
  | .object ms _ => ms.keys.Nodup ∧ ∀ m ∈ ms, P m.2

def Frame.AllKeep (P : Nat → Json → Prop) : List Frame → Prop
  | [] => True
  | f :: rest => f.Keeps (P (rest.length + 1)) ∧ AllKeep P rest

/-- It holds of all that was read last, inside `n` open containers. -/
def Stage.Keeps (d : Dialect) (P : Nat → Json → Prop) (n : Nat) : Stage → Prop
  | .value | .keyOrEnd => n ≤ d.depth
  | .itemOrEnd => n ≤ d.depth + 1
  | .key ms | .colon ms _ => n < d.depth ∧ ms.keys.Nodup ∧ ∀ m ∈ ms, P (n + 1) m.2
  | .more v => n ≤ d.depth ∧ P n v

namespace Reading

structure Keeps (d : Dialect) (P : Nat → Json → Prop) (s : Reading) : Prop where
  stack : Frame.AllKeep P s.stack
  stage : s.stage.Keeps d P s.stack.length

variable {d : Dialect} {P : Nat → Json → Prop} (kept : Kept d P) {stack : List Frame}
  {s s' : Reading} {t : Token}
include kept

theorem keeps_begin (h : Frame.AllKeep P stack) (level : stack.length ≤ d.depth) (plain : t.Plain)
    (begun : begin stack t = some s) : s.Keeps d P := by
  cases t <;> cases begun
  case atom v => exact ⟨h, level, kept.atom level (plain v rfl)⟩
  case openArray => exact ⟨⟨by simp [Frame.Keeps], h⟩, Nat.succ_le_succ level⟩
  case openObject => exact ⟨h, level⟩

theorem keeps_proceed (h : Frame.AllKeep P stack) (level : stack.length ≤ d.depth) {v : Json}
    (hv : P stack.length v) (proceeded : proceed stack v t = some s) : s.Keeps d P := by
  unfold proceed at proceeded
  split at proceeded <;> cases proceeded
  all_goals
    obtain ⟨top, rest⟩ := h
  · exact ⟨⟨List.forall_mem_cons.mpr ⟨hv, top⟩, rest⟩, level⟩
  · refine ⟨rest, Nat.le_of_succ_le level, kept.arr (Nat.le_of_succ_le level) fun w hw => ?_⟩
    exact List.forall_mem_cons.mpr ⟨hv, top⟩ w (List.mem_reverse.mp hw)
  · exact ⟨rest, level, Members.nodup_keys_put top.1, Members.forall_mem_put top.2 hv⟩
  · have outer := Nat.le_of_succ_le level
    exact ⟨rest, outer, kept.obj outer (Members.nodup_keys_put top.1)
      (Members.forall_mem_put top.2 hv)⟩

theorem Keeps.step (h : s.Keeps d P) (plain : t.Plain) (stepped : s.step d t = some s') :
    s'.Keeps d P := by
  obtain ⟨stack, stage⟩ := s
  obtain ⟨frames, read⟩ := h
  unfold Reading.step at stepped
  split at stepped
  case h_1 stage_eq =>
    subst stage_eq
    exact keeps_begin kept frames read plain stepped
  case h_2 stage_eq =>
    subst stage_eq
    cases stepped
    have outer : (stack.drop 1).length ≤ d.depth := by
      rw [List.length_drop]
      exact Nat.sub_le_of_le_add read
    refine ⟨?_, outer, kept.arr outer (by simp)⟩
    cases stack with
    | nil => exact frames
    | cons f rest => exact frames.2
  case h_3 =>
    split at stepped
    case isTrue level => exact keeps_begin kept frames level plain stepped
    case isFalse => cases stepped
  case h_4 stage_eq =>
    subst stage_eq
    cases stepped
    exact ⟨frames, read, kept.obj read .nil (by simp)⟩
  case h_5 =>
    split at stepped
    case isTrue level =>
      cases stepped
      exact ⟨frames, level, .nil, by simp⟩
    case isFalse => cases stepped
  case h_6 stage_eq =>
    subst stage_eq
    cases stepped
    exact ⟨frames, read⟩
  case h_7 stage_eq =>
    subst stage_eq
    cases stepped
    exact ⟨⟨read.2, frames⟩, read.1⟩
  case h_8 stage_eq =>
    subst stage_eq
    exact keeps_proceed kept frames read.1 read.2 stepped
  case h_9 => cases stepped

theorem Keeps.foldlM {ts : List Token} (plain : ∀ t ∈ ts, t.Plain) (h : s.Keeps d P)
    (read : ts.foldlM (Reading.step d) s = some s') : s'.Keeps d P := by
  induction ts generalizing s with
  | nil =>
    cases read
    exact h
  | cons t ts ih =>
    rw [List.foldlM_cons] at read
    obtain ⟨next, stepped, rest⟩ := Option.bind_eq_some_iff.mp read
    obtain ⟨head, tail⟩ := List.forall_mem_cons.mp plain
    exact ih tail (h.step kept head stepped) rest

end Reading

theorem Kept.of_parse? {d : Dialect} {P : Nat → Json → Prop} (kept : Kept d P) {text : String}
    {v : Json} (h : parse? d text = some v) : P 0 v := by
  obtain ⟨ts, lexed, read⟩ := Option.bind_eq_some_iff.mp h
  obtain ⟨s, read, result⟩ := Option.bind_eq_some_iff.mp read
  have start : Reading.start.Keeps d P := ⟨trivial, Nat.zero_le _⟩
  have keeps := start.foldlM kept (plain_of_lexAll lexed) read
  unfold Reading.result? at result
  split at result
  case h_1 =>
    cases result
    exact keeps.stage.2
  case h_2 => cases result

/-! ### Documents -/

/-- A document that was read names no key twice. -/
theorem distinct_of_parse? {d : Dialect} {text : String} {v : Json} (h : parse? d text = some v) :
    v.Distinct := by
  have kept : Kept d fun _ => Distinct :=
    ⟨fun _ read => .atom read.atom, fun _ items => .arr items,
      fun _ nodup values => .obj nodup values⟩
  exact kept.of_parse? h

/-- No whole number in the document has more digits than can be shown. -/
inductive Short : Json → Prop where
  | atom {v : Json} : v.IsRead → Short v
  | arr {vs : List Json} : (∀ v ∈ vs, Short v) → Short (.arr vs)
  | obj {ms : Members} : (∀ m ∈ ms, Short m.2) → Short (.obj ms)

theorem short_of_parse? {d : Dialect} {text : String} {v : Json} (h : parse? d text = some v) :
    v.Short := by
  have kept : Kept d fun _ => Short :=
    ⟨fun _ read => .atom read, fun _ items => .arr items, fun _ _ values => .obj values⟩
  exact kept.of_parse? h

theorem calls_of_isAtom {v : Json} (atom : v.IsAtom) : v.calls = 1 := by
  cases v with
  | arr | obj => exact atom.elim
  | _ => rfl

theorem callsOfItems_le_iff {vs : List Json} {n : Nat} :
    callsOfItems vs ≤ n ↔ ∀ v ∈ vs, v.calls ≤ n := by
  induction vs with
  | nil => simp [callsOfItems]
  | cons v vs ih => rw [callsOfItems, Nat.max_le, ih, List.forall_mem_cons]

theorem callsOfMembers_le_iff {ms : Members} {n : Nat} :
    callsOfMembers ms ≤ n ↔ ∀ m ∈ ms, m.2.calls ≤ n := by
  induction ms with
  | nil => simp [callsOfMembers]
  | cons m ms ih => rw [callsOfMembers, Nat.max_le, ih, List.forall_mem_cons]

/-- A document that was read is shown by no more calls than containers may be nested, and one. -/
theorem calls_le_of_parse? {d : Dialect} {text : String} {v : Json} (h : parse? d text = some v) :
    v.calls ≤ d.depth + 1 := by
  have kept : Kept d fun n v => v.calls ≤ d.depth + 1 - n := by
    refine ⟨?_, ?_, ?_⟩
    · intro n v level read
      rw [calls_of_isAtom read.atom]
      omega
    · intro n vs level items
      have inner := callsOfItems_le_iff.mpr items
      rw [calls]
      omega
    · intro n ms level _ values
      have inner := callsOfMembers_le_iff.mpr values
      rw [calls]
      omega
  exact kept.of_parse? h

end BuildIntake.Json
