import BuildIntake.Json.Display
import BuildIntake.Json.Parser
import BuildIntake.Text.Utf8

/-!
# Lists in lists

A document can be read as long as it nests no deeper than the dialect allows. Lists that hold
nothing but each other reach every depth. They are written as so many opening brackets and as many
closing ones; the reading goes down with the former and comes up with the latter.
-/

namespace BuildIntake

/-! ### Bytes -/

namespace Text.Utf8

theorem pieces_encode {cs : List Char} (ascii : ∀ c ∈ cs, c.toNat < 0x80) :
    pieces .idle (encode cs) = cs.map some := by
  induction cs with
  | nil => rfl
  | cons c cs ih =>
    obtain ⟨first, rest⟩ := List.forall_mem_cons.mp ascii
    have alone : String.utf8EncodeChar c = [UInt8.ofNat c.toNat] := if_pos (Nat.le_of_lt_succ first)
    have byte : (UInt8.ofNat c.toNat).toNat = c.toNat :=
      Nat.mod_eq_of_lt (Nat.lt_trans first (by decide))
    have taken : Pending.idle.step c.toNat = (.idle, [some c]) := by
      simp [Pending.step, Pending.idle, Pending.start, first, Char.ofNat_toNat]
    rw [encode, List.flatMap_cons, alone, List.singleton_append, pieces, byte, taken]
    exact congrArg (some c :: ·) (ih rest)

/-- A text of ASCII characters is read back from its bytes. -/
theorem decode?_encode {cs : List Char} (ascii : ∀ c ∈ cs, c.toNat < 0x80) :
    decode? (encode cs) = some (String.ofList cs) := by
  have whole : cs.mapM some = some cs := by
    simpa using List.mapM_pure (m := Option) (f := fun c : Char => c) (l := cs)
  rw [decode?, pieces_encode ascii, List.mapM_map]
  exact congrArg (Option.map String.ofList) whole

end Text.Utf8

namespace Json

/-- An empty list inside `n` lists that hold nothing else. -/
def nested : Nat → Json
  | 0 => .arr []
  | n + 1 => .arr [nested n]

theorem calls_nested (n : Nat) : (nested n).calls = n + 1 := by
  induction n with
  | zero => rfl
  | succ n ih => simp [nested, calls, callsOfItems, ih]

/-! ### Tokens -/

/-- The tokens of an empty list inside `n` lists. -/
def nestedTokens (n : Nat) : List Token :=
  List.replicate (n + 1) .openArray ++ List.replicate (n + 1) .closeArray

/-- The text has the tokens, with any fuel that is long enough. -/
def Lexes (d : Dialect) (cs : List Char) (ts : List Token) : Prop :=
  ∀ fuel, cs.length ≤ fuel → lexAll d fuel cs = some ts

namespace Lexes

variable {d : Dialect} {cs r : List Char} {c : Char} {t : Token} {ts : List Token}

theorem nil : Lexes d [] [] := fun fuel _ => by cases fuel <;> rfl

theorem cons (token : lexToken d c cs = some (t, r)) (mark : isJsonBlank c = false)
    (shorter : r.length ≤ cs.length) (rest : Lexes d r ts) : Lexes d (c :: cs) (t :: ts) := by
  intro fuel long
  cases fuel with
  | zero => cases long
  | succ fuel =>
    have behind := rest fuel (Nat.le_trans shorter (Nat.le_of_succ_le_succ long))
    simp [lexAll, mark, token, behind]

/-- A mark that is a token of its own may be repeated. -/
theorem replicate (token : ∀ r, lexToken d c r = some (t, r)) (mark : isJsonBlank c = false)
    (n : Nat) (rest : Lexes d cs ts) :
    Lexes d (List.replicate n c ++ cs) (List.replicate n t ++ ts) := by
  induction n with
  | zero => exact rest
  | succ n ih => exact cons (token _) mark (Nat.le_refl _) ih

theorem tokens_eq (lexes : Lexes d cs ts) : tokens d (String.ofList cs) = some ts := by
  unfold tokens
  rw [String.toList_ofList]
  exact lexes _ (Nat.le_refl _)

end Lexes

/-! ### Readings -/

namespace Reading

variable {d : Dialect}

/-- Opening brackets are taken as long as the dialect allows one more list. -/
theorem foldlM_open (n : Nat) {stack : List Frame} (level : stack.length + n ≤ d.depth + 1) :
    (List.replicate n .openArray).foldlM (step d) ⟨stack, .itemOrEnd⟩ =
      some ⟨List.replicate n (.array []) ++ stack, .itemOrEnd⟩ := by
  induction n generalizing stack with
  | zero => rfl
  | succ n ih =>
    have opened : step d ⟨stack, .itemOrEnd⟩ .openArray = some ⟨.array [] :: stack, .itemOrEnd⟩ :=
      if_pos (show stack.length ≤ d.depth by omega)
    have inner := @ih (.array [] :: stack) (by rw [List.length_cons]; omega)
    rw [List.replicate_succ, List.foldlM_cons, opened, List.replicate_succ', List.append_assoc]
    exact inner

theorem foldlM_close (n m : Nat) (stack : List Frame) :
    (List.replicate n .closeArray).foldlM (step d)
        ⟨List.replicate n (.array []) ++ stack, .more (nested m)⟩ =
      some ⟨stack, .more (nested (m + n))⟩ := by
  induction n generalizing m with
  | zero => rfl
  | succ n ih =>
    have outer := ih (m + 1)
    rw [Nat.add_right_comm, Nat.add_assoc] at outer
    exact outer

theorem foldlM_nested {n : Nat} {stack : List Frame} (level : stack.length + n ≤ d.depth) :
    (nestedTokens n).foldlM (step d) ⟨stack, .itemOrEnd⟩ = some ⟨stack, .more (nested n)⟩ := by
  rw [nestedTokens, List.foldlM_append, foldlM_open (n + 1) (by omega)]
  have closed := foldlM_close (d := d) n 0 stack
  rw [Nat.zero_add] at closed
  exact closed

end Reading

/-- The text of an object whose member `parameter` lists nothing but nested lists. -/
def nestedText (n : Nat) : List Char :=
  "\x7b\"parameter\":[".toList ++ (List.replicate (n + 1) '[' ++
    (List.replicate (n + 1) ']' ++ "]\x7d".toList))

theorem ascii_nestedText (n : Nat) : ∀ c ∈ nestedText n, c.toNat < 0x80 := by
  have written {cs : List Char} (all : cs.all (fun c => decide (c.toNat < 0x80)) = true) :
      ∀ c ∈ cs, c.toNat < 0x80 := fun c mem => of_decide_eq_true (List.all_eq_true.mp all c mem)
  have repeated {c : Char} (ascii : c.toNat < 0x80) :
      ∀ c' ∈ List.replicate (n + 1) c, c'.toNat < 0x80 := fun _ mem =>
    List.eq_of_mem_replicate mem ▸ ascii
  unfold nestedText
  simp only [List.forall_mem_append]
  exact ⟨written (by decide), repeated (by decide), repeated (by decide), written (by decide)⟩

/-- The tokens of such a text up to the nested lists. -/
def memberTokens : List Token := [.openObject, .atom (.str "parameter"), .colon, .openArray]

theorem lexes_nestedText (d : Dialect) (n : Nat) :
    Lexes d (nestedText n) (memberTokens ++ (nestedTokens n ++ [.closeArray, .closeObject])) := by
  have key (r : List Char) : lexToken d '"' ("parameter\"".toList ++ r) =
      some (.atom (.str "parameter"), r) := rfl
  have ends : Lexes d "]\x7d".toList [.closeArray, .closeObject] :=
    .cons rfl rfl (Nat.le_refl _) (.cons rfl rfl (Nat.le_refl _) .nil)
  have closing := ends.replicate (c := ']') (fun _ => rfl) rfl (n + 1)
  have opening := closing.replicate (c := '[') (fun _ => rfl) rfl (n + 1)
  have member := opening.cons (c := '[') rfl rfl (Nat.le_refl _) |>.cons (c := ':') rfl rfl
    (Nat.le_refl _)
  rw [nestedTokens, List.append_assoc]
  exact (member.cons (key _) rfl (by simp)).cons (c := '\x7b') rfl rfl (Nat.le_refl _)

/-- Lists can be nested as deep as the dialect allows. -/
theorem parse?_nestedText {d : Dialect} {n : Nat} (level : n + 2 ≤ d.depth) :
    parse? d (String.ofList (nestedText n)) = some (.obj [("parameter", .arr [nested n])]) := by
  have outer : memberTokens.foldlM (Reading.step d) .start =
      some ⟨[.array [], .object [] "parameter"], .itemOrEnd⟩ := by
    have allowed : 0 < d.depth := by omega
    simp [memberTokens, Reading.step, Reading.start, Reading.begin, allowed]
  have inner := @Reading.foldlM_nested d n [.array [], .object [] "parameter"]
    (Nat.add_comm n 2 ▸ level)
  have read : List.foldlM (Reading.step d) .start
      (memberTokens ++ (nestedTokens n ++ [.closeArray, .closeObject])) =
        some ⟨[], .more (.obj [("parameter", .arr [nested n])])⟩ := by
    rw [List.foldlM_append, outer, Option.bind_eq_bind, Option.bind_some, List.foldlM_append, inner]
    rfl
  rw [parse?, (lexes_nestedText d n).tokens_eq, Option.bind_some, ofTokens?, read]
  rfl

end Json

end BuildIntake
