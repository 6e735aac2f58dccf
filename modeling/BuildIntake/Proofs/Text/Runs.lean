import BuildIntake.Proofs.Text.Trimming
import BuildIntake.Text.Digit
import Mathlib.Data.Nat.Digits.Defs

/-!
# Runs of characters

A text that starts with a run of one kind of characters, and does not go on with that kind, can be
parted in only one way. Digits and blanks are such kinds, and no character is of both.
-/

namespace BuildIntake.Text

/-- The text does not start with a character of the kind `p`. -/
def Stops (p : Char → Bool) (cs : List Char) : Prop := ∀ c ∈ cs.head?, p c = false

variable {p : Char → Bool} {run rest : List Char}

theorem stops_nil : Stops p [] := nofun

theorem stops_cons {c : Char} : Stops p (c :: rest) ↔ p c = false := by
  simp [Stops]

section

variable (nonempty : run ≠ []) (others : ∀ c ∈ run, p c = false)
include nonempty others

theorem stops_append (rest : List Char) : Stops p (run ++ rest) := by
  intro c head
  rw [List.head?_append_of_ne_nil _ nonempty] at head
  exact others c (List.mem_of_mem_head? head)

theorem stops_reverse (rest : List Char) : Stops p (rest ++ run).reverse := by
  rw [List.reverse_append]
  apply stops_append (by simpa using nonempty)
  intro c listed
  exact others c (List.mem_reverse.mp listed)

end

section

variable (all : ∀ c ∈ run, p c = true) (stops : Stops p rest)
include all stops

theorem takeWhile_run : (run ++ rest).takeWhile p = run := by
  rw [List.takeWhile_append_of_pos all]
  cases rest with
  | nil => simp
  | cons c rest => simp [stops_cons.mp stops]

theorem dropWhile_run : (run ++ rest).dropWhile p = rest := by
  rw [List.dropWhile_append_of_pos all]
  cases rest with
  | nil => simp
  | cons c rest => simp [stops_cons.mp stops]

theorem run_append_inj {run' rest' : List Char} (all' : ∀ c ∈ run', p c = true)
    (stops' : Stops p rest') (same : run ++ rest = run' ++ rest') : run = run' ∧ rest = rest' := by
  constructor
  · rw [← takeWhile_run all stops, same, takeWhile_run all' stops']
  · rw [← dropWhile_run all stops, same, dropWhile_run all' stops']

end

/-! ### Blanks at the ends -/

theorem trimBy_eq_nil_iff {cs : List Char} : trimBy p cs = [] ↔ ∀ c ∈ cs, p c = true := by
  rw [trimBy_eq, List.rdropWhile_eq_nil_iff]
  constructor
  · intro dropped c listed
    rw [← List.takeWhile_append_dropWhile (p := p) (l := cs)] at listed
    rcases List.mem_append.mp listed with taken | left
    · exact List.mem_takeWhile_imp taken
    · exact dropped c left
  · intro all c listed
    exact all c ((List.dropWhile_suffix p).subset listed)

theorem exists_trimBy_eq (p : Char → Bool) (cs : List Char) :
    ∃ front back, front ++ trimBy p cs ++ back = cs ∧ (∀ c ∈ front, p c = true) ∧
      ∀ c ∈ back, p c = true := by
  refine ⟨cs.takeWhile p, (cs.dropWhile p).rtakeWhile p, ?_, ?_, ?_⟩
  · rw [trimBy_eq, List.append_assoc, List.rdropWhile_append_rtakeWhile,
      List.takeWhile_append_dropWhile]
  · intro c taken
    exact List.mem_takeWhile_imp taken
  · intro c taken
    exact List.mem_rtakeWhile_imp taken

theorem trimBy_surrounded {front cs back : List Char} (before : ∀ c ∈ front, p c = true)
    (behind : ∀ c ∈ back, p c = true) (head : Stops p (cs ++ back)) (last : Stops p cs.reverse) :
    trimBy p (front ++ cs ++ back) = cs := by
  have behind' : ∀ c ∈ back.reverse, p c = true := by simpa using behind
  rw [trimBy, List.append_assoc, dropWhile_run before head, List.reverse_append,
    dropWhile_run behind' last, List.reverse_reverse]

/-! ### Digits -/

/-- Whether a character is a decimal digit of some script. -/
def isDecimal (c : Char) : Bool := (digit? c).isSome

/-- The ranges of codes that blanks lie in. -/
def blankRanges : List (Nat × Nat) :=
  [(0x09, 0x0D), (0x1C, 0x20), (0x85, 0x85), (0xA0, 0xA0), (0x1680, 0x1680), (0x2000, 0x200A),
    (0x2028, 0x2029), (0x202F, 0x202F), (0x205F, 0x205F), (0x3000, 0x3000)]

theorem mem_blankRanges {c : Char} (blank : isBlank c = true) :
    ∃ r ∈ blankRanges, r.1 ≤ c.toNat ∧ c.toNat ≤ r.2 := by
  simp only [isBlank, isWhite, Bool.or_eq_true, Bool.and_eq_true, decide_eq_true_eq, Char.le_def,
    UInt32.le_iff_toNat_le, Char.ext_iff, ← UInt32.toNat_inj, Char.reduceVal, UInt32.reduceToNat,
    Char.toNat_val] at blank
  simp only [blankRanges, List.mem_cons, List.not_mem_nil, or_false, exists_eq_or_imp,
    exists_eq_left]
  omega

theorem isDecimal_of_isBlank {c : Char} (blank : isBlank c = true) : isDecimal c = false := by
  have apart : ∀ r ∈ blankRanges, ∀ z ∈ digitZeros, r.2 < z ∨ z + 10 ≤ r.1 := by decide
  obtain ⟨r, range, least, most⟩ := mem_blankRanges blank
  have none : digit? c = none := by
    rw [digit?, Option.map_eq_none_iff, List.find?_eq_none]
    intro z zero
    have := apart r range z zero
    simp only [decide_eq_true_eq]
    omega
  rw [isDecimal, none]
  rfl

theorem digits_run {run rest : List Char} (all : ∀ c ∈ run, isDecimal c = true)
    (stops : Stops isDecimal rest) : digits (run ++ rest) = (run.filterMap digit?, rest) := by
  have taken := takeWhile_run all stops
  have dropped := dropWhile_run all stops
  exact Prod.ext (congrArg (List.filterMap digit?) taken) dropped

theorem length_filterMap_digit? {run : List Char} (all : ∀ c ∈ run, isDecimal c = true) :
    (run.filterMap digit?).length = run.length := by
  rw [List.length_filterMap_eq_countP]
  exact List.countP_eq_length.mpr all

theorem ofDigits_eq (ds : List Nat) : ofDigits ds = Nat.ofDigits 10 ds.reverse := by
  induction ds using List.reverseRecOn with
  | nil => rfl
  | append_singleton ds d ih =>
    rw [ofDigits_concat, List.reverse_concat, Nat.ofDigits_cons, ih]
    simp [Nat.add_comm]

end BuildIntake.Text
