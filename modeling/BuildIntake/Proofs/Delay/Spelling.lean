import BuildIntake.Proofs.Delay
import BuildIntake.Proofs.Number.Ratios
import BuildIntake.Proofs.Text.Runs

/-!
# Spellings of delays

A delay is spelled by a number with a unit or without one. The number has digits of any script, and
more of them behind a point if there is a point; blanks may stand before the number, behind it and
behind the unit. A text is read as a delay exactly if it is spelled in this way. The spelling is
known from the text, except that nothing tells where the blanks behind a bare number are parted.
-/

namespace BuildIntake.Delay

open Number Text

abbrev Blanks := {cs : List Char // ∀ c ∈ cs, isBlank c = true}

def Blanks.none : Blanks := ⟨[], nofun⟩

/-- At least one digit. -/
@[ext]
structure DigitRow where
  chars : List Char
  nonempty : chars ≠ []
  decimal : ∀ c ∈ chars, isDecimal c = true

inductive UnitWord where
  | ms | s | sec | secs
  deriving DecidableEq

def UnitWord.chars : UnitWord → List Char
  | .ms => ['m', 's']
  | .s => ['s']
  | .sec => ['s', 'e', 'c']
  | .secs => ['s', 'e', 'c', 's']

/-- The parts that a delay is spelled with, in order. -/
structure Spelling where
  front : Blanks
  whole : DigitRow
  /-- The digits behind the point, if there is a point. -/
  fraction : Option DigitRow
  gap : Blanks
  unit : Option UnitWord
  back : Blanks

namespace DigitRow

def values (ds : DigitRow) : List Nat := ds.chars.filterMap digit?

/-- The point and the digits behind it. -/
def pointed (fraction : Option DigitRow) : List Char := fraction.elim [] fun ds => '.' :: ds.chars

theorem exists_values (ds : DigitRow) : ∃ d rest, ds.values = d :: rest := by
  apply List.exists_cons_of_ne_nil
  intro empty
  have length := length_filterMap_digit? ds.decimal
  rw [show ds.chars.filterMap digit? = [] from empty, List.length_nil] at length
  exact ds.nonempty (List.length_eq_zero_iff.mp length.symm)

theorem not_blank {ds : DigitRow} {c : Char} (listed : c ∈ ds.chars) : isBlank c = false := by
  by_contra blank
  have decimal := ds.decimal c listed
  rw [isDecimal_of_isBlank (by simpa using blank)] at decimal
  cases decimal

theorem stops_append (ds : DigitRow) (rest : List Char) : Stops isBlank (ds.chars ++ rest) :=
  Text.stops_append ds.nonempty (fun _ => not_blank) rest

theorem stops_reverse (ds : DigitRow) (rest : List Char) :
    Stops isBlank (rest ++ ds.chars).reverse :=
  Text.stops_reverse ds.nonempty (fun _ => not_blank) rest

end DigitRow

namespace UnitWord

def scaleOf (unit : Option UnitWord) : Scale := if unit = some .ms then .milliseconds else .seconds

def charsOf (unit : Option UnitWord) : List Char := unit.elim [] chars

theorem not_blank {u : UnitWord} {c : Char} (listed : c ∈ u.chars) : isBlank c = false := by
  have letters : (u.chars.all fun c => !isBlank c) = true := by
    cases u <;> decide
  simpa using List.all_eq_true.mp letters c listed

theorem nonempty (u : UnitWord) : u.chars ≠ [] := by
  cases u <;> exact List.cons_ne_nil _ _

theorem stops_append (u : UnitWord) (rest : List Char) : Stops isBlank (u.chars ++ rest) :=
  Text.stops_append u.nonempty (fun _ => not_blank) rest

theorem stops_reverse (u : UnitWord) (rest : List Char) :
    Stops isBlank (rest ++ u.chars).reverse :=
  Text.stops_reverse u.nonempty (fun _ => not_blank) rest

theorem chars_injective {u v : UnitWord} (same : u.chars = v.chars) : u = v := by
  cases u <;> cases v <;> first | rfl | cases same

end UnitWord

theorem scale?_eq_some_iff {cs : List Char} {scale : Scale} :
    scale? cs = some scale ↔ ∃ unit, cs = UnitWord.charsOf unit ∧ scale = UnitWord.scaleOf unit := by
  constructor
  · intro known
    unfold scale? at known
    split at known
    case h_1 => exact ⟨none, rfl, (Option.some.inj known).symm⟩
    case h_2 => exact ⟨some .s, rfl, (Option.some.inj known).symm⟩
    case h_3 => exact ⟨some .sec, rfl, (Option.some.inj known).symm⟩
    case h_4 => exact ⟨some .secs, rfl, (Option.some.inj known).symm⟩
    case h_5 => exact ⟨some .ms, rfl, (Option.some.inj known).symm⟩
    case h_6 => cases known
  · rintro ⟨unit, rfl, rfl⟩
    rcases unit with _ | _ | _ | _ | _ <;> rfl

/-! ### Numbers -/

def Amount.spelled (whole : DigitRow) (fraction : Option DigitRow) : Amount :=
  ⟨whole.values, fraction.elim [] DigitRow.values⟩

theorem digits_spelled (ds : DigitRow) {rest : List Char} (stops : Stops isDecimal rest) :
    digits (ds.chars ++ rest) = (ds.values, rest) :=
  digits_run ds.decimal stops

theorem readAmount?_spelled (whole : DigitRow) (fraction : Option DigitRow) {rest : List Char}
    (stops : Stops isDecimal rest) (point : ∀ r, rest ≠ '.' :: r) :
    readAmount? (whole.chars ++ (DigitRow.pointed fraction ++ rest)) =
      some (Amount.spelled whole fraction, rest) := by
  obtain ⟨d, ds, values⟩ := whole.exists_values
  unfold readAmount? Amount.spelled
  cases fraction with
  | none =>
    rw [show DigitRow.pointed none ++ rest = rest from rfl, digits_spelled whole stops, values]
    split
    case h_1 empty => cases empty
    case h_2 r _ pointed => exact absurd (congrArg Prod.snd pointed) (point r)
    case h_3 eq =>
      cases eq
      rfl
  | some fs =>
    obtain ⟨f, fs', values'⟩ := fs.exists_values
    have behind : Stops isDecimal (DigitRow.pointed (some fs) ++ rest) := stops_cons.mpr (by decide)
    rw [digits_spelled whole behind, values]
    split
    case h_1 empty => cases empty
    case h_2 r _ eq =>
      obtain ⟨rfl, pointed⟩ := Prod.mk.inj eq
      obtain rfl : fs.chars ++ rest = r := (List.cons.inj pointed).2
      rw [Option.elim_some, digits_spelled fs stops, values']
    case h_3 bare eq =>
      cases eq
      exact absurd rfl (bare _)

/-- What the scan of digits finds, if it finds any. -/
theorem spelled_of_digits {cs rest : List Char} {vs : List Nat} (h : digits cs = (vs, rest))
    (some_digit : vs ≠ []) : ∃ ds : DigitRow, cs = ds.chars ++ rest ∧ vs = ds.values := by
  obtain ⟨rfl, rfl⟩ := Prod.ext_iff.mp h
  refine ⟨⟨cs.takeWhile isDecimal, ?_, fun c taken => List.mem_takeWhile_imp taken⟩, ?_, rfl⟩
  · intro empty
    exact some_digit (congrArg (List.filterMap digit?) empty)
  · exact List.takeWhile_append_dropWhile.symm

theorem spelled_of_readAmount? {cs rest : List Char} {a : Amount}
    (h : readAmount? cs = some (a, rest)) :
    ∃ whole fraction, cs = whole.chars ++ (DigitRow.pointed fraction ++ rest) ∧
      a = Amount.spelled whole fraction := by
  unfold readAmount? at h
  split at h
  case h_1 => cases h
  case h_2 vs r some_digit scanned =>
    obtain ⟨whole, rfl, rfl⟩ := spelled_of_digits scanned some_digit
    split at h
    case h_1 =>
      cases h
      exact ⟨whole, none, rfl, rfl⟩
    case h_2 us r' some_digit' scanned' =>
      obtain ⟨ds, rfl, rfl⟩ := spelled_of_digits scanned' some_digit'
      cases h
      exact ⟨whole, some ds, rfl, rfl⟩
  case h_3 vs r some_digit _ scanned =>
    obtain ⟨whole, rfl, rfl⟩ := spelled_of_digits scanned some_digit
    cases h
    exact ⟨whole, none, rfl, rfl⟩

/-! ### Texts -/

namespace Spelling

/-- What stands behind the number. -/
def ending (w : Spelling) : List Char := w.gap.1 ++ (UnitWord.charsOf w.unit ++ w.back.1)

def chars (w : Spelling) : List Char :=
  w.front.1 ++ (w.whole.chars ++ (DigitRow.pointed w.fraction ++ w.ending))

def text (w : Spelling) : String := String.ofList w.chars

def amount (w : Spelling) : Amount := .spelled w.whole w.fraction

/-- The number that the digits on both sides of the point denote. -/
def number (w : Spelling) : ℚ :=
  Nat.ofDigits 10 w.whole.values.reverse +
    w.fraction.elim 0 fun ds => (Nat.ofDigits 10 ds.values.reverse : ℚ) / 10 ^ ds.chars.length

/-- The spelling without the blanks at the ends of its text. -/
def trimmed (w : Spelling) : Spelling :=
  { w with
    front := .none
    gap := if w.unit = none then .none else w.gap
    back := .none }

/-- The blanks at the end of the text. -/
def behind (w : Spelling) : List Char := if w.unit = none then w.gap.1 ++ w.back.1 else w.back.1

variable (w : Spelling)

theorem stops_ending {p : Char → Bool} (blank : ∀ c, isBlank c = true → p c = false)
    (letters : p 'm' = false ∧ p 's' = false) : Stops p w.ending := by
  obtain ⟨-, -, -, ⟨gap, blanks⟩, unit, ⟨back, blanks'⟩⟩ := w
  unfold ending
  dsimp only
  cases gap with
  | cons c gap => exact stops_cons.mpr (blank c (blanks c List.mem_cons_self))
  | nil =>
    rcases unit with _ | _ | _ | _ | _
    · cases back with
      | cons c back => exact stops_cons.mpr (blank c (blanks' c List.mem_cons_self))
      | nil => exact stops_nil
    · exact stops_cons.mpr letters.1
    all_goals exact stops_cons.mpr letters.2

theorem ending_bare (w : Spelling) (r : List Char) : w.ending ≠ '.' :: r := by
  intro pointed
  have stops : Stops (· = '.') w.ending := by
    refine w.stops_ending (fun c blank => ?_) ⟨by decide, by decide⟩
    by_contra point
    rw [show c = '.' by simpa using point] at blank
    cases blank
  rw [pointed, stops_cons] at stops
  cases stops

theorem chars_eq : w.chars = w.front.1 ++ w.trimmed.chars ++ w.behind := by
  unfold chars ending trimmed behind
  cases unit : w.unit <;> simp [UnitWord.charsOf, Blanks.none]

theorem behind_blank : ∀ c ∈ w.behind, isBlank c = true := by
  intro c listed
  unfold behind at listed
  split at listed
  case isTrue =>
    rcases List.mem_append.mp listed with gap | back
    · exact w.gap.2 c gap
    · exact w.back.2 c back
  case isFalse => exact w.back.2 c listed

theorem trimmed_stops (rest : List Char) : Stops isBlank (w.trimmed.chars ++ rest) := by
  have head := w.whole.stops_append (DigitRow.pointed w.fraction ++ w.trimmed.ending ++ rest)
  simpa [chars, trimmed, Blanks.none] using head

/-- The text without its blanks ends with a digit or with a letter. -/
theorem trimmed_stops_reverse : Stops isBlank w.trimmed.chars.reverse := by
  cases unit : w.unit with
  | some u =>
    have last := u.stops_reverse (w.whole.chars ++ (DigitRow.pointed w.fraction ++ w.gap.1))
    simpa [chars, ending, trimmed, unit, UnitWord.charsOf, Blanks.none] using last
  | none =>
    cases fraction : w.fraction with
    | none =>
      have last := w.whole.stops_reverse []
      simpa [chars, ending, trimmed, unit, fraction, UnitWord.charsOf, DigitRow.pointed,
        Blanks.none] using last
    | some ds =>
      have last := ds.stops_reverse (w.whole.chars ++ ['.'])
      simpa [chars, ending, trimmed, unit, fraction, UnitWord.charsOf, DigitRow.pointed,
        Blanks.none] using last

theorem trimBy_chars : trimBy isBlank w.chars = w.trimmed.chars := by
  rw [chars_eq]
  exact trimBy_surrounded w.front.2 w.behind_blank (w.trimmed_stops _) w.trimmed_stops_reverse

theorem dropWhile_trimmed_ending :
    w.trimmed.ending.dropWhile isBlank = UnitWord.charsOf w.unit := by
  cases unit : w.unit with
  | none => simp [ending, trimmed, unit, UnitWord.charsOf, Blanks.none]
  | some u =>
    have dropped := dropWhile_run w.gap.2 (u.stops_append [])
    simpa [ending, trimmed, unit, UnitWord.charsOf, Blanks.none] using dropped

theorem readAmount?_trimmed :
    readAmount? w.trimmed.chars = some (w.amount, w.trimmed.ending) := by
  apply readAmount?_spelled w.whole w.fraction
  · exact w.trimmed.stops_ending (fun c => isDecimal_of_isBlank) ⟨by decide, by decide⟩
  · exact w.trimmed.ending_bare

end Spelling

theorem states_iff {s : String} {a : Amount} {scale : Scale} :
    States s a scale ↔
      ∃ w : Spelling, w.text = s ∧ w.amount = a ∧ UnitWord.scaleOf w.unit = scale := by
  constructor
  · rintro ⟨r, amount, unit⟩
    obtain ⟨front, back, surrounded, before, behind⟩ := exists_trimBy_eq isBlank s.toList
    obtain ⟨whole, fraction, spelled, rfl⟩ := spelled_of_readAmount? amount
    obtain ⟨word, letters, rfl⟩ := scale?_eq_some_iff.mp unit
    let w : Spelling := ⟨⟨front, before⟩, whole, fraction,
      ⟨r.takeWhile isBlank, fun c taken => List.mem_takeWhile_imp taken⟩, word, ⟨back, behind⟩⟩
    have chars : w.chars = s.toList := by
      have parted : r.takeWhile isBlank ++ UnitWord.charsOf word = r :=
        letters ▸ List.takeWhile_append_dropWhile
      rw [← surrounded, spelled, ← parted]
      simp [w, Spelling.chars, Spelling.ending]
    exact ⟨w, by rw [Spelling.text, chars, String.ofList_toList], rfl, rfl⟩
  · rintro ⟨w, rfl, rfl, rfl⟩
    refine ⟨w.trimmed.ending, ?_, ?_⟩
    · rw [Spelling.text, String.toList_ofList, w.trimBy_chars, w.readAmount?_trimmed]
    · exact scale?_eq_some_iff.mpr ⟨w.unit, w.dropWhile_trimmed_ending, rfl⟩

/-! ### Values -/

theorem Amount.toRat_spelled (w : Spelling) : w.amount.decimal.toRat = w.number := by
  have joined (vs us : List Nat) : (Text.ofDigits (vs ++ us) : ℚ) =
      Nat.ofDigits 10 vs.reverse * 10 ^ us.length + Nat.ofDigits 10 us.reverse := by
    rw [ofDigits_eq, List.reverse_append, Nat.ofDigits_append, List.length_reverse]
    push_cast
    ring
  unfold Spelling.number Spelling.amount Amount.spelled Amount.decimal
  rw [Decimal.toRat_eq, joined, zpow_neg, zpow_natCast]
  cases w.fraction with
  | none => simp [Nat.ofDigits]
  | some ds =>
    dsimp only [Option.elim_some]
    rw [show ds.values.length = ds.chars.length from length_filterMap_digit? ds.decimal]
    field_simp

theorem apply_scaleOf (unit : Option UnitWord) (x : Extended) :
    (UnitWord.scaleOf unit).apply x = if unit = some .ms then Binary64.divNat x 1000 else x := by
  unfold UnitWord.scaleOf
  split <;> rfl

theorem value_spelled (w : Spelling) :
    (UnitWord.scaleOf w.unit).apply w.amount.value =
      if w.unit = some .ms then Binary64.divNat (Binary64.round w.number) 1000
      else Binary64.round w.number := by
  have value : w.amount.value = Binary64.round w.number := by
    rw [← Amount.toRat_spelled]
    exact Decimal.round_eq w.amount.decimal
  rw [apply_scaleOf, value]

/-! ### Uniqueness -/

namespace Spelling

/-- The same parts. Behind a number without a unit, only all blanks together are compared. -/
structure SameParts (w v : Spelling) : Prop where
  front : w.front = v.front
  whole : w.whole = v.whole
  fraction : w.fraction = v.fraction
  unit : w.unit = v.unit
  blanks : w.gap.1 ++ w.back.1 = v.gap.1 ++ v.back.1
  apart : w.unit ≠ none → w.gap = v.gap ∧ w.back = v.back

theorem pointed_append_inj {f g : Option DigitRow} {rest rest' : List Char}
    (stops : Stops isDecimal rest) (stops' : Stops isDecimal rest')
    (bare : ∀ r, rest ≠ '.' :: r) (bare' : ∀ r, rest' ≠ '.' :: r)
    (same : DigitRow.pointed f ++ rest = DigitRow.pointed g ++ rest') : f = g ∧ rest = rest' := by
  cases f with
  | none =>
    cases g with
    | none => exact ⟨rfl, same⟩
    | some es => exact absurd same (bare _)
  | some ds =>
    cases g with
    | none => exact absurd same.symm (bare' _)
    | some es =>
      have behind : ds.chars ++ rest = es.chars ++ rest' := (List.cons.inj same).2
      obtain ⟨digits, rest⟩ := run_append_inj ds.decimal stops es.decimal stops' behind
      exact ⟨congrArg some (DigitRow.ext digits), rest⟩

/-- A unit is told apart from blanks by its letters. -/
theorem not_all_blank (u : UnitWord) (gap back : List Char) :
    ¬ ∀ c ∈ gap ++ (u.chars ++ back), isBlank c = true := by
  intro all
  obtain ⟨c, listed⟩ := List.exists_mem_of_ne_nil _ u.nonempty
  have blank := all c (List.mem_append_right _ (List.mem_append_left _ listed))
  rw [UnitWord.not_blank listed] at blank
  cases blank

theorem all_blank (gap back : Blanks) : ∀ c ∈ gap.1 ++ back.1, isBlank c = true := by
  intro c listed
  exact (List.mem_append.mp listed).elim (gap.2 c) (back.2 c)

theorem ending_inj {gap gap' back back' : Blanks} {unit unit' : Option UnitWord}
    (same : gap.1 ++ (UnitWord.charsOf unit ++ back.1) =
      gap'.1 ++ (UnitWord.charsOf unit' ++ back'.1)) :
    unit = unit' ∧ gap.1 ++ back.1 = gap'.1 ++ back'.1 ∧
      (unit ≠ none → gap = gap' ∧ back = back') := by
  cases unit with
  | none =>
    cases unit' with
    | none => exact ⟨rfl, same, fun bare => absurd rfl bare⟩
    | some u => exact absurd (same ▸ all_blank gap back) (not_all_blank u gap'.1 back'.1)
  | some u =>
    cases unit' with
    | none => exact absurd (same ▸ all_blank gap' back') (not_all_blank u gap.1 back.1)
    | some u' =>
      have letters (u : UnitWord) : ∀ c ∈ u.chars, (!isBlank c) = true := by
        intro c listed
        rw [UnitWord.not_blank listed]
        rfl
      have stops (back : Blanks) : Stops (fun c => !isBlank c) back.1 := by
        intro c head
        dsimp only
        rw [back.2 c (List.mem_of_mem_head? head)]
        rfl
      obtain ⟨blanks, rest⟩ :=
        run_append_inj gap.2 (u.stops_append back.1) gap'.2 (u'.stops_append back'.1) same
      obtain ⟨words, blanks'⟩ :=
        run_append_inj (letters u) (stops back) (letters u') (stops back') rest
      obtain rfl := UnitWord.chars_injective words
      obtain rfl : gap = gap' := Subtype.ext blanks
      obtain rfl : back = back' := Subtype.ext blanks'
      exact ⟨rfl, rfl, fun _ => ⟨rfl, rfl⟩⟩

theorem sameParts_of_text {w v : Spelling} (same : w.text = v.text) : w.SameParts v := by
  have chars : w.chars = v.chars := by
    simpa [text] using congrArg String.toList same
  have number (w : Spelling) : Stops isDecimal w.ending :=
    w.stops_ending (fun _ => isDecimal_of_isBlank) ⟨by decide, by decide⟩
  have point (w : Spelling) : Stops isDecimal (DigitRow.pointed w.fraction ++ w.ending) := by
    cases w.fraction with
    | none => exact number w
    | some ds => exact stops_cons.mpr (by decide)
  obtain ⟨front, rest⟩ := run_append_inj w.front.2 (w.whole.stops_append _) v.front.2
    (v.whole.stops_append _) chars
  obtain ⟨whole, rest⟩ := run_append_inj w.whole.decimal (point w) v.whole.decimal (point v) rest
  obtain ⟨fraction, rest⟩ :=
    pointed_append_inj (number w) (number v) w.ending_bare v.ending_bare rest
  obtain ⟨unit, blanks, apart⟩ := ending_inj rest
  exact ⟨Subtype.ext front, DigitRow.ext whole, fraction, unit, blanks, apart⟩

end Spelling

/-! ### Reading -/

theorem read_of_blank {default : Quantity} {s : String}
    (blank : ∀ c ∈ s.toList, isBlank c = true) : read default (some s) = .ok default := by
  unfold read
  dsimp only
  rw [trimBy_eq_nil_iff.mpr blank]

section

variable {default : Quantity} {s : String} (stated : ¬ ∀ c ∈ s.toList, isBlank c = true)
include stated

theorem read_eq_ok_iff_spelled {x : Quantity} :
    read default (some s) = .ok x ↔ ∃ w : Spelling, w.text = s ∧
      x = .real (if w.unit = some .ms then Binary64.divNat (Binary64.round w.number) 1000
        else Binary64.round w.number) := by
  rw [read_eq_ok_iff (mt trimBy_eq_nil_iff.mp stated)]
  constructor
  · rintro ⟨a, scale, states, rfl⟩
    obtain ⟨w, text, rfl, rfl⟩ := states_iff.mp states
    exact ⟨w, text, congrArg _ (value_spelled w)⟩
  · rintro ⟨w, text, rfl⟩
    refine ⟨w.amount, UnitWord.scaleOf w.unit, states_iff.mpr ⟨w, text, rfl, rfl⟩, ?_⟩
    rw [value_spelled]

theorem read_eq_error_iff {f : Fault} :
    read default (some s) = .error f ↔ (¬ ∃ w : Spelling, w.text = s) ∧ f = ⟨s⟩ := by
  have nonblank : trimBy isBlank s.toList ≠ [] := mt trimBy_eq_nil_iff.mp stated
  have outcome := @read_of_stated default s nonblank
  cases denoted : seconds? (trimBy isBlank s.toList) with
  | some x =>
    rw [denoted] at outcome
    obtain ⟨w, text, -⟩ := (read_eq_ok_iff_spelled stated).mp outcome
    rw [outcome]
    exact iff_of_false nofun fun ⟨unspelled, _⟩ => unspelled ⟨w, text⟩
  | none =>
    rw [denoted] at outcome
    have unspelled : ¬ ∃ w : Spelling, w.text = s := by
      rintro ⟨w, text⟩
      have accepted := (@read_eq_ok_iff_spelled default s stated _).mpr ⟨w, text, rfl⟩
      rw [outcome] at accepted
      cases accepted
    rw [outcome, Except.error.injEq, eq_comm]
    exact (and_iff_right unspelled).symm

end

/-- Without a text, and for a blank one, the default is taken as it is. Any other text is read
exactly if it is spelled as a delay, and its value is the number that is spelled, rounded to a
double, and divided by a thousand exactly behind `ms`; else the text is told to be no delay. It is
spelled in one way only, but that blanks behind a bare number may be parted anywhere. -/
theorem read_spelled (default : Quantity) :
    read default none = .ok default ∧ ∀ s : String,
      ((∀ c ∈ s.toList, isBlank c = true) → read default (some s) = .ok default) ∧
      (¬ (∀ c ∈ s.toList, isBlank c = true) →
        (∀ x, read default (some s) = .ok x ↔ ∃ w : Spelling, w.text = s ∧
          x = .real (if w.unit = some .ms then Binary64.divNat (Binary64.round w.number) 1000
            else Binary64.round w.number)) ∧
        (∀ f, read default (some s) = .error f ↔ (¬ ∃ w : Spelling, w.text = s) ∧ f = ⟨s⟩)) ∧
      (∀ w v : Spelling, w.text = s → v.text = s → w.SameParts v) ∧
      Fault.message ⟨s⟩ = "Invalid delay: " ++ s := by
  refine ⟨rfl, fun s => ⟨read_of_blank, ?_, ?_, rfl⟩⟩
  · intro stated
    exact ⟨fun x => read_eq_ok_iff_spelled stated, fun f => read_eq_error_iff stated⟩
  · intro w v same same'
    exact Spelling.sameParts_of_text (same.trans same'.symm)

/-- Digits of any script may be mixed; a point asks for digits behind it. -/
theorem read_spelled_mixed_digits :
    (¬ ∀ c ∈ " ٣0 ms".toList, isBlank c = true) ∧
      (∃ w : Spelling, w.text = " ٣0 ms" ∧
        Quantity.real (Binary64.divNat (.rational 30) 1000) =
          .real (if w.unit = some .ms then Binary64.divNat (Binary64.round w.number) 1000
            else Binary64.round w.number)) ∧
      (¬ ∀ c ∈ "30.ms".toList, isBlank c = true) ∧ ¬ ∃ w : Spelling, w.text = "30.ms" := by
  have stated : ¬ ∀ c ∈ " ٣0 ms".toList, isBlank c = true :=
    fun blank => absurd (blank 'm' (by decide)) (by decide)
  have stated' : ¬ ∀ c ∈ "30.ms".toList, isBlank c = true :=
    fun blank => absurd (blank 'm' (by decide)) (by decide)
  have accepted : read (.whole 0) (some " ٣0 ms") =
      .ok (.real (Binary64.divNat (.rational 30) 1000)) := by decide +kernel
  have refused : read (.whole 0) (some "30.ms") = .error ⟨"30.ms"⟩ := by decide +kernel
  have rules := (read_spelled (.whole 0)).2
  exact ⟨stated, (((rules _).2.1 stated).1 _).mp accepted, stated',
    ((((rules _).2.1 stated').2 _).mp refused).1⟩

/-- The blank behind a bare number may be taken for the one in front of a unit that is not there, or
for the one behind it. -/
theorem blank_parted_in_two_ways :
    (¬ ∀ c ∈ "5 ".toList, isBlank c = true) ∧ (∃ x, read (.whole 0) (some "5 ") = .ok x) ∧
      ∃ w v : Spelling, w.text = "5 " ∧ v.text = "5 " ∧ w ≠ v := by
  let five : DigitRow := ⟨['5'], List.cons_ne_nil _ _, List.forall_mem_singleton.mpr (by decide)⟩
  let blank : Blanks := ⟨[' '], List.forall_mem_singleton.mpr (by decide)⟩
  have accepted : read (.whole 0) (some "5 ") = .ok (.real (.rational 5)) := by decide +kernel
  refine ⟨fun blank => absurd (blank '5' (by decide)) (by decide), ⟨_, accepted⟩, ?_⟩
  refine ⟨⟨.none, five, none, blank, none, .none⟩, ⟨.none, five, none, .none, none, blank⟩, rfl,
    rfl, ?_⟩
  intro same
  cases congrArg (·.gap.1) same

end BuildIntake.Delay
