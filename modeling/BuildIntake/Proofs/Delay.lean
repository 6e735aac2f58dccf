import BuildIntake.Delay
import BuildIntake.Proofs.Queue.Leaving

/-!
# What delays come to

A delay that is asked for is never negative. It is finite if the number that is written lies below
the limit of the doubles. The item that is created for it leaves at some finite reading of the
clock, unless the delay, or the reading that it is added to, lies so far out that the sum reaches
the limit as well; then the item waits forever.
-/

namespace BuildIntake.Delay

open Number Queue

/-- The number that the digits denote. -/
def Amount.decimal (a : Amount) : Decimal :=
  ⟨Text.ofDigits (a.whole ++ a.fraction), -(a.fraction.length : Int)⟩

/-- The text gives an amount and the unit that it is counted in. -/
def States (s : String) (a : Amount) (scale : Scale) : Prop :=
  ∃ r, readAmount? (Text.trimBy Text.isBlank s.toList) = some (a, r) ∧
    scale? (r.dropWhile Text.isBlank) = some scale

theorem seconds?_eq_some_iff {cs : List Char} {x : Extended} :
    seconds? cs = some x ↔
      ∃ a r scale, readAmount? cs = some (a, r) ∧ scale? (r.dropWhile Text.isBlank) = some scale ∧
        scale.apply a.value = x := by
  simp only [seconds?, Option.bind_eq_bind, Option.bind_eq_some_iff, Prod.exists, Option.pure_def,
    Option.some.injEq, exists_and_left]

theorem read_of_stated {default : Quantity} {s : String}
    (stated : Text.trimBy Text.isBlank s.toList ≠ []) :
    read default (some s) = match seconds? (Text.trimBy Text.isBlank s.toList) with
      | some x => .ok (.real x)
      | none => .error ⟨s⟩ := by
  unfold read
  dsimp only
  split
  case h_1 blank => exact absurd blank stated
  case h_2 => rfl

/-- A text that is not blank is read as a delay exactly if it gives an amount and a unit. -/
theorem read_eq_ok_iff {default : Quantity} {s : String} {delay : Quantity}
    (stated : Text.trimBy Text.isBlank s.toList ≠ []) :
    read default (some s) = .ok delay ↔
      ∃ a scale, States s a scale ∧ delay = .real (scale.apply a.value) := by
  rw [read_of_stated stated]
  constructor
  · intro asked
    cases given : seconds? (Text.trimBy Text.isBlank s.toList) with
    | none =>
      rw [given] at asked
      cases asked
    | some x =>
      rw [given] at asked
      cases asked
      obtain ⟨a, r, scale, amount, unit, value⟩ := seconds?_eq_some_iff.mp given
      exact ⟨a, scale, ⟨r, amount, unit⟩, congrArg _ value.symm⟩
  · rintro ⟨a, scale, ⟨r, amount, unit⟩, rfl⟩
    rw [seconds?_eq_some_iff.mpr ⟨a, r, scale, amount, unit, rfl⟩]

/-! ### Values -/

/-- Below the limit, a delay is a finite number of seconds that is not negative. -/
theorem value_of_lt (scale : Scale) {a : Amount} (small : a.decimal.toRat < Binary64.limit) :
    ∃ q, (scale.apply a.value).toRat? = some q ∧ 0 ≤ q ∧ q < Binary64.limit := by
  obtain ⟨q, nonneg, within, value⟩ := Decimal.round_of_lt small false
  cases scale with
  | seconds => exact ⟨q, value, nonneg, within⟩
  | milliseconds => exact Binary64.divNat_of_lt value nonneg within (by decide)

/-- From the limit on, a delay is infinite, whatever its unit. -/
theorem value_of_le (scale : Scale) {a : Amount} (large : Binary64.limit ≤ a.decimal.toRat) :
    scale.apply a.value = .infinite false := by
  have value : a.value = .infinite false := Decimal.round_of_le large false
  rw [value]
  cases scale <;> rfl

theorem value_cases (scale : Scale) (a : Amount) :
    (∃ q, (scale.apply a.value).toRat? = some q ∧ 0 ≤ q ∧ q < Binary64.limit) ∨
      scale.apply a.value = .infinite false := by
  rcases lt_or_ge a.decimal.toRat Binary64.limit with small | large
  · exact .inl (value_of_lt scale small)
  · exact .inr (value_of_le scale large)

theorem value_isFinite_iff (scale : Scale) (a : Amount) :
    (scale.apply a.value).IsFinite ↔ a.decimal.toRat < Binary64.limit := by
  constructor
  · intro finite
    by_contra large
    rw [value_of_le scale (not_lt.mp large)] at finite
    cases finite
  · intro small
    obtain ⟨q, value, -⟩ := value_of_lt scale small
    unfold Extended.IsFinite
    rw [value]
    rfl

theorem zero_le_value (scale : Scale) (a : Amount) : Extended.zero ≤ scale.apply a.value := by
  rcases value_cases scale a with ⟨q, value, nonneg, -⟩ | infinite
  · exact (Extended.le_iff rfl value).mpr nonneg
  · rw [infinite]
    trivial

/-! ### Due times -/

/-- The reading and the delay add up to less than the limit. -/
def FallsDue (now : Quantity) (x : Extended) : Prop :=
  ∃ p q, now.toBinary64.toRat? = some p ∧ x.toRat? = some q ∧ p + q < Binary64.limit

section

variable {now : Quantity} {x : Extended} (finite : now.InRange)
  (value : (∃ q, x.toRat? = some q ∧ 0 ≤ q ∧ q < Binary64.limit) ∨ x = .infinite false)
include finite value

theorem add_of_fallsDue (falls : FallsDue now x) :
    ∃ r, (Binary64.add now.toBinary64 x).toRat? = some r ∧ |r| < Binary64.limit := by
  obtain ⟨p, q, reading, delay, below⟩ := falls
  obtain ⟨p', reading', small⟩ := finite.toBinary64
  obtain rfl : p' = p := Option.some.inj (reading'.symm.trans reading)
  rcases value with ⟨q', delay', nonneg, -⟩ | infinite
  · obtain rfl : q' = q := Option.some.inj (delay'.symm.trans delay)
    refine Binary64.add_of_lt reading delay (abs_lt.mpr ⟨?_, below⟩)
    linarith [neg_lt_of_abs_lt small]
  · rw [infinite] at delay
    cases delay

theorem add_of_not_fallsDue (falls : ¬ FallsDue now x) :
    Binary64.add now.toBinary64 x = .infinite false := by
  obtain ⟨p, reading, -⟩ := finite.toBinary64
  rcases value with ⟨q, delay, -⟩ | infinite
  · refine Binary64.add_of_le reading delay (not_lt.mp fun below => ?_)
    exact falls ⟨p, q, reading, delay, below⟩
  · rw [infinite]
    cases held : now.toBinary64 with
    | nan => cases held ▸ reading
    | infinite => cases held ▸ reading
    | negativeZero => rfl
    | rational => rfl

end

theorem toBinary64_add_real (now : Quantity) (x : Extended) :
    (now + Quantity.real x).toBinary64 = Binary64.add now.toBinary64 x := by
  cases now <;> rfl

/-- What is asked for is not negative, and finite below the limit. Added to a finite reading of the
clock, it makes its item leave from some finite reading on, unless their sum reaches the limit; in
that case the item waits forever. -/
theorem asked_delay_ends {default : Quantity} {s : String} {delay : Quantity}
    (stated : Text.trimBy Text.isBlank s.toList ≠ [])
    (asked : read default (some s) = .ok delay) :
    ∃ a scale x, States s a scale ∧ x = scale.apply a.value ∧ delay = .real x ∧
      Extended.zero ≤ x ∧ (x.IsFinite ↔ a.decimal.toRat < Binary64.limit) ∧
      ∀ (cs : List Call) (c : Call) (i : Item), c.delay = delay → c.now.InRange →
        (Trace.of cs).queue.answer c = .created i →
        (FallsDue c.now x →
          ∃ t : Quantity, t.InRange ∧ c.now ≤ t ∧ Trace.LeavesFrom (cs ++ [c]) i t) ∧
        (¬ FallsDue c.now x → Trace.StaysForever (cs ++ [c]) i) := by
  obtain ⟨a, scale, states, rfl⟩ := (read_eq_ok_iff stated).mp asked
  refine ⟨a, scale, _, states, rfl, rfl, zero_le_value scale a, value_isFinite_iff scale a, ?_⟩
  intro cs c i delayed finite created
  have value := value_cases scale a
  have due : i.due = Binary64.add c.now.toBinary64 (scale.apply a.value) := by
    rw [eq_item_of_created created, ← toBinary64_add_real, ← delayed]
    rfl
  have waits : i ∈ (Trace.of (cs ++ [c])).queue.waiting := by
    rw [Trace.of_concat]
    exact ((Trace.coherent_of cs).answered_waits (.inr created)).1
  constructor
  · intro falls
    obtain ⟨r, sum, within⟩ := add_of_fallsDue finite value falls
    obtain ⟨t, reading, later, reached⟩ := Item.exists_due_reading finite (due ▸ sum) within
    have known := ((Trace.coherent_of _).mem_waiting.mp waits).1
    exact ⟨t, reading, later, Trace.leavesFrom_of_due known reached⟩
  · intro falls
    have never := due.trans (add_of_not_fallsDue finite value falls)
    exact Trace.staysForever_of_never_due waits fun now finite =>
      Item.not_isDue_of_infinite finite never

/-- A quarter of a second, asked for on an empty queue. -/
theorem asked_delay_ends_quarter :
    let job : Job := ⟨"build", false, none, .nil⟩
    let c : Call := ⟨.whole 1000, job, .real (.rational (1 / 4)), []⟩
    read (.whole 0) (some " 250 ms") = .ok c.delay ∧
      (Trace.of []).queue.answer c = .created (c.item 1) ∧
      ∃ t : Quantity, t.InRange ∧ c.now ≤ t ∧ Trace.LeavesFrom [c] (c.item 1) t := by
  intro job c
  have stated : Text.trimBy Text.isBlank " 250 ms".toList ≠ [] := by decide +kernel
  have asked : read (.whole 0) (some " 250 ms") = .ok c.delay := by decide +kernel
  have created : (Trace.of []).queue.answer c = .created (c.item 1) := rfl
  have reading : c.now.toBinary64.toRat? = some 1000 := by decide +kernel
  have far : (2 : ℚ) ^ (10 : ℤ) < Binary64.limit :=
    (zpow_lt_zpow_right₀ one_lt_two (by decide)).trans Binary64.lt_limit
  have finite : c.now.InRange := by
    refine ⟨1000, rfl, lt_trans ?_ far⟩
    norm_num
  obtain ⟨a, scale, x, -, -, delayed, -, -, ends⟩ := asked_delay_ends stated asked
  obtain rfl : Extended.rational (1 / 4) = x := Quantity.real.inj delayed
  have falls : FallsDue c.now (.rational (1 / 4)) := by
    refine ⟨1000, 1 / 4, reading, rfl, lt_trans ?_ far⟩
    norm_num
  exact ⟨asked, created, (ends [] c _ rfl finite created).1 falls⟩

/-- Ten to the power of 309 is read as a delay without end. -/
theorem endless_delay :
    let s := String.ofList ('1' :: List.replicate 309 '0')
    let job : Job := ⟨"build", false, none, .nil⟩
    let c : Call := ⟨.whole 1000, job, .real (.infinite false), []⟩
    read (.whole 0) (some s) = .ok c.delay ∧ ¬ c.delay.exact.IsFinite ∧
      (Trace.of []).queue.answer c = .created (c.item 1) ∧
      Trace.StaysForever [c] (c.item 1) := by
  intro s job c
  have chars : s.toList = '1' :: List.replicate 309 '0' := String.toList_ofList
  have stated : Text.trimBy Text.isBlank s.toList ≠ [] := by
    rw [chars]
    decide +kernel
  have states : States s ⟨1 :: List.replicate 309 0, []⟩ .seconds := by
    refine ⟨[], ?_, rfl⟩
    rw [chars]
    decide +kernel
  have value : Amount.value ⟨1 :: List.replicate 309 0, []⟩ = .infinite false := by decide +kernel
  have created : (Trace.of []).queue.answer c = .created (c.item 1) := rfl
  have due : (c.item 1).due = .infinite false := by decide +kernel
  refine ⟨?_, by decide, created, ?_⟩
  · exact (read_eq_ok_iff stated).mpr ⟨_, _, states, congrArg Quantity.real value.symm⟩
  · have waits := ((Trace.coherent_of []).answered_waits (.inr created)).1
    rw [← Trace.of_concat] at waits
    refine Trace.staysForever_of_never_due waits fun now finite => ?_
    exact Item.not_isDue_of_infinite finite due

end BuildIntake.Delay
