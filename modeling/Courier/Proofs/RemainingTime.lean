import Courier.Proofs.Saturation
import Courier.Proofs.Sweeping

/-!
# What remains of a cooldown

The time that remains is not only told, it is kept: a message that has so long to wait is ready exactly
when that much time has passed, be it by a nanosecond, and not before. It holds at the end of time as
well, where the clock stops at the same instant at which the longest cooldowns end.

* `Instant.until?_eq_some_iff`: what a distance to a later instant is;
* `Instant.until?_after`: it gets shorter by what passes, and none is left once that is as long;
* `Cooldowns.InCalendar`: the clock and all expirations are instants of the calendar;
* `InCalendar.perform`, `InCalendar.after`: so they stay, operation by operation and over a run;
* `Cooldowns.Reachable`: what runs lead to;
* `InCalendar.remaining?_advance`: what remains after the clock has moved;
* `remaining_foretells_end`: so what remains now says when the message is ready.
-/

namespace Courier

namespace Duration

instance : LT Duration := ⟨fun d e => d.nanoseconds < e.nanoseconds⟩

instance (d e : Duration) : Decidable (d < e) :=
  inferInstanceAs (Decidable (d.nanoseconds < e.nanoseconds))

instance (d e : Duration) : Decidable (d ≤ e) :=
  inferInstanceAs (Decidable (d.nanoseconds ≤ e.nanoseconds))

instance : Sub Duration := ⟨fun d e => ⟨d.nanoseconds - e.nanoseconds⟩⟩

theorem lt_def (d e : Duration) : d < e ↔ d.nanoseconds < e.nanoseconds := Iff.rfl

theorem nanoseconds_sub (d e : Duration) : (d - e).nanoseconds = d.nanoseconds - e.nanoseconds := rfl

theorem not_lt {d e : Duration} : ¬ d < e ↔ e ≤ d := Nat.not_lt

/-- What is left of a duration when some time has passed; none if that is as long. -/
def left? (d passed : Duration) : Option Duration :=
  if passed < d then some (d - passed) else none

theorem left?_eq_none_iff {d passed : Duration} : d.left? passed = none ↔ d ≤ passed := by
  rw [left?]
  split
  · rename_i hlt
    exact iff_of_false (Option.some_ne_none _) (Nat.not_le.2 hlt)
  · rename_i hnot
    exact iff_of_true rfl (not_lt.1 hnot)

end Duration

namespace Instant

variable {i j : Instant} {d : Duration}

/-- The time to an instant is what has to be added, and more than nothing. -/
theorem until?_eq_some_iff :
    i.until? j = some d ↔ d ≠ .zero ∧ j.nanoseconds = i.nanoseconds + d.nanoseconds := by
  rw [← Duration.nanoseconds_pos_iff, until?]
  split
  · rename_i hlt
    rw [lt_def] at hlt
    obtain ⟨n⟩ := d
    simp only [Option.some.injEq, Duration.mk.injEq]
    omega
  · rename_i hnot
    rw [lt_def] at hnot
    simp only [reduceCtorEq, false_iff]
    omega

theorem until?_eq_none_iff : i.until? j = none ↔ j ≤ i := by
  rw [until?]
  split
  · rename_i hlt
    exact iff_of_false (Option.some_ne_none _) (Int.not_le.2 hlt)
  · rename_i hnot
    exact iff_of_true rfl (Int.not_lt.1 hnot)

/-- The time to an instant of the calendar gets shorter by the time that passes, also where the clock
stops at the last instant. -/
theorem until?_after (hi : i.InRange) (hj : j ≤ last) (passed : Duration) :
    (i.after passed).until? j = (i.until? j).bind fun d => d.left? passed := by
  have hafter := nanoseconds_after hi passed
  rw [le_def] at hj
  cases huntil : i.until? j with
  | none =>
    have hle : j ≤ i := until?_eq_none_iff.1 huntil
    exact until?_eq_none_iff.2 (le_trans hle (le_after hi passed))
  | some d =>
    obtain ⟨-, hsum⟩ := until?_eq_some_iff.1 huntil
    show _ = d.left? passed
    rw [Duration.left?]
    split
    · rename_i hlt
      rw [Duration.lt_def] at hlt
      rw [until?_eq_some_iff, ← Duration.nanoseconds_pos_iff, Duration.nanoseconds_sub]
      omega
    · rename_i hnot
      rw [Duration.lt_def] at hnot
      rw [until?_eq_none_iff, le_def]
      omega

end Instant

namespace Cooldowns

variable {c : Cooldowns} {recipient : Recipient} {record : Record}

/-! ### Cooldowns in the calendar -/

/-- The clock and all expirations are instants of the calendar. -/
structure InCalendar (c : Cooldowns) : Prop where
  now : c.now.InRange
  expirations : ∀ slot expires, c.expiration? slot = some expires → expires.InRange

/-- A clock is only set to instants of the calendar. -/
def Operation.InCalendar : Operation → Prop
  | .setNow now => now.InRange
  | _ => True

theorem Operation.InCalendar.clock {op : Operation} (hop : op.InCalendar) {now : Instant}
    (hnow : now.InRange) : (op.clock now).InRange := by
  cases op with
  | advance step => exact Instant.inRange_after hnow step
  | setNow later => exact hop
  | start recipient record => exact hnow
  | isReady recipient record => exact hnow
  | remaining recipient record => exact hnow
  | clear => exact hnow
  | sweep => exact hnow

theorem inCalendar_fresh {start : Instant} (hstart : start.InRange) : (fresh start).InCalendar where
  now := hstart
  expirations := fun _ _ hkept => by cases hkept

/-- What an operation sets is in the calendar, since a delay ends at the last instant at the latest. -/
theorem InCalendar.perform (h : c.InCalendar) {op : Operation} (hop : op.InCalendar) :
    (c.perform op).InCalendar where
  now := by
    rw [now_perform]
    exact hop.clock h.now
  expirations := by
    intro slot expires hkept
    rcases expiration?_perform hkept with hkept | ⟨_, record, -, -, -, -, rfl⟩
    · exact h.expirations slot expires hkept
    · exact Instant.inRange_after h.now record.delay

theorem InCalendar.after (h : c.InCalendar) {run : List Operation}
    (hrun : ∀ op ∈ run, op.InCalendar) : (c.after run).InCalendar := by
  induction run generalizing c with
  | nil => exact h
  | cons op run ih =>
    obtain ⟨hop, hrest⟩ := List.forall_mem_cons.1 hrun
    exact ih (h.perform hop) hrest

/-- What a run from fresh cooldowns leads to, on a clock that starts in the calendar and is never set
outside it. -/
def Reachable (c : Cooldowns) : Prop :=
  ∃ start run, start.InRange ∧ (∀ op ∈ run, op.InCalendar) ∧ c = (fresh start).after run

theorem Reachable.inCalendar (h : c.Reachable) : c.InCalendar := by
  obtain ⟨start, run, hstart, hrun, rfl⟩ := h
  exact (inCalendar_fresh hstart).after hrun

/-! ### Readings before and after -/

/-- A record with a delay is ready exactly when nothing remains. -/
theorem isReady_iff_remaining?_eq_none (hdelay : record.delay ≠ .zero) :
    c.isReady recipient record = true ↔ c.remaining? recipient record = none :=
  readings_agree_iff.2 (.inl (Record.hasCooldown_iff.2 hdelay))

/-- When nothing remains every record is ready. -/
theorem isReady_of_remaining?_eq_none (h : c.remaining? recipient record = none) :
    c.isReady recipient record = true := by
  rw [isReady_eq, remaining?_eq_none_iff.1 h, Option.isNone_none, Bool.or_true]

theorem pos_of_remaining? {d : Duration} (h : c.remaining? recipient record = some d) :
    .zero < d := by
  rw [remaining?_eq] at h
  obtain ⟨expires, -, huntil⟩ := Option.bind_eq_some_iff.1 h
  exact Duration.nanoseconds_pos_iff.2 (Instant.until?_eq_some_iff.1 huntil).1

/-- **What remains gets shorter by what passes.** -/
theorem InCalendar.remaining?_advance (h : c.InCalendar) (recipient : Recipient) (record : Record)
    (passed : Duration) :
    (c.advance passed).remaining? recipient record =
      (c.remaining? recipient record).bind fun d => d.left? passed := by
  show (Slot.of? recipient record.key).bind (fun slot =>
      (c.expiration? slot).bind (c.now.after passed).until?) =
    ((Slot.of? recipient record.key).bind fun slot => (c.expiration? slot).bind c.now.until?).bind _
  cases Slot.of? recipient record.key with
  | none => rfl
  | some slot =>
    simp only [Option.bind_some]
    cases hkept : c.expiration? slot with
    | none => rfl
    | some expires => exact Instant.until?_after h.now (h.expirations slot expires hkept).2 passed

/-- **What remains foretells the end of a cooldown,** to the nanosecond. Where time remains for a message
there is some, and whatever time passes then, a record with a delay is ready exactly if it was as long,
and what remains is the difference or nothing. Where none remains the message is ready and stays so. -/
theorem remaining_foretells_end (h : c.Reachable) (recipient : Recipient) (record : Record)
    (passed : Duration) :
    (∀ d, c.remaining? recipient record = some d →
      .zero < d ∧
      (record.delay ≠ .zero →
        ((c.advance passed).isReady recipient record = true ↔ d ≤ passed)) ∧
      (passed < d → (c.advance passed).remaining? recipient record = some (d - passed)) ∧
      (d ≤ passed → (c.advance passed).remaining? recipient record = none)) ∧
    (c.remaining? recipient record = none →
      c.isReady recipient record = true ∧
      (c.advance passed).isReady recipient record = true ∧
      (c.advance passed).remaining? recipient record = none) := by
  have hadvance := h.inCalendar.remaining?_advance recipient record passed
  refine ⟨fun d hd => ?_, fun hnone => ?_⟩
  · rw [hd, Option.bind_some] at hadvance
    refine ⟨pos_of_remaining? hd, fun hdelay => ?_, fun hlt => ?_, fun hle => ?_⟩
    · rw [isReady_iff_remaining?_eq_none hdelay, hadvance, Duration.left?_eq_none_iff]
    · rw [hadvance, Duration.left?, if_pos hlt]
    · rw [hadvance, Duration.left?_eq_none_iff.2 hle]
  · rw [hnone, Option.bind_none] at hadvance
    exact ⟨isReady_of_remaining?_eq_none hnone, isReady_of_remaining?_eq_none hadvance, hadvance⟩

/-- The clock stands a minute before the last instant when a message begins to wait that is never to
be repeated, and 45 seconds pass. -/
def lastMinute : Cooldowns :=
  (fresh .epoch).after
    [.setNow ⟨Instant.last.nanoseconds - 60000000000⟩,
      .start guest { hint with delay := .longestStep }, .advance (.ofSeconds 45 0)]

/-- The message is ready when the clock stops, and a nanosecond earlier it is not. -/
theorem last_minute_runs_off :
    lastMinute.Reachable ∧
    lastMinute.remaining? guest { hint with delay := .longestStep } = some (.ofSeconds 15 0) ∧
    (lastMinute.advance (.ofSeconds 14 999999999)).remaining? guest
      { hint with delay := .longestStep } = some (.ofSeconds 0 1) ∧
    (lastMinute.advance (.ofSeconds 14 999999999)).isReady guest
      { hint with delay := .longestStep } = false ∧
    (lastMinute.advance (.ofSeconds 18446744073709551615 0)).isReady guest
      { hint with delay := .longestStep } = true ∧
    (fresh .epoch).remaining? guest hint = none ∧
    ((fresh .epoch).advance .longestStep).isReady guest hint = true := by
  have hreachable : lastMinute.Reachable := by
    refine ⟨.epoch, _, by decide, ?_, rfl⟩
    simp only [List.forall_mem_cons, Operation.InCalendar, true_and]
    exact ⟨by decide, by simp⟩
  have hfresh : (fresh .epoch).Reachable := ⟨.epoch, [], by decide, by simp, rfl⟩
  have hdelay : ({ hint with delay := .longestStep } : Record).delay ≠ .zero := by decide
  have hremains : lastMinute.remaining? guest { hint with delay := .longestStep } =
      some (.ofSeconds 15 0) := by decide +kernel
  have hnone : (fresh .epoch).remaining? guest hint = none := rfl
  obtain ⟨hbefore, -⟩ := remaining_foretells_end hreachable guest { hint with delay := .longestStep }
    (.ofSeconds 14 999999999)
  obtain ⟨hstopped, -⟩ := remaining_foretells_end hreachable guest { hint with delay := .longestStep }
    (.ofSeconds 18446744073709551615 0)
  obtain ⟨-, hstays⟩ := remaining_foretells_end hfresh guest hint .longestStep
  obtain ⟨-, hnotYet, hleft, -⟩ := hbefore _ hremains
  obtain ⟨-, hready, -, -⟩ := hstopped _ hremains
  refine ⟨hreachable, hremains, hleft (by decide), ?_, (hready hdelay).2 (by decide), hnone,
    (hstays hnone).2.1⟩
  rw [← Bool.not_eq_true, hnotYet hdelay]
  decide

end Cooldowns

end Courier
