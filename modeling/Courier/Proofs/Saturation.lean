import Courier.Cooldowns

/-!
# Time that stops at its last instant

The clock is moved in two stages, each with a limit of its own: a step has a greatest length, and there is
a last instant. The first limit is never felt. From every instant of the calendar, even from the first one,
the longest step leads past the last instant, so that what counts is the exact sum, cut at that instant.

* `Instant.after_after`, `Instant.after_le_after`: cut sums add up and keep their order;
* `Instant.lt_after_iff`: when time moves at all;
* `Cooldowns.foldl_advance`: many moves of the clock are one;
* `Cooldowns.times_cut_exactly`: so the clock and the ends of delays are what exact addition makes them, up
  to the last instant.
-/

namespace Courier

namespace Duration

instance : Zero Duration := ⟨zero⟩

instance : Add Duration := ⟨fun d e => ⟨d.nanoseconds + e.nanoseconds⟩⟩

instance : LE Duration := ⟨fun d e => d.nanoseconds ≤ e.nanoseconds⟩

theorem nanoseconds_add (d e : Duration) : (d + e).nanoseconds = d.nanoseconds + e.nanoseconds := rfl

theorem le_def (d e : Duration) : d ≤ e ↔ d.nanoseconds ≤ e.nanoseconds := Iff.rfl

theorem nanoseconds_pos_iff {d : Duration} : 0 < d.nanoseconds ↔ d ≠ zero := by
  obtain ⟨n⟩ := d
  simp [zero, Nat.pos_iff_ne_zero]

end Duration

namespace Instant

variable {i : Instant} {d e : Duration}

theorem after_eq (h : i.InRange) (d : Duration) :
    i.after d = ⟨min (i.nanoseconds + d.nanoseconds) last.nanoseconds⟩ :=
  congrArg mk (nanoseconds_after h d)

theorem after_zero (h : i.InRange) : i.after 0 = i := by
  have hlast := (le_def _ _).1 h.2
  have hzero : (0 : Duration).nanoseconds = 0 := rfl
  rw [after_eq h, hzero]
  refine congrArg mk ?_
  omega

/-- A sum that is cut on the way is cut at the end as well. -/
theorem after_after (h : i.InRange) (d e : Duration) : (i.after d).after e = i.after (d + e) := by
  rw [after_eq (inRange_after h d), nanoseconds_after h, after_eq h, Duration.nanoseconds_add]
  refine congrArg mk ?_
  omega

theorem after_le_after (h : i.InRange) (hde : d ≤ e) : i.after d ≤ i.after e := by
  rw [Duration.le_def] at hde
  rw [le_def, nanoseconds_after h, nanoseconds_after h]
  omega

/-- Time moves, however little, until it is at its end. -/
theorem lt_after_iff (h : i.InRange) : i < i.after d ↔ d ≠ .zero ∧ i < last := by
  rw [← Duration.nanoseconds_pos_iff, lt_def, lt_def, nanoseconds_after h]
  omega

end Instant

namespace Cooldowns

variable {c : Cooldowns} {recipient : Recipient} {record : Record}

theorem advance_advance (hnow : c.now.InRange) (d e : Duration) :
    (c.advance d).advance e = c.advance (d + e) := by
  show ({ c with now := (c.now.after d).after e } : Cooldowns) = { c with now := c.now.after (d + e) }
  rw [Instant.after_after hnow]

/-- **Many moves of the clock are one**, by all their lengths together. -/
theorem foldl_advance (hnow : c.now.InRange) (steps : List Duration) :
    steps.foldl advance c = c.advance steps.sum := by
  induction steps generalizing c with
  | nil =>
    show c = { c with now := c.now.after 0 }
    rw [Instant.after_zero hnow]
  | cons d steps ih =>
    -- Sums add up only within the calendar, which the first step does not leave.
    have hmoved : (c.advance d).now.InRange := Instant.inRange_after hnow d
    rw [List.foldl_cons, ih hmoved, advance_advance hnow, List.sum_cons]

/-- What a start sets under a record with a delay, for a recipient with an identifier. -/
theorem expiration?_start_own {u : Uuid} (hid : recipient.id? = some u) (hdelay : record.delay ≠ .zero) :
    (c.start recipient record).expiration? ⟨u, record.key⟩ = some (c.now.after record.delay) := by
  rw [expiration?_start, if_pos ⟨hid, rfl, Record.hasCooldown_iff.2 hdelay⟩]

/-- Right after a start the record waits, unless there is no time left to wait in. -/
theorem isReady_start_eq_false_iff (hnow : c.now.InRange) {u : Uuid} (hid : recipient.id? = some u)
    (hdelay : record.delay ≠ .zero) :
    (c.start recipient record).isReady recipient record = false ↔ c.now < Instant.last := by
  have hwait : c.now < c.now.after record.delay ↔ c.now < Instant.last := by
    rw [Instant.lt_after_iff hnow]
    exact and_iff_right hdelay
  rw [isReady_eq_false_iff hid (Record.hasCooldown_iff.2 hdelay), expiration?_start_own hid hdelay,
    now_start, ← hwait]
  simp

/-- **The clock and the ends of delays are what exact addition makes them, up to the last instant.** From
every instant of the calendar a start under a record with a delay sets the end of that delay, and a step
moves the clock by its length, cut at the last instant in both cases and nowhere else. So steps add up,
time never goes back, a longer delay never ends earlier, and a record that was just started waits unless
the clock already stands at the last instant. -/
theorem times_cut_exactly (hnow : c.now.InRange) :
    (∀ recipient record slot, (c.start recipient record).expiration? slot =
      if recipient.id? = some slot.recipient ∧ record.key = slot.message ∧ record.delay ≠ .zero then
        some ⟨min (c.now.nanoseconds + record.delay.nanoseconds) Instant.last.nanoseconds⟩
      else c.expiration? slot) ∧
    (∀ d, c.advance d =
      { c with now := ⟨min (c.now.nanoseconds + d.nanoseconds) Instant.last.nanoseconds⟩ }) ∧
    (∀ d, c.now ≤ (c.advance d).now ∧ (c.advance d).now.InRange) ∧
    (∀ d e, (c.advance d).advance e = c.advance (d + e)) ∧
    (∀ steps : List Duration, steps.foldl advance c = c.advance steps.sum) ∧
    (∀ recipient record record' u, recipient.id? = some u → record'.key = record.key →
      record.delay ≠ .zero → record.delay ≤ record'.delay →
      ∃ expires expires', (c.start recipient record).expiration? ⟨u, record.key⟩ = some expires ∧
        (c.start recipient record').expiration? ⟨u, record.key⟩ = some expires' ∧
        expires ≤ expires') ∧
    (∀ recipient record u, recipient.id? = some u → record.delay ≠ .zero →
      ((c.start recipient record).isReady recipient record = false ↔ c.now < Instant.last)) := by
  refine ⟨expiration?_start_of_inRange hnow, fun d => ?_,
    fun d => ⟨Instant.le_after hnow d, Instant.inRange_after hnow d⟩, advance_advance hnow,
    foldl_advance hnow, fun recipient record record' u hid hkey hdelay hle => ?_,
    fun recipient record u hid hdelay => isReady_start_eq_false_iff hnow hid hdelay⟩
  · rw [advance, Instant.after_eq hnow]
  · have hdelay' : record'.delay ≠ .zero := by
      rw [← Duration.nanoseconds_pos_iff] at hdelay ⊢
      exact Nat.lt_of_lt_of_le hdelay hle
    refine ⟨_, _, expiration?_start_own hid hdelay, ?_, Instant.after_le_after hnow hle⟩
    rw [← hkey]
    exact expiration?_start_own hid hdelay'

/-- Someone with an identifier. -/
def reader : Recipient := { Recipient.named "Reader" with id? := some ⟨1⟩ }

/-- A message that is not repeated before a delay is over. -/
def reminder (delay : Duration) : Record :=
  { Record.blank ⟨"REMINDER", by decide +kernel⟩ with delay }

/-- From the first instant there is an hour to wait for a delay of an hour, and time to its end for the
longest of steps and for what is too long for one. -/
theorem reminders_from_first_instant :
    Instant.first.InRange ∧
    ((fresh .first).start reader (reminder (.ofSeconds 3600 0))).expiration?
        ⟨⟨1⟩, (reminder .zero).key⟩ = some ⟨Instant.first.nanoseconds + 3600000000000⟩ ∧
    ((fresh .first).start reader (reminder .longestStep)).expiration?
        ⟨⟨1⟩, (reminder .zero).key⟩ = some .last ∧
    ((fresh .first).start reader (reminder (.ofSeconds 18446744073709551615 999999999))).expiration?
        ⟨⟨1⟩, (reminder .zero).key⟩ = some .last ∧
    ((fresh .first).advance (.ofSeconds 1 0)).advance .longestStep =
      (fresh .first).advance (.ofSeconds 18446744073709551615 999999999) ∧
    ((fresh .first).start reader (reminder .longestStep)).isReady reader (reminder .longestStep) =
      false := by
  have hfirst : (fresh .first).now.InRange := by decide
  obtain ⟨hstart, hadvance, -, hadd, -, -, hwait⟩ := times_cut_exactly hfirst
  refine ⟨hfirst, ?_, ?_, ?_, ?_, ?_⟩
  · rw [hstart]
    decide +kernel
  · rw [hstart]
    decide +kernel
  · rw [hstart]
    decide +kernel
  · rw [hadd, hadvance, hadvance]
    decide +kernel
  · exact (hwait _ _ _ rfl (by decide)).2 (by decide)

end Cooldowns

end Courier
