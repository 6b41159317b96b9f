import Courier.Proofs.CooldownRuns

/-!
# Sweeps cannot be observed

A sweep removes expirations that are over. As long as the clock does not go back they stay over, so that
no reading asks for them again: two runs that differ only in their sweeps give the same answers.

* `Cooldowns.answers`: what the readings of a run answer;
* `sweep_perform`: cooldowns that have been swept stay equal to the others but for what is over;
* `answers_sweep`, `answers_filter`: no answer depends on a sweep before the run, or in it;
* `answers_eq_of_same_but_sweeps`: two runs with the same other operations give the same answers.
-/

namespace Courier

namespace Cooldowns

/-! ### Answers -/

/-- What a reading answers. -/
inductive Answer where
  | ready (isReady : Bool)
  | remaining (left? : Option Duration)
  deriving DecidableEq

/-- The answer of an operation, if it is a reading. -/
def answer? (c : Cooldowns) : Operation → Option Answer
  | .isReady recipient record => some (.ready (c.isReady recipient record))
  | .remaining recipient record => some (.remaining (c.remaining? recipient record))
  | _ => none

/-- The answers of a run, in their order. -/
def answers (c : Cooldowns) : List Operation → List Answer
  | [] => []
  | op :: run => (c.answer? op).toList ++ (c.perform op).answers run

namespace Operation

def isSweep : Operation → Bool
  | .sweep => true
  | _ => false

theorem eq_sweep {op : Operation} (h : op.isSweep = true) : op = .sweep := by
  cases op with
  | sweep => rfl
  | _ => cases h

/-- The time after an operation. -/
def clock (now : Instant) : Operation → Instant
  | .advance step => now.after step
  | .setNow later => later
  | _ => now

end Operation

/-- The clock does not go back in a run that starts at the given time. -/
def Forward : Instant → List Operation → Prop
  | _, [] => True
  | now, op :: run => now ≤ op.clock now ∧ Forward (op.clock now) run

variable {c d : Cooldowns} {recipient : Recipient} {record : Record}

theorem now_perform (c : Cooldowns) (op : Operation) : (c.perform op).now = op.clock c.now := by
  cases op with
  | start recipient record => exact now_start
  | isReady recipient record => rfl
  | remaining recipient record => rfl
  | clear => rfl
  | sweep => rfl
  | advance step => rfl
  | setNow now => rfl

/-! ### Cooldowns that differ in what is over -/

/-- Cooldowns are the time and what is kept for each slot. -/
theorem ext_expiration? (hnow : c.now = d.now) (h : ∀ slot, c.expiration? slot = d.expiration? slot) :
    c = d := by
  obtain ⟨now, expirations⟩ := c
  obtain ⟨now', expirations'⟩ := d
  rw [show now = now' from hnow, show expirations = expirations' from Table.ext_get? h]

theorem filter_filter_of_le {now later : Instant} (h : now ≤ later) (kept? : Option Instant) :
    ((kept?.filter fun expires => decide (now < expires)).filter fun expires =>
        decide (later < expires)) = kept?.filter fun expires => decide (later < expires) := by
  rw [Option.filter_filter]
  congr 1
  funext expires
  rw [Bool.and_eq_right_iff_imp, decide_eq_true_iff, decide_eq_true_iff]
  exact fun hlater => Int.lt_of_le_of_lt h hlater

/-- What was over before the clock has moved on is over after it as well. -/
theorem sweep_setNow {now : Instant} (h : c.now ≤ now) :
    (c.sweep.setNow now).sweep = (c.setNow now).sweep := by
  refine ext_expiration? rfl fun slot => ?_
  rw [get?_sweep, get?_sweep]
  show ((c.sweep.expiration? slot).filter fun expires => decide (now < expires)) =
    (c.expiration? slot).filter fun expires => decide (now < expires)
  rw [get?_sweep, filter_filter_of_le h]

theorem sweep_sweep (c : Cooldowns) : c.sweep.sweep = c.sweep :=
  sweep_setNow (Int.le_refl c.now.nanoseconds)

/-- A start overwrites what is kept for its slot, whether or not that is over. -/
theorem sweep_start : (c.sweep.start recipient record).sweep = (c.start recipient record).sweep := by
  refine ext_expiration? ?_ fun slot => ?_
  · show (c.sweep.start recipient record).now = (c.start recipient record).now
    rw [now_start, now_start]
    rfl
  · rw [get?_sweep, get?_sweep, now_start, now_start, expiration?_start, expiration?_start]
    split
    · rfl
    · rw [get?_sweep]
      exact filter_filter_of_le (Int.le_refl c.now.nanoseconds) _

/-- **Swept cooldowns stay equal to the others but for what is over,** through every operation that does
not set the clock back. -/
theorem sweep_perform {op : Operation} (h : c.now ≤ op.clock c.now) :
    (c.sweep.perform op).sweep = (c.perform op).sweep := by
  cases op with
  | start recipient record => exact sweep_start
  | isReady recipient record => exact c.sweep_sweep
  | remaining recipient record => exact c.sweep_sweep
  | clear => rfl
  | sweep => exact congrArg sweep c.sweep_sweep
  | advance step => exact sweep_setNow h
  | setNow now => exact sweep_setNow h

theorem awaited?_sweep (c : Cooldowns) (recipient : Recipient) (k : Key) :
    c.sweep.awaited? recipient k = c.awaited? recipient k := by
  rw [awaited?_eq, awaited?_eq, sweep_sweep]

/-- A reading does not tell whether what is over has been removed. -/
theorem answer?_sweep (c : Cooldowns) (op : Operation) : c.sweep.answer? op = c.answer? op := by
  cases op with
  | isReady recipient record =>
    show some (Answer.ready _) = some (Answer.ready _)
    rw [isReady_eq, isReady_eq, awaited?_sweep]
  | remaining recipient record =>
    show some (Answer.remaining _) = some (Answer.remaining _)
    rw [remaining?_eq, remaining?_eq, awaited?_sweep]
    rfl
  | start recipient record => rfl
  | clear => rfl
  | sweep => rfl
  | advance step => rfl
  | setNow now => rfl

/-! ### Runs with other sweeps -/

/-- A sweep before a run changes none of its answers. -/
theorem answers_sweep {run : List Operation} (h : Forward c.now run) :
    c.sweep.answers run = c.answers run := by
  induction run generalizing c with
  | nil => rfl
  | cons op run ih =>
    obtain ⟨hop, hrun⟩ := h
    have hswept : Forward (c.sweep.perform op).now run := by
      rw [now_perform]
      exact hrun
    rw [← now_perform] at hrun
    have hrest : (c.sweep.perform op).answers run = (c.perform op).answers run :=
      calc (c.sweep.perform op).answers run
        _ = (c.sweep.perform op).sweep.answers run := (ih hswept).symm
        _ = (c.perform op).sweep.answers run := by rw [sweep_perform hop]
        _ = (c.perform op).answers run := ih hrun
    rw [answers, answers, answer?_sweep, hrest]

/-- The sweeps in a run change none of its answers. -/
theorem answers_filter {run : List Operation} (h : Forward c.now run) :
    c.answers (run.filter fun op => !op.isSweep) = c.answers run := by
  induction run generalizing c with
  | nil => rfl
  | cons op run ih =>
    have hrun : Forward (c.perform op).now run := by
      rw [now_perform]
      exact h.2
    by_cases hsweep : op.isSweep = true
    · obtain rfl := Operation.eq_sweep hsweep
      rw [List.filter_cons_of_neg (by simp [hsweep]), ih h.2, ← answers_sweep h.2]
      rfl
    · rw [List.filter_cons_of_pos (by simpa using hsweep), answers, answers, ih hrun]

/-- Sweeps have no part in how the clock is moved. -/
theorem forward_filter_iff {now : Instant} {run : List Operation} :
    Forward now (run.filter fun op => !op.isSweep) ↔ Forward now run := by
  induction run generalizing now with
  | nil => exact Iff.rfl
  | cons op run ih =>
    by_cases hsweep : op.isSweep = true
    · obtain rfl := Operation.eq_sweep hsweep
      rw [List.filter_cons_of_neg (by simp [hsweep])]
      exact ih.trans ⟨fun h => ⟨Int.le_refl _, h⟩, fun h => h.2⟩
    · rw [List.filter_cons_of_pos (by simpa using hsweep), Forward, Forward, ih]

/-! ### What a sweep removes -/

theorem expiration?_sweep_eq_some_iff {slot : Slot} {expires : Instant} :
    c.sweep.expiration? slot = some expires ↔ c.expiration? slot = some expires ∧ c.now < expires := by
  rw [get?_sweep, Option.filter_eq_some_iff, decide_eq_true_iff]

/-- A sweep removes as many slots as it counts. -/
theorem expired_add_size_sweep (c : Cooldowns) : c.expired + c.sweep.size = c.size := by
  show (c.expirations.entries.filter fun e => decide (e.2 ≤ c.now)).length +
    (c.expirations.entries.filter fun e => decide (c.now < e.2)).length =
      c.expirations.entries.length
  have hnot : (fun e : Slot × Instant => decide (c.now < e.2)) =
      fun e => decide ¬ decide (e.2 ≤ c.now) = true := by
    funext e
    simp [Instant.le_def, Instant.lt_def]
  rw [hnot, ← List.countP_eq_length_filter, ← List.countP_eq_length_filter]
  exact (List.length_eq_countP_add_countP _).symm

theorem expired_sweep (c : Cooldowns) : c.sweep.expired = 0 := by
  have hcount := c.sweep.expired_add_size_sweep
  rw [sweep_sweep] at hcount
  omega

/-- **Sweeps cannot be observed.** Two runs from the same cooldowns that are alike but for their sweeps
give the same answers, as long as the clock does not go back. Every sweep keeps exactly what has still to
expire, counts what it removes, and leaves nothing to a second one. -/
theorem answers_eq_of_same_but_sweeps (c : Cooldowns) (run run' : List Operation)
    (hsame : (run.filter fun op => !op.isSweep) = run'.filter fun op => !op.isSweep)
    (hforward : Forward c.now run) :
    c.answers run = c.answers run' ∧
    ∀ d : Cooldowns,
      (∀ slot expires, d.sweep.expiration? slot = some expires ↔
        d.expiration? slot = some expires ∧ d.now < expires) ∧
      d.expired = d.size - d.sweep.size ∧ d.sweep.size ≤ d.size ∧ d.sweep.expired = 0 := by
  have hforward' : Forward c.now run' := by
    rw [← forward_filter_iff, ← hsame, forward_filter_iff]
    exact hforward
  have hanswers : c.answers run = c.answers run' :=
    calc c.answers run
      _ = c.answers (run.filter fun op => !op.isSweep) := (answers_filter hforward).symm
      _ = c.answers (run'.filter fun op => !op.isSweep) := by rw [hsame]
      _ = c.answers run' := answers_filter hforward'
  refine ⟨hanswers, fun d => ⟨fun slot expires => expiration?_sweep_eq_some_iff, ?_, ?_, d.expired_sweep⟩⟩
  · have hcount := d.expired_add_size_sweep
    omega
  · have hcount := d.expired_add_size_sweep
    omega

/-- A message is read while it cools down and after it has. -/
def hintRead : List Operation :=
  [.start guest hint, .advance (.ofSeconds 45 0), .remaining guest hint, .advance (.ofSeconds 15 0),
    .isReady guest hint, .remaining guest hint]

/-- The same, with a sweep before and after each reading. -/
def hintReadSwept : List Operation :=
  [.start guest hint, .advance (.ofSeconds 45 0), .sweep, .remaining guest hint, .sweep,
    .advance (.ofSeconds 15 0), .sweep, .isReady guest hint, .sweep, .remaining guest hint, .sweep]

theorem swept_hint_reads_the_same :
    ((hintReadSwept.filter fun op => !op.isSweep) = hintRead.filter fun op => !op.isSweep) ∧
    Forward (fresh .epoch).now hintReadSwept ∧
    (fresh .epoch).answers hintReadSwept =
      [.remaining (some (.ofSeconds 15 0)), .ready true, .remaining none] := by
  have hsame : (hintReadSwept.filter fun op => !op.isSweep) =
      hintRead.filter fun op => !op.isSweep := rfl
  have hforward : Forward (fresh .epoch).now hintReadSwept := by
    simp only [hintReadSwept, Forward, and_true]
    decide
  refine ⟨hsame, hforward, ?_⟩
  rw [(answers_eq_of_same_but_sweeps (fresh .epoch) hintReadSwept hintRead hsame hforward).1]
  decide +kernel

/-- Once the clock goes back, what has been swept is missed. -/
example :
    (fresh .epoch).answers [.start guest hint, .advance (.ofSeconds 60 0), .setNow .epoch,
      .isReady guest hint] = [.ready false] ∧
    (fresh .epoch).answers [.start guest hint, .advance (.ofSeconds 60 0), .sweep, .setNow .epoch,
      .isReady guest hint] = [.ready true] := by
  decide +kernel

end Cooldowns

end Courier
