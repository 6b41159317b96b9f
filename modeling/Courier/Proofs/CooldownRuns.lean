import Courier.Cooldowns

/-!
# Runs of cooldowns

Cooldowns are started, read, cleared and swept while the clock is moved, forwards or backwards. There
are two readings, whether a message can be delivered and how long it has still to wait, and both come
from the expiration that is kept for its slot, while it is still to come. So they agree, with one
exception: a record without a delay is always ready, but when it had one before, what is left of that
delay is shown all the same.

* `Cooldowns.perform`, `Cooldowns.after`: single operations, and runs of them;
* `Cooldowns.awaited?`: the expiration that a message waits for;
* `isReady_eq`, `remaining?_eq`: what the two readings make of it;
* `exists_start_of_expiration?`: what is kept was set by a start under a record with a delay;
* `readings_agree_unless_lifted`: the readings agree unless a delay was lifted while it was running.
-/

namespace Courier

namespace Cooldowns

/-! ### Operations -/

/-- What can be done with cooldowns. -/
inductive Operation where
  | start (recipient : Recipient) (record : Record)
  | isReady (recipient : Recipient) (record : Record)
  | remaining (recipient : Recipient) (record : Record)
  | clear
  | sweep
  | advance (step : Duration)
  | setNow (now : Instant)

/-- The cooldowns after an operation, which the readings leave as they are. -/
def perform (c : Cooldowns) : Operation → Cooldowns
  | .start recipient record => c.start recipient record
  | .isReady _ _ => c
  | .remaining _ _ => c
  | .clear => c.clear
  | .sweep => c.sweep
  | .advance step => c.advance step
  | .setNow now => c.setNow now

/-- The cooldowns after a run. -/
def after (c : Cooldowns) (run : List Operation) : Cooldowns :=
  run.foldl perform c

variable {c : Cooldowns} {recipient : Recipient} {record : Record} {slot : Slot} {expires : Instant}

/-! ### The two readings -/

/-- The expiration that a message waits for: the one that is kept for its slot, if it is still to come. -/
def awaited? (c : Cooldowns) (recipient : Recipient) (k : Key) : Option Instant :=
  (Slot.of? recipient k).bind fun slot =>
    (c.expiration? slot).filter fun expires => decide (c.now < expires)

theorem of_awaited?_eq_some {k : Key} (h : c.awaited? recipient k = some expires) :
    ∃ u, recipient.id? = some u ∧ c.expiration? ⟨u, k⟩ = some expires ∧ c.now < expires := by
  rw [awaited?] at h
  cases hid : recipient.id? with
  | none =>
    rw [Slot.of?_of_none hid] at h
    cases h
  | some u =>
    rw [Slot.of?_of_id hid] at h
    obtain ⟨hkept, hlt⟩ := Option.filter_eq_some_iff.1 h
    exact ⟨u, rfl, hkept, of_decide_eq_true hlt⟩

/-- It is what a sweep would keep. -/
theorem awaited?_eq (c : Cooldowns) (recipient : Recipient) (k : Key) :
    c.awaited? recipient k = (Slot.of? recipient k).bind c.sweep.expiration? := by
  rw [awaited?]
  cases Slot.of? recipient k with
  | none => rfl
  | some slot => exact (c.get?_sweep slot).symm

/-- A message can be delivered if its record has no delay or there is nothing to wait for. -/
theorem isReady_eq (c : Cooldowns) (recipient : Recipient) (record : Record) :
    c.isReady recipient record =
      (!record.hasCooldown || (c.awaited? recipient record.key).isNone) := by
  rw [isReady, awaited?]
  congr 1
  cases Slot.of? recipient record.key with
  | none => rfl
  | some slot =>
    simp only [Option.bind_some]
    cases c.expiration? slot with
    | none => rfl
    | some expires => by_cases h : c.now < expires <;> simp_all [Instant.le_def, Instant.lt_def]

/-- Time remains while there is something to wait for, whether or not the record has a delay. -/
theorem remaining?_eq (c : Cooldowns) (recipient : Recipient) (record : Record) :
    c.remaining? recipient record = (c.awaited? recipient record.key).bind c.now.until? := by
  show (Slot.of? recipient record.key).bind (fun slot => (c.expiration? slot).bind c.now.until?) = _
  rw [awaited?]
  cases Slot.of? recipient record.key with
  | none => rfl
  | some slot =>
    simp only [Option.bind_some]
    cases c.expiration? slot with
    | none => rfl
    | some expires => by_cases h : c.now < expires <;> simp [Instant.until?, Option.filter, h]

theorem remaining?_eq_none_iff :
    c.remaining? recipient record = none ↔ c.awaited? recipient record.key = none := by
  rw [remaining?_eq]
  cases hawaited : c.awaited? recipient record.key with
  | none => simp
  | some expires =>
    obtain ⟨_, _, _, hlt⟩ := of_awaited?_eq_some hawaited
    simp [Instant.until?, hlt]

/-- So the readings agree for a record with a delay, and where there is nothing to wait for. -/
theorem readings_agree_iff :
    (c.isReady recipient record = true ↔ c.remaining? recipient record = none) ↔
      record.hasCooldown = true ∨ c.awaited? recipient record.key = none := by
  rw [isReady_eq, remaining?_eq_none_iff]
  cases record.hasCooldown <;> cases c.awaited? recipient record.key <;> simp

/-! ### Where an expiration comes from -/

/-- An operation keeps an expiration as it is, or is the start that sets it. -/
theorem expiration?_perform {op : Operation}
    (h : (c.perform op).expiration? slot = some expires) :
    c.expiration? slot = some expires ∨
      ∃ recipient record, op = .start recipient record ∧ recipient.id? = some slot.recipient ∧
        record.key = slot.message ∧ record.hasCooldown = true ∧ expires = c.now.after record.delay := by
  cases op with
  | start recipient record =>
    rw [show c.perform (.start recipient record) = c.start recipient record from rfl,
      expiration?_start] at h
    split at h
    · rename_i hslot
      obtain ⟨hid, hkey, hcooldown⟩ := hslot
      exact .inr ⟨recipient, record, rfl, hid, hkey, hcooldown, (Option.some.inj h).symm⟩
    · exact .inl h
  | isReady recipient record => exact .inl h
  | remaining recipient record => exact .inl h
  | clear => cases h
  | sweep =>
    rw [show c.perform .sweep = c.sweep from rfl, get?_sweep] at h
    exact .inl (Option.filter_eq_some_iff.1 h).1
  | advance step => exact .inl h
  | setNow now => exact .inl h

/-- What is kept after a run was kept before it, or was set by a start of the run. -/
theorem exists_start_of_expiration? {run : List Operation}
    (h : (c.after run).expiration? slot = some expires) :
    c.expiration? slot = some expires ∨
      ∃ before recipient record later, run = before ++ .start recipient record :: later ∧
        recipient.id? = some slot.recipient ∧ record.key = slot.message ∧
        record.hasCooldown = true ∧ expires = (c.after before).now.after record.delay := by
  induction run generalizing c with
  | nil => exact .inl h
  | cons op run ih =>
    rcases ih h with hkept | ⟨before, recipient, record, later, rfl, hstart⟩
    · rcases expiration?_perform hkept with hkept | ⟨recipient, record, rfl, hstart⟩
      · exact .inl hkept
      · exact .inr ⟨[], recipient, record, run, rfl, hstart⟩
    · exact .inr ⟨op :: before, recipient, record, later, rfl, hstart⟩

/-! ### Delays that are lifted -/

/-- The delay of a message was lifted while it was running: the record has none, but what the message
waits for at the end of the run is the end of a delay that it had when a cooldown was started. -/
def Lifted (start : Instant) (run : List Operation) (recipient : Recipient) (record : Record) : Prop :=
  record.hasCooldown = false ∧
    ∃ before other earlier later, run = before ++ .start other earlier :: later ∧
      other.id? = recipient.id? ∧ earlier.key = record.key ∧ earlier.hasCooldown = true ∧
      ((fresh start).after run).awaited? recipient record.key =
        some (((fresh start).after before).now.after earlier.delay)

/-- **The two readings agree unless a delay was lifted while it was running.** After every run from
fresh cooldowns, whatever is started, cleared and swept on the way and however the clock is moved, a
message is ready for someone exactly if no time remains for it; only when its record has no delay, and an
earlier one has still to run off, it is ready and time remains. -/
theorem readings_agree_unless_lifted (start : Instant) (run : List Operation) (recipient : Recipient)
    (record : Record) :
    (((fresh start).after run).isReady recipient record = true ↔
        ((fresh start).after run).remaining? recipient record = none) ↔
      ¬ Lifted start run recipient record := by
  rw [readings_agree_iff]
  constructor
  · intro hagree hlifted
    obtain ⟨hnone, _, _, _, _, _, _, _, _, hawaited⟩ := hlifted
    rcases hagree with hcooldown | hfree
    · rw [hnone] at hcooldown
      cases hcooldown
    · rw [hfree] at hawaited
      cases hawaited
  · intro hnot
    cases hcooldown : record.hasCooldown with
    | true => exact .inl rfl
    | false =>
      refine .inr ?_
      cases hawaited : ((fresh start).after run).awaited? recipient record.key with
      | none => rfl
      | some expires =>
        -- Nothing is kept at first, so the run has started what the message waits for.
        obtain ⟨u, hid, hexpires, _⟩ := of_awaited?_eq_some hawaited
        rcases exists_start_of_expiration? hexpires with hkept | hstarted
        · cases hkept
        · obtain ⟨before, other, earlier, later, hrun, hother, hkey, hdelay, rfl⟩ := hstarted
          exact absurd ⟨hcooldown, before, other, earlier, later, hrun, hother.trans hid.symm, hkey,
            hdelay, hawaited⟩ hnot

/-- Someone with an identifier. -/
def guest : Recipient := { Recipient.named "Guest" with id? := some ⟨1⟩ }

/-- A message that waits for a minute. -/
def hint : Record := { Record.blank ⟨"HINT", by decide +kernel⟩ with delay := .ofSeconds 60 0 }

/-- Once its delay is lifted the message is ready, and still has a minute to wait. -/
theorem lifted_hint_ready_with_time_remaining :
    ((fresh .epoch).after [.start guest hint]).isReady guest { hint with delay := .zero } = true ∧
    ((fresh .epoch).after [.start guest hint]).remaining? guest { hint with delay := .zero } =
      some (.ofSeconds 60 0) ∧
    ¬ ∀ (start : Instant) (run : List Operation) (recipient : Recipient) (record : Record),
      ((fresh start).after run).isReady recipient record = true ↔
        ((fresh start).after run).remaining? recipient record = none := by
  have hready : ((fresh .epoch).after [.start guest hint]).isReady guest { hint with delay := .zero } =
      true := by decide +kernel
  have hremaining : ((fresh .epoch).after [.start guest hint]).remaining? guest
      { hint with delay := .zero } = some (.ofSeconds 60 0) := by decide +kernel
  refine ⟨hready, hremaining, fun hagree => ?_⟩
  rw [(hagree _ _ _ _).1 hready] at hremaining
  cases hremaining

end Cooldowns

end Courier
