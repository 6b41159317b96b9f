import Courier.Recipient
import Courier.Record

/-!
# Cooldowns

A record with a delay cools down after it was delivered: until then it is not delivered again to the
same recipient. Recipients are told apart by their identifiers, so one without any never waits.

## Main statements

* `expiration?_start`: a start sets the expiration of the slot of the record, and of no other.
* `get?_sweep`: a sweep keeps what has still to expire, and nothing else.
-/

namespace Courier

/-- A message to someone. -/
structure Slot where
  recipient : Uuid
  message : Key
  deriving DecidableEq

namespace Slot

/-- Slots are ordered by recipient, then by message. -/
instance : Ord Slot :=
  ⟨fun a b => (compare a.recipient b.recipient).then (compare a.message b.message)⟩

theorem compare_eq_compareLex :
    (compare : Slot → Slot → Ordering) =
      compareLex (compareOn Slot.recipient) (compareOn Slot.message) := rfl

instance : Std.TransOrd Slot := by
  unfold Std.TransOrd
  rw [compare_eq_compareLex]
  infer_instance

instance : Std.LawfulEqOrd Slot where
  compare_self {a} := by
    have h₁ : compare a.recipient a.recipient = .eq := Std.ReflOrd.compare_self
    have h₂ : compare a.message a.message = .eq := Std.ReflOrd.compare_self
    show (compare a.recipient a.recipient).then (compare a.message a.message) = .eq
    rw [h₁, h₂]
    rfl
  eq_of_compare {a b} h := by
    obtain ⟨h₁, h₂⟩ := Ordering.then_eq_eq.1 h
    obtain ⟨r, m⟩ := a
    obtain ⟨r', m'⟩ := b
    simp only at h₁ h₂
    rw [Std.LawfulEqOrd.compare_eq_iff_eq.1 h₁, Std.LawfulEqOrd.compare_eq_iff_eq.1 h₂]

/-- The slot of a message to a recipient, if the recipient can be told apart. -/
def of? (recipient : Recipient) (message : Key) : Option Slot :=
  recipient.id?.map fun id => ⟨id, message⟩

theorem of?_of_id {recipient : Recipient} {u : Uuid} (hu : recipient.id? = some u) (k : Key) :
    of? recipient k = some ⟨u, k⟩ := by
  show recipient.id?.map _ = _
  rw [hu]
  rfl

theorem of?_of_none {recipient : Recipient} (hnone : recipient.id? = none) (k : Key) :
    of? recipient k = none := by
  show recipient.id?.map _ = _
  rw [hnone]
  rfl

end Slot

/-- What is cooling down, and the time. -/
structure Cooldowns where
  now : Instant
  expirations : Table Slot Instant
  deriving DecidableEq

namespace Cooldowns

/-- Nothing is cooling down. -/
def fresh (now : Instant) : Cooldowns :=
  ⟨now, .empty⟩

/-- When a slot expires or has expired, if it is kept. -/
def expiration? (c : Cooldowns) (slot : Slot) : Option Instant :=
  c.expirations.get? slot

/-- The cooldowns after a delivery. -/
def start (c : Cooldowns) (recipient : Recipient) (record : Record) : Cooldowns :=
  match Slot.of? recipient record.key with
  | some slot =>
    if record.hasCooldown then
      { c with expirations := c.expirations.insert slot (c.now.after record.delay) }
    else c
  | none => c

/-- Whether a record can be delivered as far as cooldowns are concerned. -/
def isReady (c : Cooldowns) (recipient : Recipient) (record : Record) : Bool :=
  !record.hasCooldown ||
    match (Slot.of? recipient record.key).bind c.expiration? with
    | some expires => decide (expires ≤ c.now)
    | none => true

/-- The time until the slot of a record expires; none if it has expired or is not kept. -/
def remaining? (c : Cooldowns) (recipient : Recipient) (record : Record) : Option Duration := do
  let slot ← Slot.of? recipient record.key
  let expires ← c.expiration? slot
  c.now.until? expires

/-- What is left when everything that has expired is removed. -/
def sweep (c : Cooldowns) : Cooldowns :=
  { c with expirations := c.expirations.filter fun e => decide (c.now < e.2) }

/-- How many slots are kept. -/
def size (c : Cooldowns) : Nat :=
  c.expirations.size

/-- How many slots a sweep removes. -/
def expired (c : Cooldowns) : Nat :=
  (c.expirations.filter fun e => decide (e.2 ≤ c.now)).size

/-- Nothing cools down any longer. -/
def clear (c : Cooldowns) : Cooldowns :=
  { c with expirations := .empty }

/-- The time moved forward. -/
def advance (c : Cooldowns) (step : Duration) : Cooldowns :=
  { c with now := c.now.after step }

/-- The time set to an instant. -/
def setNow (c : Cooldowns) (now : Instant) : Cooldowns :=
  { c with now }

theorem get?_sweep (c : Cooldowns) (slot : Slot) :
    c.sweep.expiration? slot = (c.expiration? slot).filter fun expires => decide (c.now < expires) := by
  exact Table.get?_filter _ _ _

variable {c : Cooldowns} {recipient : Recipient} {record : Record} {u : Uuid}

/-- A recipient with an identifier waits for the expiration of the slot, and for nothing else. -/
theorem isReady_eq_false_iff (hu : recipient.id? = some u) (hcooldown : record.hasCooldown = true) :
    c.isReady recipient record = false ↔
      ∃ expires, c.expiration? ⟨u, record.key⟩ = some expires ∧ c.now < expires := by
  rw [isReady, hcooldown, Slot.of?_of_id hu, Option.bind_some]
  cases c.expiration? ⟨u, record.key⟩ with
  | none => simp
  | some expires => simp [Instant.le_def, Instant.lt_def]

/-- Only recipients with an identifier and records with a delay ever wait. -/
theorem of_isReady_eq_false (h : c.isReady recipient record = false) :
    record.hasCooldown = true ∧ ∃ u, recipient.id? = some u := by
  rw [isReady, Bool.or_eq_false_iff] at h
  obtain ⟨hcooldown, hwaits⟩ := h
  refine ⟨by simpa using hcooldown, ?_⟩
  cases hid : recipient.id? with
  | some u => exact ⟨u, rfl⟩
  | none =>
    rw [Slot.of?_of_none hid] at hwaits
    cases hwaits

/-- A start sets the expiration of the slot of the record, if it has a delay, and of no other slot. -/
theorem expiration?_start (slot : Slot) :
    (c.start recipient record).expiration? slot =
      if recipient.id? = some slot.recipient ∧ record.key = slot.message ∧ record.hasCooldown = true then
        some (c.now.after record.delay)
      else c.expiration? slot := by
  obtain ⟨u, k⟩ := slot
  rw [start]
  cases hid : recipient.id? with
  | none =>
    rw [Slot.of?_of_none hid]
    simp
  | some v =>
    rw [Slot.of?_of_id hid]
    by_cases hcooldown : record.hasCooldown = true
    · simp only [hcooldown, if_true, expiration?, Table.get?_insert, Slot.mk.injEq,
        Option.some.injEq, and_true, eq_comm]
    · simp [hcooldown]

/-- What it sets is the end of the delay, or the last instant if that is earlier. -/
theorem expiration?_start_of_inRange (hnow : c.now.InRange) (recipient : Recipient) (record : Record)
    (slot : Slot) :
    (c.start recipient record).expiration? slot =
      if recipient.id? = some slot.recipient ∧ record.key = slot.message ∧ record.delay ≠ .zero then
        some ⟨min (c.now.nanoseconds + record.delay.nanoseconds) Instant.last.nanoseconds⟩
      else c.expiration? slot := by
  rw [expiration?_start, ← Instant.nanoseconds_after hnow]
  simp only [Record.hasCooldown_iff]

theorem now_start : (c.start recipient record).now = c.now := by
  rw [start]
  split
  · split <;> rfl
  · rfl

/-- The text for diagnostics, which tells no more than the size. -/
def diagnostic (c : Cooldowns) : String :=
  "CooldownMap \x7b entries: " ++ toString c.size ++ ", .. \x7d"

end Cooldowns

end Courier
