/-!
# Time

Durations and instants, counted in nanoseconds. Instants have a first and a last one, and time can be
moved forward only by steps of a limited length; where a duration does not fit, the longest step or
the last instant stands for it.

## Main statements

* `nanoseconds_after`: the two limits together come to a single one, that of the last instant.
-/

namespace Courier

/-- A length of time. -/
structure Duration where
  nanoseconds : Nat
  deriving DecidableEq, Repr

namespace Duration

/-- The nanoseconds of a second. -/
def perSecond : Nat := 1000000000

def zero : Duration := ⟨0⟩

instance : Inhabited Duration := ⟨zero⟩

def isZero (d : Duration) : Bool := d.nanoseconds == 0

theorem isZero_iff {d : Duration} : d.isZero = true ↔ d = zero := by
  obtain ⟨n⟩ := d
  simp [isZero, zero]

/-- So many seconds, and nanoseconds on top. -/
def ofSeconds (seconds nanoseconds : Nat) : Duration :=
  ⟨seconds * perSecond + nanoseconds⟩

/-- The whole seconds. -/
def seconds (d : Duration) : Nat := d.nanoseconds / perSecond

/-- The nanoseconds on top of the whole seconds. -/
def subsecond (d : Duration) : Nat := d.nanoseconds % perSecond

/-- The longest step that an instant can be moved by: 2⁶³ - 1 milliseconds. -/
def longestStep : Duration := ⟨9223372036854775807 * 1000000⟩

/-- The duration as a step, if it is not too long for one. -/
def step? (d : Duration) : Option Duration :=
  if d.nanoseconds ≤ longestStep.nanoseconds then some d else none

end Duration

/-- A point in time, as its distance from the start of 1970 in universal time. Each day has the same
length, and there is no instant inside a leap second. Only a clock that is set by hand could show one, as
a second of a thousand million nanoseconds or more; then the order of instants would not agree with what
is added to them and with the time between them. It is supposed that no clock does. -/
structure Instant where
  nanoseconds : Int
  deriving DecidableEq, Repr

namespace Instant

/-- The first instant, at the start of the year -262143. -/
def first : Instant := ⟨-8334601228800 * 1000000000⟩

/-- The last instant, at the end of the year 262142. -/
def last : Instant := ⟨8210266876799 * 1000000000 + 999999999⟩

/-- The start of 1970. -/
def epoch : Instant := ⟨0⟩

instance : Inhabited Instant := ⟨epoch⟩

instance : LE Instant := ⟨fun i j => i.nanoseconds ≤ j.nanoseconds⟩

instance : LT Instant := ⟨fun i j => i.nanoseconds < j.nanoseconds⟩

instance (i j : Instant) : Decidable (i ≤ j) :=
  inferInstanceAs (Decidable (i.nanoseconds ≤ j.nanoseconds))

instance (i j : Instant) : Decidable (i < j) :=
  inferInstanceAs (Decidable (i.nanoseconds < j.nanoseconds))

theorem le_def (i j : Instant) : i ≤ j ↔ i.nanoseconds ≤ j.nanoseconds := Iff.rfl

theorem lt_def (i j : Instant) : i < j ↔ i.nanoseconds < j.nanoseconds := Iff.rfl

/-- Whether the calendar has the instant. -/
def InRange (i : Instant) : Prop := first ≤ i ∧ i ≤ last

instance (i : Instant) : Decidable i.InRange := inferInstanceAs (Decidable (_ ∧ _))

/-- The instant a step later, if there is one. -/
def add? (i : Instant) (step : Duration) : Option Instant :=
  let later : Instant := ⟨i.nanoseconds + step.nanoseconds⟩
  if later ≤ last then some later else none

/-- The instant a duration later. A duration too long for a step counts as the longest step, and
behind the last instant there is none. -/
def after (i : Instant) (d : Duration) : Instant :=
  (i.add? (d.step?.getD Duration.longestStep)).getD last

/-- The time from one instant to a later one; none if it is not later. -/
def until? (i j : Instant) : Option Duration :=
  if i < j then some ⟨(j.nanoseconds - i.nanoseconds).toNat⟩ else none

/-- The two limits come to one: from any instant of the calendar, the longest step leads past the
last instant. -/
theorem nanoseconds_after {i : Instant} (h : i.InRange) (d : Duration) :
    (i.after d).nanoseconds = min (i.nanoseconds + d.nanoseconds) last.nanoseconds := by
  obtain ⟨hl, hu⟩ := h
  simp only [le_def, first, last] at hl hu
  simp only [after, add?, Duration.step?, le_def, Duration.longestStep, last]
  by_cases hd : d.nanoseconds ≤ 9223372036854775807 * 1000000
  · simp only [hd, if_true, Option.getD_some]
    split <;> simp only [Option.getD_some, Option.getD_none] <;> omega
  · simp only [hd, if_false, Option.getD_none]
    split <;> simp only [Option.getD_some, Option.getD_none] <;> omega

theorem le_trans {i j l : Instant} (hij : i ≤ j) (hjl : j ≤ l) : i ≤ l := Int.le_trans hij hjl

theorem inRange_after {i : Instant} (h : i.InRange) (d : Duration) : (i.after d).InRange := by
  have hafter := nanoseconds_after h d
  obtain ⟨hfirst, hlast⟩ := h
  constructor
  · rw [le_def] at hfirst hlast ⊢
    omega
  · rw [le_def] at hfirst hlast ⊢
    omega

/-- Time moves forward, or stands still at its end. -/
theorem le_after {i : Instant} (h : i.InRange) (d : Duration) : i ≤ i.after d := by
  have hafter := nanoseconds_after h d
  have hlast := h.2
  rw [le_def] at hlast ⊢
  omega

end Instant

end Courier
