import Courier.Key
import Courier.Time

/-!
# Records

A record is what is kept under the key of a message: its templates, and how and how often it is
delivered. Rendered, it is the three texts that came out of the templates.
-/

namespace Courier

/-- How a message is shown. -/
inductive Channel where
  /-- The message, line by line. -/
  | chat
  /-- The title and the subtitle, on the screen. -/
  | title
  deriving DecidableEq, Repr

/-- How long a title takes to appear, stays and takes to go, in ticks. -/
structure Timing where
  fadeIn : Nat
  stay : Nat
  fadeOut : Nat
  deriving DecidableEq, Repr

def Timing.standard : Timing := ⟨10, 70, 20⟩

/-- The templates of a message and the settings of its delivery. -/
structure Record where
  key : Key
  enabled : Bool
  message : String
  title : String
  subtitle : String
  /-- The shortest time between two deliveries to one recipient; zero for none. -/
  delay : Duration
  channel : Channel
  timing : Timing
  /-- Texts for keys that are not bound otherwise. -/
  defaults : KeyTable String
  deriving DecidableEq

namespace Record

/-- An enabled record for chat without any text. -/
def blank (key : Key) : Record :=
  { key, enabled := true, message := "", title := "", subtitle := "", delay := .zero,
    channel := .chat, timing := .standard, defaults := .empty }

/-- The record with a title and a subtitle, for the title channel. -/
def withTitle (r : Record) (title subtitle : String) : Record :=
  { r with title, subtitle, channel := .title }

/-- Whether a delivery keeps the next one waiting. -/
def hasCooldown (r : Record) : Bool :=
  !r.delay.isZero

theorem hasCooldown_iff {r : Record} : r.hasCooldown = true ↔ r.delay ≠ .zero := by
  rw [hasCooldown, Bool.not_eq_true', ← Bool.not_eq_true, Duration.isZero_iff]

end Record

/-- The texts of a record with everything put in. -/
structure Rendered where
  message : String
  title : String
  subtitle : String
  deriving DecidableEq, Repr

/-- Whether nothing would be seen on a channel. -/
def Rendered.isBlankFor (r : Rendered) : Channel → Bool
  | .chat => Text.isBlank r.message
  | .title => Text.isBlank r.title && Text.isBlank r.subtitle

end Courier
