import Courier.Number.Decimal
import Courier.Recipient
import Courier.Time

/-!
# Values

What a key can be bound to: a closed set of kinds, of which a host object is the one that is not
understood, and null the explicit absence.

An adapter narrows a host object to a value of a kind that is understood, or declines. Of several
adapters the first that does not decline is the one that counts, and values other than host objects
are left alone.
-/

namespace Courier

/-- A number: an integer of sixty-four bits or a floating-point number. -/
inductive Number where
  | int (n : Int)
  | float (x : Binary64)
  deriving DecidableEq, Repr

namespace Number

/-- The nearest integer that a number can be. -/
def ofInt (n : Int) : Number := .int (clampInt64 n)

/-- The decimal text of a number. -/
def text : Number → String
  | .int n => toString n
  | .float x => Layout.plain.text x

end Number

/-- Someone known, who need not be there now. -/
structure Identity where
  id : Uuid
  name? : Option String
  deriving DecidableEq, Repr

/-- So many items of a kind, perhaps with a name of their own. -/
structure ItemStack where
  kind : String
  displayName? : Option String
  amount : Nat
  deriving DecidableEq, Repr

/-- A thing of the host that is not understood here, with what it can be narrowed to. -/
structure HostObject where
  display : String
  location? : Option Location
  recipient? : Option Recipient
  webAddress? : Option String
  deriving DecidableEq, Repr

/-- What a key is bound to. -/
inductive Value where
  | recipient (r : Recipient)
  | identity (i : Identity)
  | item (i : ItemStack)
  | location (l : Location)
  | world (w : World)
  | duration (d : Duration)
  /-- A number, or a number that is not there. -/
  | number (n : Option Number)
  | text (s : String)
  | null
  | object (o : HostObject)
  deriving DecidableEq, Repr

namespace Value

instance : Inhabited Value := ⟨null⟩

/-- The name of the kind of a value. -/
def kind : Value → String
  | recipient _ => "recipient"
  | identity _ => "identity"
  | item _ => "item"
  | location _ => "location"
  | world _ => "world"
  | duration _ => "duration"
  | number _ => "number"
  | text _ => "text"
  | null => "null"
  | object _ => "object"

/-- Whether a value is the explicit absence. -/
def isNull : Value → Bool
  | null => true
  | _ => false

end Value

/-! ### Adapters -/

/-- A way to narrow host objects. -/
structure Adapter where
  name : String
  /-- The narrower value; none if the adapter declines. -/
  narrow? : HostObject → Option Value

namespace Adapter

/-- Objects that are somewhere become their location. -/
def location : Adapter := ⟨"location", fun o => o.location?.map .location⟩

/-- Objects that stand for a recipient become that recipient. -/
def recipient : Adapter := ⟨"recipient", fun o => o.recipient?.map .recipient⟩

/-- Objects with a web address become its text. -/
def webAddress : Adapter := ⟨"web_address", fun o => o.webAddress?.map .text⟩

/-- The adapters that are there from the start. -/
def standard : List Adapter := [location, recipient, webAddress]

/-- What the first willing adapter makes of a value. -/
def adapt? (adapters : List Adapter) : Value → Option Value
  | .object o => adapters.findSome? fun a => a.narrow? o
  | _ => none

/-- The value after adaptation: itself if it is not adapted. -/
def adapted (adapters : List Adapter) (v : Value) : Value :=
  (adapt? adapters v).getD v

theorem adapted_of_ne_object {adapters : List Adapter} {v : Value} (h : ∀ o, v ≠ .object o) :
    adapted adapters v = v := by
  cases v <;> first | rfl | exact absurd rfl (h _)

end Adapter

end Courier
