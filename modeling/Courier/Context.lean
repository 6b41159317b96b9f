import Courier.Key
import Courier.Value.Diagnostic

/-!
# Contexts

The bindings of one composition: for whom, of which message, and what its keys stand for.
-/

namespace Courier

/-- What is bound while one message is composed for one recipient. -/
structure Context where
  recipient : Recipient
  messageKey : Key
  bindings : KeyTable Value
  deriving DecidableEq

namespace Context

/-- Nothing is bound yet. -/
def fresh (recipient : Recipient) (messageKey : Key) : Context :=
  ⟨recipient, messageKey, .empty⟩

/-- The value bound to a key. -/
def get? (c : Context) (k : Key) : Option Value :=
  c.bindings.get? k

/-- Binds a key, whatever it was bound to. -/
def put (c : Context) (k : Key) (v : Value) : Context :=
  { c with bindings := c.bindings.insert k v }

/-- Binds a key that is not bound. -/
def putIfAbsent (c : Context) (k : Key) (v : Value) : Context :=
  { c with bindings := c.bindings.insertIfAbsent k v }

/-- Binds the key of the given text, if it is one. -/
def bind (c : Context) (name : String) (v : Value) : Except KeyError Context :=
  (Key.parse name).map fun k => c.put k v

@[simp] theorem get?_put (c : Context) (k k' : Key) (v : Value) :
    (c.put k v).get? k' = if k' = k then some v else c.get? k' := by
  simp [get?, put]

@[simp] theorem get?_putIfAbsent (c : Context) (k k' : Key) (v : Value) :
    (c.putIfAbsent k v).get? k' = if k' = k then some ((c.get? k).getD v) else c.get? k' := by
  simp [get?, putIfAbsent]

/-- The context for diagnostics. -/
def diagnostic (c : Context) : String :=
  let entries := c.bindings.entries.map fun e =>
    Diagnostic.key e.1 ++ ": " ++ Diagnostic.value e.2
  Diagnostic.record "ContextMap"
    [("recipient", Text.quoted c.recipient.name), ("message_key", Diagnostic.key c.messageKey),
      ("values", "\x7b" ++ String.intercalate ", " entries ++ "\x7d")]

end Context

end Courier
