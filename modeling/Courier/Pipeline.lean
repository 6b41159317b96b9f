import Courier.Composer
import Courier.Cooldowns

/-!
# The pipeline

From the key of a message to its delivery: the record is looked up, refused while it is disabled or
cools down, composed with the bindings of the caller, and delivered if there is anything to see. Only
a delivery starts a cooldown.

The channels turn a rendered record into what reaches the recipient. Recipients who show no titles get
the title and the subtitle as chat, each of them only if there is something in it.

## Main statements

* `send_of_not_sent`: an attempt that does not end in a delivery delivers nothing and leaves no trace.
-/

namespace Courier

/-! ### Deliveries -/

/-- One thing that reaches a recipient. -/
inductive Delivery where
  | chat (line : String)
  | title (title subtitle : String) (timing : Timing)
  deriving DecidableEq, Repr

/-- How a rendered record is delivered to a recipient. -/
abbrev Sender := Recipient → Record → Rendered → List Delivery

/-- The lines of a text; a text that ends with a line feed has an empty last line. -/
def Text.lines (s : String) : List String :=
  (s.toList.splitOn '\n').map String.ofList

/-- What a recipient makes of a title and a subtitle. -/
def Recipient.deliverTitle (recipient : Recipient) (title subtitle : String) (timing : Timing) :
    List Delivery :=
  if recipient.showsTitles then [.title title subtitle timing]
  else ([title, subtitle].filter fun text => !text.isEmpty).map .chat

namespace Sender

/-- The message, line by line; nothing for an empty message. -/
def chat : Sender := fun _ _ rendered =>
  if rendered.message.isEmpty then [] else (Text.lines rendered.message).map .chat

/-- The title and the subtitle, with the timing of the record. -/
def title : Sender := fun recipient record rendered =>
  recipient.deliverTitle rendered.title rendered.subtitle record.timing

/-- The senders of the channels. -/
def standard : Channel → Sender
  | .chat => chat
  | .title => title

end Sender

/-! ### Attempts -/

/-- How an attempt to send a message ends. -/
inductive Outcome where
  | sent
  /-- There is no record under the key. -/
  | notFound
  | disabled
  /-- The record cools down for the recipient. -/
  | cooling
  /-- There is nothing to be seen. -/
  | empty
  deriving DecidableEq, Repr

/-- What came of an attempt to send a message to a recipient. -/
structure Receipt where
  recipient : Recipient
  result : Except KeyError Outcome
  /-- What reached the recipient, in order. -/
  deliveries : List Delivery

/-- The bindings that a caller adds, which can fail for a text that is not a key. What a binder does
depends on the context that it is given and on nothing else: it keeps no state from one recipient to the
next, and does not call back into the pipeline. -/
abbrev Binder := Context → Except KeyError Context

/-- Everything that takes part in sending messages. -/
structure Pipeline where
  composer : Composer
  records : KeyTable Record
  cooldowns : Cooldowns
  senders : Channel → Sender

namespace Receipt

/-- Nothing reached the recipient. -/
def nothing (recipient : Recipient) (result : Except KeyError Outcome) : Receipt :=
  ⟨recipient, result, []⟩

/-- Whether the attempt ended in a failure. -/
def failed (r : Receipt) : Bool :=
  match r.result with
  | .error _ => true
  | .ok _ => false

end Receipt

namespace Pipeline

/-- A pipeline with the composer of a configuration and the usual senders. -/
def ofConfig (config : Config) (now : Instant) : Pipeline :=
  ⟨.ofConfig config, .empty, .fresh now, .standard⟩

/-- Adds a record, in the place of one with the same key. -/
def insertRecord (p : Pipeline) (r : Record) : Pipeline :=
  { p with records := p.records.insert r.key r }

/-- Removes the record under a key. -/
def removeRecord (p : Pipeline) (k : Key) : Pipeline :=
  { p with records := p.records.erase k }

theorem get?_insertRecord (p : Pipeline) (r : Record) (k : Key) :
    (p.insertRecord r).records.get? k = if k = r.key then some r else p.records.get? k :=
  Table.get?_insert p.records r.key k r

theorem get?_removeRecord (p : Pipeline) (k k' : Key) :
    (p.removeRecord k).records.get? k' = if k' = k then none else p.records.get? k' :=
  Table.get?_erase p.records k k'

/-- The record under a key that can be composed for a recipient now, or why there is none. -/
def available (p : Pipeline) (recipient : Recipient) (k : Key) : Except Outcome Record :=
  match p.records.get? k with
  | none => .error .notFound
  | some record =>
    if !record.enabled then .error .disabled
    else if !p.cooldowns.isReady recipient record then .error .cooling
    else .ok record

/-- The record filled for a recipient with the bindings of the caller. -/
def render (p : Pipeline) (recipient : Recipient) (k : Key) (record : Record) (bind : Binder) :
    Except KeyError Rendered :=
  (bind (.fresh recipient k)).map fun context => (p.composer.composeRecord context record).1

/-- Sends the message under a key to a recipient. -/
def send (p : Pipeline) (recipient : Recipient) (k : Key) (bind : Binder) : Receipt × Pipeline :=
  match p.available recipient k with
  | .error outcome => (.nothing recipient (.ok outcome), p)
  | .ok record =>
    match p.render recipient k record bind with
    | .error e => (.nothing recipient (.error e), p)
    | .ok rendered =>
      if rendered.isBlankFor record.channel then (.nothing recipient (.ok .empty), p)
      else
        (⟨recipient, .ok .sent, p.senders record.channel recipient record rendered⟩,
          { p with cooldowns := p.cooldowns.start recipient record })

/-- Sends the message under the key with the given text. -/
def sendText (p : Pipeline) (recipient : Recipient) (name : String) (bind : Binder) :
    Receipt × Pipeline :=
  match Key.parse name with
  | .ok k => p.send recipient k bind
  | .error e => (.nothing recipient (.error e), p)

/-- Sends the message under a key to one recipient after the other, up to the first failure. -/
def broadcast (p : Pipeline) (k : Key) (bind : Binder) :
    List Recipient → List Receipt × Pipeline
  | [] => ([], p)
  | recipient :: others =>
    let (receipt, p) := p.send recipient k bind
    if receipt.failed then ([receipt], p)
    else
      let (receipts, p) := broadcast p k bind others
      (receipt :: receipts, p)

/-- The outcomes of a broadcast, or the failure that ended it. -/
def outcomes (receipts : List Receipt) : Except KeyError (List Outcome) :=
  receipts.mapM Receipt.result

theorem send_of_not_sent {p : Pipeline} {recipient : Recipient} {k : Key} {bind : Binder}
    (h : (p.send recipient k bind).1.result ≠ .ok .sent) :
    (p.send recipient k bind).1.deliveries = [] ∧ (p.send recipient k bind).2 = p := by
  unfold send at h ⊢
  split
  · exact ⟨rfl, rfl⟩
  · split
    · exact ⟨rfl, rfl⟩
    · split
      · exact ⟨rfl, rfl⟩
      · simp_all

end Pipeline

end Courier
