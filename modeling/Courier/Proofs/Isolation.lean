import Courier.Proofs.Sending

/-!
# Recipients and messages are isolated

All that one attempt leaves to a later one is the expiration of a slot, and a slot belongs to a single
recipient and a single message. So what is sent to others has no effect on what someone receives, and
what is sent under other keys has none on the deliveries of a message.

* `Pipeline.reports`: the receipts of a run, each with the key that was asked for;
* `Part`: some of what is sent, with the slots that cool down for it;
* `Alike`: two pipelines that differ at most in the slots of others;
* `Alike.send_of_asks`, `Alike.send_of_not_asks`: an attempt of the part comes to the same in both, and
  any other attempt can be left out in one of them;
* `Alike.reports`: the part of a run is the run of the part;
* `sends_do_not_interfere`: so it is for the recipients with one identifier, and for the messages under
  one key.
-/

namespace Courier

/-! ### Reports -/

namespace Call

/-- The key that a call asks for, if it asks for one. -/
def key? : Call → Option Key
  | .send _ k _ => some k
  | .sendText _ name _ => Key.ofString? name
  | .broadcast k _ _ => some k
  | _ => none

/-- The bindings of the call never fail. It matters for a broadcast alone, which a failure cuts short. -/
def Completes : Call → Prop
  | .broadcast _ bind _ => ∀ context, ∃ bound, bind context = .ok bound
  | _ => True

end Call

namespace Pipeline

/-- The receipts of a call, with the key that it asks for. -/
def report (p : Pipeline) (call : Call) : List (Option Key × Receipt) :=
  (p.perform call).1.map fun receipt => (call.key?, receipt)

/-- The reports of a run, in their order. -/
def reports (p : Pipeline) : List Call → List (Option Key × Receipt)
  | [] => []
  | call :: calls => p.report call ++ (p.perform call).2.reports calls

end Pipeline

/-! ### Parts of what is sent -/

/-- Some of what can be sent, told by recipient and key, and the slots that cool down for it and for
nothing else. -/
structure Part where
  asks : Recipient → Option Key → Bool
  holds : Slot → Prop
  asks_iff : ∀ {recipient : Recipient} {u : Uuid} (k : Key), recipient.id? = some u →
    (asks recipient (some k) = true ↔ holds ⟨u, k⟩)

namespace Part

/-- What is sent to the recipients with an identifier. -/
def ofRecipient (u : Uuid) : Part where
  asks recipient _ := decide (recipient.id? = some u)
  holds slot := slot.recipient = u
  asks_iff := by
    intro recipient v k hid
    rw [hid, decide_eq_true_iff, Option.some.injEq]

/-- What is sent under a key. -/
def ofMessage (k : Key) : Part where
  asks _ key? := decide (key? = some k)
  holds slot := slot.message = k
  asks_iff := by
    intro recipient u k' _
    rw [decide_eq_true_iff, Option.some.injEq]

/-- Whether a report is of the part. -/
def covers (part : Part) (report : Option Key × Receipt) : Bool :=
  part.asks report.2.recipient report.1

theorem filter_covers {recipient : Recipient} {receipt : Receipt}
    (hreceiver : receipt.recipient = recipient) (part : Part) (key? : Option Key) :
    [(key?, receipt)].filter part.covers =
      if part.asks recipient key? then [(key?, receipt)] else [] := by
  rw [← hreceiver, List.filter_cons, List.filter_nil]
  rfl

end Part

/-- What is left of a call when everything outside a part has been removed. -/
def Call.restrict? (part : Part) : Call → Option Call
  | .send recipient k bind =>
    if part.asks recipient (some k) then some (.send recipient k bind) else none
  | .sendText recipient name bind =>
    if part.asks recipient (Key.ofString? name) then some (.sendText recipient name bind) else none
  | .broadcast k bind recipients =>
    some (.broadcast k bind (recipients.filter fun recipient => part.asks recipient (some k)))
  | call => some call

/-! ### Pipelines that a part cannot tell apart -/

/-- Two pipelines that differ at most in the expirations of slots outside the part. -/
structure Alike (part : Part) (p q : Pipeline) : Prop where
  composer : q.composer = p.composer
  records : q.records = p.records
  senders : q.senders = p.senders
  now : q.cooldowns.now = p.cooldowns.now
  expirations : ∀ slot, part.holds slot →
    q.cooldowns.expiration? slot = p.cooldowns.expiration? slot
  /-- The slots of a record are of the part exactly if those of its place are. -/
  filed : ∀ k record, p.records.get? k = some record →
    ∀ u, part.holds ⟨u, record.key⟩ ↔ part.holds ⟨u, k⟩

namespace Pipeline

theorem failed_send {p : Pipeline} {recipient : Recipient} {k : Key} {bind : Binder}
    (hbind : ∀ context, ∃ bound, bind context = .ok bound) :
    (p.send recipient k bind).1.failed = false := by
  rw [Receipt.failed]
  cases hresult : (p.send recipient k bind).1.result with
  | ok outcome => rfl
  | error e =>
    obtain ⟨_, _, _, _, hfails⟩ := result_eq_error_iff.1 hresult
    obtain ⟨bound, hbound⟩ := hbind (.fresh recipient k)
    rw [hbound] at hfails
    cases hfails

theorem recipient_sendText (p : Pipeline) (recipient : Recipient) (name : String) (bind : Binder) :
    (p.sendText recipient name bind).1.recipient = recipient := by
  cases hname : Key.ofString? name with
  | none =>
    rw [sendText, Key.parse, hname]
    rfl
  | some k => rw [sendText_of_ofString? hname, recipient_send]

/-- Bindings that never fail let a broadcast reach everyone. -/
theorem broadcast_cons_of_bound {p : Pipeline} {k : Key} {bind : Binder}
    (hbind : ∀ context, ∃ bound, bind context = .ok bound) (recipient : Recipient)
    (others : List Recipient) :
    p.broadcast k bind (recipient :: others) =
      ((p.send recipient k bind).1 :: ((p.send recipient k bind).2.broadcast k bind others).1,
        ((p.send recipient k bind).2.broadcast k bind others).2) := by
  rw [broadcast_cons, failed_send hbind, if_neg Bool.false_ne_true]

end Pipeline

namespace Alike

open Pipeline

variable {part : Part} {p q : Pipeline} {recipient : Recipient} {k : Key} {record : Record}

/-- A pipeline is like itself if its records are filed in the part where their slots are. -/
theorem refl (hfiled : ∀ k record, p.records.get? k = some record →
    ∀ u, part.holds ⟨u, record.key⟩ ↔ part.holds ⟨u, k⟩) : Alike part p p where
  composer := rfl
  records := rfl
  senders := rfl
  now := rfl
  expirations := fun _ _ => rfl
  filed := hfiled

theorem isReady_eq (h : Alike part p q) (hrecord : p.records.get? k = some record)
    (hasks : part.asks recipient (some k) = true) :
    q.cooldowns.isReady recipient record = p.cooldowns.isReady recipient record := by
  rw [Cooldowns.isReady, Cooldowns.isReady]
  cases hid : recipient.id? with
  | none => rw [Slot.of?_of_none hid]; rfl
  | some u =>
    have hholds : part.holds ⟨u, record.key⟩ :=
      (h.filed k record hrecord u).2 ((part.asks_iff k hid).1 hasks)
    rw [Slot.of?_of_id hid, Option.bind_some, Option.bind_some, h.expirations _ hholds, h.now]

/-- A start in both leaves them alike. -/
theorem start (h : Alike part p q) (recipient : Recipient) (record : Record) :
    Alike part { p with cooldowns := p.cooldowns.start recipient record }
      { q with cooldowns := q.cooldowns.start recipient record } where
  composer := h.composer
  records := h.records
  senders := h.senders
  now := by
    show (q.cooldowns.start recipient record).now = (p.cooldowns.start recipient record).now
    rw [Cooldowns.now_start, Cooldowns.now_start, h.now]
  expirations := by
    intro slot hholds
    show (q.cooldowns.start recipient record).expiration? slot =
      (p.cooldowns.start recipient record).expiration? slot
    rw [Cooldowns.expiration?_start, Cooldowns.expiration?_start, h.expirations slot hholds, h.now]
  filed := h.filed

/-- So does a start in one of them, outside the part. -/
theorem start_of_not_asks (h : Alike part p q) (hrecord : p.records.get? k = some record)
    (hasks : part.asks recipient (some k) = false) :
    Alike part { p with cooldowns := p.cooldowns.start recipient record } q where
  composer := h.composer
  records := h.records
  senders := h.senders
  now := by
    show q.cooldowns.now = (p.cooldowns.start recipient record).now
    rw [Cooldowns.now_start, h.now]
  expirations := by
    intro slot hholds
    show _ = (p.cooldowns.start recipient record).expiration? slot
    rw [Cooldowns.expiration?_start, if_neg, h.expirations slot hholds]
    intro hslot
    obtain ⟨hid, hkey, _⟩ := hslot
    have hplace : part.holds ⟨slot.recipient, k⟩ := by
      rw [← h.filed k record hrecord, hkey]
      exact hholds
    rw [(part.asks_iff k hid).2 hplace] at hasks
    cases hasks
  filed := h.filed

/-- **An attempt of the part comes to the same in both.** -/
theorem send_of_asks (h : Alike part p q) (hasks : part.asks recipient (some k) = true)
    (bind : Binder) :
    (q.send recipient k bind).1 = (p.send recipient k bind).1 ∧
      Alike part (p.send recipient k bind).2 (q.send recipient k bind).2 := by
  have havailable : q.available recipient k = p.available recipient k := by
    rw [available, available, h.records]
    cases hrecord : p.records.get? k with
    | none => rfl
    | some record => simp only [h.isReady_eq hrecord hasks]
  have hrender : ∀ record, q.render recipient k record bind = p.render recipient k record bind := by
    intro record
    rw [render, render, h.composer]
  rw [send, send, havailable]
  cases p.available recipient k with
  | error outcome => exact ⟨rfl, h⟩
  | ok record =>
    simp only [hrender]
    cases p.render recipient k record bind with
    | error e => exact ⟨rfl, h⟩
    | ok rendered =>
      by_cases hblank : rendered.isBlankFor record.channel = true
      · simp only [hblank, if_true]
        exact ⟨trivial, h⟩
      · simp only [hblank, Bool.false_eq_true, if_false]
        exact ⟨by rw [h.senders], h.start recipient record⟩

/-- **Any other attempt can be left out.** -/
theorem send_of_not_asks (h : Alike part p q) (hasks : part.asks recipient (some k) = false)
    (bind : Binder) : Alike part (p.send recipient k bind).2 q := by
  have hends := p.ends_send recipient k bind
  generalize p.send recipient k bind = out at hends ⊢
  cases hends with
  | sent hrecord => exact h.start_of_not_asks hrecord hasks
  | notFound => exact h
  | disabled => exact h
  | cooling => exact h
  | failed => exact h
  | empty => exact h

/-- A text that is not a key is refused by both, and any other stands for its key. -/
theorem sendText_of_asks (h : Alike part p q) {name : String}
    (hasks : part.asks recipient (Key.ofString? name) = true) (bind : Binder) :
    (q.sendText recipient name bind).1 = (p.sendText recipient name bind).1 ∧
      Alike part (p.sendText recipient name bind).2 (q.sendText recipient name bind).2 := by
  cases hname : Key.ofString? name with
  | none =>
    rw [sendText, sendText, Key.parse, hname]
    exact ⟨rfl, h⟩
  | some k =>
    rw [sendText_of_ofString? hname, sendText_of_ofString? hname]
    rw [hname] at hasks
    exact h.send_of_asks hasks bind

theorem sendText_of_not_asks (h : Alike part p q) {name : String}
    (hasks : part.asks recipient (Key.ofString? name) = false) (bind : Binder) :
    Alike part (p.sendText recipient name bind).2 q := by
  cases hname : Key.ofString? name with
  | none =>
    rw [sendText, Key.parse, hname]
    exact h
  | some k =>
    rw [sendText_of_ofString? hname]
    rw [hname] at hasks
    exact h.send_of_not_asks hasks bind

/-! ### The calls of a run -/

/-- A broadcast to many comes to the same as one to those of them that are of the part. -/
theorem broadcast (h : Alike part p q) (k : Key) {bind : Binder}
    (hbind : ∀ context, ∃ bound, bind context = .ok bound) (recipients : List Recipient) :
    ((p.broadcast k bind recipients).1.filter fun receipt => part.asks receipt.recipient (some k)) =
        (q.broadcast k bind (recipients.filter fun recipient => part.asks recipient (some k))).1 ∧
      Alike part (p.broadcast k bind recipients).2
        (q.broadcast k bind (recipients.filter fun recipient => part.asks recipient (some k))).2 := by
  induction recipients generalizing p q with
  | nil => exact ⟨rfl, h⟩
  | cons recipient others ih =>
    have hreceiver : (p.send recipient k bind).1.recipient = recipient :=
      p.recipient_send recipient k bind
    by_cases hasks : part.asks recipient (some k) = true
    · obtain ⟨hreceipt, hafter⟩ := h.send_of_asks hasks bind
      obtain ⟨hreceipts, hend⟩ := ih hafter
      simp only [broadcast_cons_of_bound hbind, List.filter_cons, hreceiver, hasks, if_true, hreceipts,
        hreceipt]
      exact ⟨trivial, hend⟩
    · have hleft : Alike part (p.send recipient k bind).2 q :=
        h.send_of_not_asks (Bool.eq_false_iff.2 hasks) bind
      simp only [broadcast_cons_of_bound hbind, List.filter_cons, hreceiver, hasks]
      exact ih hleft

theorem insertRecord (h : Alike part p q) (record : Record) :
    Alike part (p.insertRecord record) (q.insertRecord record) where
  composer := h.composer
  records := by
    show q.records.insert record.key record = p.records.insert record.key record
    rw [h.records]
  senders := h.senders
  now := h.now
  expirations := h.expirations
  filed := by
    intro k found hfound u
    rw [get?_insertRecord] at hfound
    split at hfound
    · rw [← Option.some.inj hfound, ‹k = record.key›]
    · exact h.filed k found hfound u

theorem removeRecord (h : Alike part p q) (k : Key) :
    Alike part (p.removeRecord k) (q.removeRecord k) where
  composer := h.composer
  records := by
    show q.records.erase k = p.records.erase k
    rw [h.records]
  senders := h.senders
  now := h.now
  expirations := h.expirations
  filed := by
    intro k' found hfound u
    rw [get?_removeRecord] at hfound
    split at hfound
    · cases hfound
    · exact h.filed k' found hfound u

theorem advance (h : Alike part p q) (step : Duration) :
    Alike part (p.advance step) (q.advance step) where
  composer := h.composer
  records := h.records
  senders := h.senders
  now := congrArg (·.after step) h.now
  expirations := h.expirations
  filed := h.filed

theorem sweep (h : Alike part p q) : Alike part p.sweep q.sweep where
  composer := h.composer
  records := h.records
  senders := h.senders
  now := h.now
  expirations := by
    intro slot hholds
    show q.cooldowns.sweep.expiration? slot = p.cooldowns.sweep.expiration? slot
    rw [Cooldowns.get?_sweep, Cooldowns.get?_sweep, h.expirations slot hholds, h.now]
  filed := h.filed

/-- **A call comes to the same in both as far as the part goes,** when all else has been removed from it
in one of them, which may be the whole call. -/
theorem perform (h : Alike part p q) {call : Call} (hcall : call.Completes) :
    (call.restrict? part = none ∧ (p.report call).filter part.covers = [] ∧
        Alike part (p.perform call).2 q) ∨
      ∃ call', call.restrict? part = some call' ∧
        (p.report call).filter part.covers = q.report call' ∧
        Alike part (p.perform call).2 (q.perform call').2 := by
  cases call with
  | send recipient k bind =>
    have hfilter := Part.filter_covers (p.recipient_send recipient k bind) part (some k)
    by_cases hasks : part.asks recipient (some k) = true
    · obtain ⟨hreceipt, hafter⟩ := h.send_of_asks hasks bind
      refine .inr ⟨.send recipient k bind, if_pos hasks, ?_, hafter⟩
      show _ = [(some k, (q.send recipient k bind).1)]
      rw [hreceipt]
      exact hfilter.trans (if_pos hasks)
    · exact .inl ⟨if_neg hasks, hfilter.trans (if_neg hasks),
        h.send_of_not_asks (Bool.eq_false_iff.2 hasks) bind⟩
  | sendText recipient name bind =>
    have hfilter := Part.filter_covers (p.recipient_sendText recipient name bind) part
      (Key.ofString? name)
    by_cases hasks : part.asks recipient (Key.ofString? name) = true
    · obtain ⟨hreceipt, hafter⟩ := h.sendText_of_asks hasks bind
      refine .inr ⟨.sendText recipient name bind, if_pos hasks, ?_, hafter⟩
      show _ = [(Key.ofString? name, (q.sendText recipient name bind).1)]
      rw [hreceipt]
      exact hfilter.trans (if_pos hasks)
    · exact .inl ⟨if_neg hasks, hfilter.trans (if_neg hasks),
        h.sendText_of_not_asks (Bool.eq_false_iff.2 hasks) bind⟩
  | broadcast k bind recipients =>
    obtain ⟨hreceipts, hafter⟩ := h.broadcast k hcall recipients
    refine .inr ⟨_, rfl, ?_, hafter⟩
    show ((p.broadcast k bind recipients).1.map fun receipt => (some k, receipt)).filter part.covers =
      (q.broadcast k bind _).1.map fun receipt => (some k, receipt)
    rw [List.filter_map, ← hreceipts]
    rfl
  | insert record => exact .inr ⟨_, rfl, rfl, h.insertRecord record⟩
  | remove k => exact .inr ⟨_, rfl, rfl, h.removeRecord k⟩
  | advance step => exact .inr ⟨_, rfl, rfl, h.advance step⟩
  | sweep => exact .inr ⟨_, rfl, rfl, h.sweep⟩

/-- **The part of a run is the run of the part.** -/
theorem reports (h : Alike part p q) {calls : List Call} (hcalls : ∀ call ∈ calls, call.Completes) :
    (p.reports calls).filter part.covers = q.reports (calls.filterMap (Call.restrict? part)) := by
  induction calls generalizing p q with
  | nil => rfl
  | cons call calls ih =>
    have hothers : ∀ call ∈ calls, call.Completes := fun c hc => hcalls c (List.mem_cons_of_mem call hc)
    rw [Pipeline.reports, List.filter_append]
    rcases h.perform (hcalls call List.mem_cons_self) with
      ⟨hnone, hreport, hafter⟩ | ⟨call', hsome, hreport, hafter⟩
    · rw [List.filterMap_cons_none hnone, hreport, List.nil_append, ih hafter hothers]
    · rw [List.filterMap_cons_some hsome, Pipeline.reports, hreport, ih hafter hothers]

end Alike

/-- **Recipients do not interfere, nor do messages.** In every run of a pipeline whose broadcasts are not
cut short, the recipients with an identifier are sent the same, with the same outcomes and in the same
order, as in the run from which everything for others has been removed. If every record is filed under
its own key, which is where insertion puts it, the same holds for the sends under one key and the run
from which all others have been removed. -/
theorem sends_do_not_interfere (p : Pipeline) (calls : List Call)
    (hcalls : ∀ call ∈ calls, call.Completes) :
    (∀ u : Uuid,
      ((p.reports calls).filter fun report => decide (report.2.recipient.id? = some u)) =
        p.reports (calls.filterMap (Call.restrict? (Part.ofRecipient u)))) ∧
    (p.Filed → ∀ k : Key,
      ((p.reports calls).filter fun report => decide (report.1 = some k)) =
        p.reports (calls.filterMap (Call.restrict? (Part.ofMessage k)))) := by
  constructor
  · intro u
    have halike : Alike (Part.ofRecipient u) p p := .refl fun _ _ _ _ => Iff.rfl
    exact halike.reports hcalls
  · intro hfiled k
    have halike : Alike (Part.ofMessage k) p p := .refl fun k' record hrecord _ => by
      rw [hfiled k' record hrecord]
    exact halike.reports hcalls

/-- Someone else with an identifier. -/
def sam : Recipient := { Recipient.named "Sam" with id? := some ⟨2⟩ }

/-- Another message that waits for a minute. -/
def notice : Record :=
  { tip with key := ⟨"NOTICE", by decide +kernel⟩, message := "Restart soon" }

/-- Both messages go to several recipients. -/
def crowd : List Call :=
  [.insert tip, .insert notice, .broadcast tip.key .ok [sam, alex, .named "CONSOLE"],
    .send alex notice.key .ok, .advance (.ofSeconds 30 0), .send sam notice.key .ok,
    .sweep, .send alex tip.key .ok]

/-- What of it goes to one recipient. -/
def crowdForAlex : List Call :=
  [.insert tip, .insert notice, .broadcast tip.key .ok [alex], .send alex notice.key .ok,
    .advance (.ofSeconds 30 0), .sweep, .send alex tip.key .ok]

/-- What of it is one message. -/
def crowdForTip : List Call :=
  [.insert tip, .insert notice, .broadcast tip.key .ok [sam, alex, .named "CONSOLE"],
    .advance (.ofSeconds 30 0), .sweep, .send alex tip.key .ok]

theorem crowd_sends_apart :
    (∀ call ∈ crowd, call.Completes) ∧ (Pipeline.ofConfig .standard .epoch).Filed ∧
    (((Pipeline.ofConfig .standard .epoch).reports crowd).filter fun report =>
        decide (report.2.recipient.id? = some ⟨1⟩)) =
      (Pipeline.ofConfig .standard .epoch).reports crowdForAlex ∧
    (((Pipeline.ofConfig .standard .epoch).reports crowd).filter fun report =>
        decide (report.1 = some tip.key)) =
      (Pipeline.ofConfig .standard .epoch).reports crowdForTip := by
  have hcalls : ∀ call ∈ crowd, call.Completes := by simp [crowd, Call.Completes]
  have hfiled : (Pipeline.ofConfig .standard .epoch).Filed := fun k record hrecord => by cases hrecord
  obtain ⟨hrecipient, hmessage⟩ :=
    sends_do_not_interfere (Pipeline.ofConfig .standard .epoch) crowd hcalls
  refine ⟨hcalls, hfiled, (hrecipient ⟨1⟩).trans ?_, (hmessage hfiled tip.key).trans ?_⟩
  · rw [show crowd.filterMap (Call.restrict? (Part.ofRecipient ⟨1⟩)) = crowdForAlex from rfl]
  · rw [show crowd.filterMap (Call.restrict? (Part.ofMessage tip.key)) = crowdForTip from rfl]

end Courier
