import Courier.Proofs.CooldownHistory

/-!
# Sending is all or nothing

An attempt to send a message passes five gates: there is a record, it is enabled, it does not cool down
for the recipient, the bindings succeed, and there is something to see. Past the last one the message is
delivered and its cooldown started, both together; at any gate before, neither happens.

* `Pipeline.Deliverable`: what it takes to pass all gates;
* `send_of_deliverable`: what a delivery comes to;
* `result_eq_sent_iff`, `result_eq_error_iff`: when there is one, and when the bindings fail;
* `send_of_result_ne_sent`: what every other attempt comes to;
* `send_all_or_nothing`: all of this, with what becomes of each slot.
-/

namespace Courier

namespace Pipeline

variable {p : Pipeline} {recipient : Recipient} {k : Key} {bind : Binder} {record : Record}
  {context : Context}

/-! ### The bindings -/

theorem render_eq_ok_iff {rendered : Rendered} :
    p.render recipient k record bind = .ok rendered ↔
      ∃ context, bind (.fresh recipient k) = .ok context ∧
        (p.composer.composeRecord context record).1 = rendered := by
  rw [render]
  cases bind (.fresh recipient k) with
  | error e => simp [Except.map]
  | ok context => simp [Except.map]

theorem render_eq_error_iff {e : KeyError} :
    p.render recipient k record bind = .error e ↔ bind (.fresh recipient k) = .error e := by
  rw [render]
  cases bind (.fresh recipient k) with
  | error e' => simp [Except.map]
  | ok context => simp [Except.map]

/-! ### The gates -/

/-- What it takes to deliver a message: the record under its key is enabled and ready, the bindings
succeed, and the record that is filled from them shows something on its channel. -/
structure Deliverable (p : Pipeline) (recipient : Recipient) (k : Key) (bind : Binder) (record : Record)
    (context : Context) : Prop where
  found : p.records.get? k = some record
  enabled : record.enabled = true
  ready : p.cooldowns.isReady recipient record = true
  bound : bind (.fresh recipient k) = .ok context
  visible : (p.composer.composeRecord context record).1.isBlankFor record.channel = false

/-- A message that passes the gates is delivered, and its cooldown started. -/
theorem send_of_deliverable (h : p.Deliverable recipient k bind record context) :
    p.send recipient k bind =
      (⟨recipient, .ok .sent,
          p.senders record.channel recipient record (p.composer.composeRecord context record).1⟩,
        { p with cooldowns := p.cooldowns.start recipient record }) := by
  have havailable : p.available recipient k = .ok record := by
    simp [available, h.found, h.enabled, h.ready]
  have hrender : p.render recipient k record bind =
      .ok (p.composer.composeRecord context record).1 := render_eq_ok_iff.2 ⟨context, h.bound, rfl⟩
  simp [send, havailable, hrender, h.visible]

/-- Only a message that passes the gates is delivered. -/
theorem result_eq_sent_iff :
    (p.send recipient k bind).1.result = .ok .sent ↔
      ∃ record context, p.Deliverable recipient k bind record context := by
  constructor
  · intro hsent
    have hends := p.ends_send recipient k bind
    generalize p.send recipient k bind = out at hsent hends
    cases hends with
    | sent hrecord henabled hready hrender hvisible =>
      obtain ⟨context, hbound, rfl⟩ := render_eq_ok_iff.1 hrender
      exact ⟨_, context, hrecord, henabled, hready, hbound, hvisible⟩
    | notFound => cases hsent
    | disabled => cases hsent
    | cooling => cases hsent
    | failed => cases hsent
    | empty => cases hsent
  · intro hdeliverable
    obtain ⟨record, context, h⟩ := hdeliverable
    rw [send_of_deliverable h]

/-- An attempt fails exactly if the bindings do, which are tried for a record that is enabled and ready. -/
theorem result_eq_error_iff {e : KeyError} :
    (p.send recipient k bind).1.result = .error e ↔
      ∃ record, p.records.get? k = some record ∧ record.enabled = true ∧
        p.cooldowns.isReady recipient record = true ∧ bind (.fresh recipient k) = .error e := by
  have hends := p.ends_send recipient k bind
  generalize p.send recipient k bind = out at hends
  cases hends with
  | notFound hrecord => simp [Receipt.nothing, hrecord]
  | disabled hrecord henabled => simp [Receipt.nothing, hrecord, henabled]
  | cooling hrecord henabled hready => simp [Receipt.nothing, hrecord, hready]
  | failed hrecord henabled hready hrender =>
    simp [Receipt.nothing, hrecord, henabled, hready, render_eq_error_iff.1 hrender]
  | empty hrecord henabled hready hrender =>
    obtain ⟨context, hbound, _⟩ := render_eq_ok_iff.1 hrender
    simp [Receipt.nothing, hbound]
  | sent hrecord henabled hready hrender =>
    obtain ⟨context, hbound, _⟩ := render_eq_ok_iff.1 hrender
    simp [hbound]

/-- Whatever an attempt delivers, it delivers to the recipient that it is for. -/
theorem recipient_send (p : Pipeline) (recipient : Recipient) (k : Key) (bind : Binder) :
    (p.send recipient k bind).1.recipient = recipient := by
  have hends := p.ends_send recipient k bind
  generalize p.send recipient k bind = out at hends
  cases hends <;> rfl

/-- An attempt without a delivery reaches nobody and leaves the pipeline as it is. -/
theorem send_of_result_ne_sent (h : (p.send recipient k bind).1.result ≠ .ok .sent) :
    p.send recipient k bind = (.nothing recipient (p.send recipient k bind).1.result, p) := by
  obtain ⟨hnothing, hafter⟩ := send_of_not_sent h
  have hreceiver := p.recipient_send recipient k bind
  refine Prod.ext ?_ hafter
  generalize (p.send recipient k bind).1 = receipt at hnothing hreceiver ⊢
  obtain ⟨receiver, result, deliveries⟩ := receipt
  rw [show receiver = recipient from hreceiver, show deliveries = [] from hnothing]
  rfl

/-- **Sending is all or nothing,** at any time of the calendar. A message is sent exactly if its record
is there, enabled and ready for the recipient, the bindings succeed and there is something to see; it
fails exactly if all but the last two hold and the bindings fail. Unless it is sent, nobody receives
anything and the pipeline is the same as before. If it is sent, the recipient receives what the sender
of the channel makes of the filled record, nothing but the cooldowns changes, and of these at most the
slot of the recipient and the key of the record. A text that is not a key is refused whatever the
pipeline holds. -/
theorem send_all_or_nothing (p : Pipeline) (hnow : p.cooldowns.now.InRange) (recipient : Recipient)
    (k : Key) (bind : Binder) :
    ((p.send recipient k bind).1.result = .ok .sent ↔
      ∃ record context, p.Deliverable recipient k bind record context) ∧
    (∀ e, (p.send recipient k bind).1.result = .error e ↔
      ∃ record, p.records.get? k = some record ∧ record.enabled = true ∧
        p.cooldowns.isReady recipient record = true ∧ bind (.fresh recipient k) = .error e) ∧
    ((p.send recipient k bind).1.result ≠ .ok .sent →
      p.send recipient k bind = (.nothing recipient (p.send recipient k bind).1.result, p)) ∧
    (∀ record context, p.Deliverable recipient k bind record context →
      ∃ cooldowns, p.send recipient k bind =
          (⟨recipient, .ok .sent,
              p.senders record.channel recipient record (p.composer.composeRecord context record).1⟩,
            { p with cooldowns }) ∧
        cooldowns.now = p.cooldowns.now ∧
        ∀ slot, cooldowns.expiration? slot =
          if recipient.id? = some slot.recipient ∧ record.key = slot.message ∧
              record.delay ≠ .zero then
            some ⟨min (p.cooldowns.now.nanoseconds + record.delay.nanoseconds)
              Instant.last.nanoseconds⟩
          else p.cooldowns.expiration? slot) ∧
    (∀ name, Key.ofString? name = none → p.sendText recipient name bind =
      (.nothing recipient (.error (if Text.isBlank name then .blankKey else .invalid name)), p)) ∧
    (∀ name, Key.ofString? name = some k →
      p.sendText recipient name bind = p.send recipient k bind) := by
  refine ⟨result_eq_sent_iff, fun e => result_eq_error_iff, send_of_result_ne_sent, ?_, ?_, ?_⟩
  · intro record context h
    exact ⟨p.cooldowns.start recipient record, send_of_deliverable h, Cooldowns.now_start,
      Cooldowns.expiration?_start_of_inRange hnow recipient record⟩
  · intro name hname
    rw [sendText, Key.parse, hname]
  · intro name hname
    exact sendText_of_ofString? hname

/-- A pipeline that knows a single message. -/
def withTip : Pipeline := (ofConfig .standard .epoch).insertRecord tip

/-- The message is delivered once and refused when it is sent again at once. -/
theorem tip_sent_and_refused :
    withTip.cooldowns.now.InRange ∧
    withTip.Deliverable alex tip.key .ok tip (.fresh alex tip.key) ∧
    (∃ cooldowns, withTip.send alex tip.key .ok =
        (⟨alex, .ok .sent, [.chat "Drink water"]⟩, { withTip with cooldowns }) ∧
      cooldowns.expiration? ⟨⟨1⟩, tip.key⟩ = some ⟨60000000000⟩) ∧
    ((withTip.send alex tip.key .ok).2.send alex tip.key .ok).1.result ≠ .ok .sent ∧
    ((withTip.send alex tip.key .ok).2.send alex tip.key .ok).1.deliveries = [] ∧
    Key.ofString? "1ST" = none ∧
    withTip.sendText alex "1ST" .ok = (.nothing alex (.error (.invalid "1ST")), withTip) ∧
    Key.ofString? "TIP" = some tip.key ∧
    withTip.sendText alex "TIP" .ok = withTip.send alex tip.key .ok := by
  have hnow : withTip.cooldowns.now.InRange := by decide
  have hdeliverable : withTip.Deliverable alex tip.key .ok tip (.fresh alex tip.key) :=
    { found := by decide +kernel
      enabled := by decide
      ready := by decide +kernel
      bound := rfl
      visible := by decide +kernel }
  have hagain : ((withTip.send alex tip.key .ok).2.send alex tip.key .ok).1.result ≠ .ok .sent := by
    intro hsent
    have hoption := congrArg Except.toOption hsent
    revert hoption
    decide +kernel
  have hname : Key.ofString? "1ST" = none := by decide +kernel
  obtain ⟨-, -, -, hdelivery, hrefused, hread⟩ := send_all_or_nothing withTip hnow alex tip.key .ok
  obtain ⟨-, -, hnothing, -, -, -⟩ :=
    send_all_or_nothing (withTip.send alex tip.key .ok).2 (by decide +kernel) alex tip.key .ok
  obtain ⟨cooldowns, hsend, -, hslots⟩ := hdelivery tip _ hdeliverable
  refine ⟨hnow, hdeliverable, ⟨cooldowns, ?_, ?_⟩, hagain, ?_, hname, ?_, Key.ofString?_text tip.key,
    hread "TIP" (Key.ofString?_text tip.key)⟩
  · rw [hsend, show withTip.senders tip.channel alex tip _ = [.chat "Drink water"] by decide +kernel]
  · rw [hslots]
    decide +kernel
  · rw [hnothing hagain]
    rfl
  · rw [hrefused "1ST" hname, if_neg (by decide +kernel)]

end Pipeline

end Courier
