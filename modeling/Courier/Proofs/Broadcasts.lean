import Courier.Proofs.Isolation
import Courier.Proofs.Sweeping
import Mathlib.Data.List.Nodup
import Mathlib.Tactic.Choose

/-!
# Broadcasts

A broadcast is nothing but single sends in turn. It goes on up to the first recipient for whom the
bindings fail; who comes later is not reached at all. As long as no two recipients share an identifier
none of them gets in another's way, so that it makes no difference in which order they stand.

* `Pipeline.sendEach`: single sends, whatever comes of each;
* `broadcast_append`: a broadcast sends in turn as long as no send fails;
* `unfailing_or_exists_failure`: either none fails or there is a first that does;
* `outcomes_eq_ok_iff`: what is reported of all the sends together;
* `receipts_broadcast_eq_map`: among recipients that are told apart, each is sent what it would be sent
  alone;
* `after_broadcast_eq_of_perm`: and the order leaves no trace;
* `broadcast_sends_in_turn`: all of this.
-/

namespace Courier

namespace Receipt

theorem failed_eq_false_iff {receipt : Receipt} :
    receipt.failed = false ↔ ∃ outcome, receipt.result = .ok outcome := by
  rw [failed]
  cases receipt.result with
  | ok outcome => exact iff_of_true rfl ⟨outcome, rfl⟩
  | error e => simp

end Receipt

namespace Pipeline

variable {p : Pipeline} {k : Key} {bind : Binder} {recipient : Recipient}
  {recipients earlier : List Recipient}

/-! ### Sends in turn -/

/-- Single sends of a message to one recipient after the other, whatever comes of each. -/
def sendEach (p : Pipeline) (k : Key) (bind : Binder) : List Recipient → List Receipt × Pipeline
  | [] => ([], p)
  | recipient :: others =>
    ((p.send recipient k bind).1 :: ((p.send recipient k bind).2.sendEach k bind others).1,
      ((p.send recipient k bind).2.sendEach k bind others).2)

/-- None of the single sends fails. -/
def Unfailing (p : Pipeline) (k : Key) (bind : Binder) (recipients : List Recipient) : Prop :=
  ∀ receipt ∈ (p.sendEach k bind recipients).1, receipt.failed = false

theorem unfailing_nil (p : Pipeline) (k : Key) (bind : Binder) : p.Unfailing k bind [] := by
  intro receipt hmem
  cases hmem

theorem unfailing_cons_iff {others : List Recipient} :
    p.Unfailing k bind (recipient :: others) ↔
      (p.send recipient k bind).1.failed = false ∧
        (p.send recipient k bind).2.Unfailing k bind others :=
  List.forall_mem_cons

theorem recipients_sendEach (p : Pipeline) (k : Key) (bind : Binder) (recipients : List Recipient) :
    (p.sendEach k bind recipients).1.map Receipt.recipient = recipients := by
  induction recipients generalizing p with
  | nil => rfl
  | cons recipient others ih =>
    show (p.send recipient k bind).1.recipient :: List.map _ _ = _
    rw [recipient_send, ih]

/-- **A broadcast sends in turn as long as no send fails.** -/
theorem broadcast_append (h : p.Unfailing k bind earlier) (rest : List Recipient) :
    p.broadcast k bind (earlier ++ rest) =
      ((p.sendEach k bind earlier).1 ++ ((p.sendEach k bind earlier).2.broadcast k bind rest).1,
        ((p.sendEach k bind earlier).2.broadcast k bind rest).2) := by
  induction earlier generalizing p with
  | nil => rfl
  | cons recipient others ih =>
    obtain ⟨hsend, hothers⟩ := unfailing_cons_iff.1 h
    rw [List.cons_append, broadcast_cons, hsend, if_neg Bool.false_ne_true, ih hothers]
    rfl

theorem broadcast_of_unfailing (h : p.Unfailing k bind recipients) :
    p.broadcast k bind recipients = p.sendEach k bind recipients := by
  have hall := broadcast_append h []
  rw [List.append_nil] at hall
  rw [hall]
  exact Prod.ext (List.append_nil _) rfl

/-- **The first failure is the end of a broadcast.** It leaves nothing, and nobody comes after it. -/
theorem broadcast_of_failure (h : p.Unfailing k bind earlier) {e : KeyError}
    (hfails : ((p.sendEach k bind earlier).2.send recipient k bind).1.result = .error e)
    (later : List Recipient) :
    p.broadcast k bind (earlier ++ recipient :: later) =
      ((p.sendEach k bind earlier).1 ++ [.nothing recipient (.error e)],
        (p.sendEach k bind earlier).2) := by
  have hsend : (p.sendEach k bind earlier).2.send recipient k bind =
      (.nothing recipient (.error e), (p.sendEach k bind earlier).2) := by
    rw [send_of_result_ne_sent (by rw [hfails]; exact fun heq => by cases heq), hfails]
  rw [broadcast_append h, broadcast_cons, hsend]
  rfl

theorem unfailing_or_exists_failure (p : Pipeline) (k : Key) (bind : Binder)
    (recipients : List Recipient) :
    p.Unfailing k bind recipients ∨
      ∃ earlier recipient later e, recipients = earlier ++ recipient :: later ∧
        p.Unfailing k bind earlier ∧
        ((p.sendEach k bind earlier).2.send recipient k bind).1.result = .error e := by
  induction recipients generalizing p with
  | nil => exact .inl (p.unfailing_nil k bind)
  | cons recipient others ih =>
    cases hresult : (p.send recipient k bind).1.result with
    | error e =>
      exact .inr ⟨[], recipient, others, e, rfl, p.unfailing_nil k bind, hresult⟩
    | ok outcome =>
      have hsend := Receipt.failed_eq_false_iff.2 ⟨outcome, hresult⟩
      rcases ih (p.send recipient k bind).2 with
        hall | ⟨earlier, failing, later, e, rfl, hearlier, hfails⟩
      · exact .inl (unfailing_cons_iff.2 ⟨hsend, hall⟩)
      · exact .inr ⟨recipient :: earlier, failing, later, e, rfl,
          unfailing_cons_iff.2 ⟨hsend, hearlier⟩, hfails⟩

/-! ### What is reported -/

/-- Outcomes are reported for all receipts or for none, in their order. -/
theorem outcomes_eq_ok_iff {receipts : List Receipt} {reported : List Outcome} :
    outcomes receipts = .ok reported ↔ receipts.map Receipt.result = reported.map .ok := by
  induction receipts generalizing reported with
  | nil => cases reported <;> simp [outcomes, pure, Except.pure]
  | cons receipt receipts ih =>
    rw [outcomes, List.mapM_cons, List.map_cons]
    show (receipt.result.bind fun outcome => (outcomes receipts).bind fun others =>
      .ok (outcome :: others)) = _ ↔ _
    cases receipt.result with
    | error e => cases reported <;> simp [Except.bind]
    | ok outcome =>
      cases reported with
      | nil =>
        cases outcomes receipts <;> simp [Except.bind]
      | cons first others =>
        rw [List.map_cons, List.cons.injEq, ← ih]
        cases outcomes receipts <;> simp [Except.bind]

theorem exists_outcomes {receipts : List Receipt} (h : ∀ receipt ∈ receipts, receipt.failed = false) :
    ∃ reported, outcomes receipts = .ok reported := by
  simp only [outcomes_eq_ok_iff]
  induction receipts with
  | nil => exact ⟨[], rfl⟩
  | cons receipt receipts ih =>
    obtain ⟨hfirst, hothers⟩ := List.forall_mem_cons.1 h
    obtain ⟨outcome, hresult⟩ := Receipt.failed_eq_false_iff.1 hfirst
    obtain ⟨reported, hreported⟩ := ih hothers
    exact ⟨outcome :: reported, by rw [List.map_cons, List.map_cons, hresult, hreported]⟩

/-- After a failure it alone is reported. -/
theorem outcomes_of_failure {receipts : List Receipt}
    (h : ∀ receipt ∈ receipts, receipt.failed = false) (recipient : Recipient) (e : KeyError) :
    outcomes (receipts ++ [.nothing recipient (.error e)]) = .error e := by
  obtain ⟨reported, hreported⟩ := exists_outcomes h
  rw [outcomes, List.mapM_append]
  show ((outcomes receipts).bind fun _ => _) = _
  rw [hreported]
  rfl

end Pipeline

/-! ### Recipients that are told apart -/

/-- What is sent to the recipients with the same identifier, or to those without any. -/
def Part.ofId (id? : Option Uuid) : Part where
  asks recipient _ := decide (recipient.id? = id?)
  holds slot := id? = some slot.recipient
  asks_iff := by
    intro recipient u k hid
    rw [hid, decide_eq_true_iff, eq_comm]

namespace Pipeline

variable {p q : Pipeline} {k : Key} {bind : Binder} {recipients recipients' : List Recipient}

theorem alike_ofId (p : Pipeline) (id? : Option Uuid) : Alike (.ofId id?) p p :=
  .refl fun _ _ _ _ => Iff.rfl

/-- Sending to someone without an identifier leaves no trace. -/
theorem after_send_of_id?_eq_none (p : Pipeline) {recipient : Recipient}
    (hnone : recipient.id? = none) (k : Key) (bind : Binder) : (p.send recipient k bind).2 = p := by
  have hends := p.ends_send recipient k bind
  generalize p.send recipient k bind = out at hends ⊢
  cases hends with
  | @sent record =>
    show { p with cooldowns := p.cooldowns.start recipient record } = p
    rw [Cooldowns.start, Slot.of?_of_none hnone]
  | notFound => rfl
  | disabled => rfl
  | cooling => rfl
  | failed => rfl
  | empty => rfl

theorem alike_after_send {id? : Option Uuid} (h : Alike (.ofId id?) q p) {other : Recipient}
    (hother : other.id? = none ∨ other.id? ≠ id?) (k : Key) (bind : Binder) :
    Alike (.ofId id?) (q.send other k bind).2 p := by
  rcases hother with hnone | hne
  · rw [q.after_send_of_id?_eq_none hnone]
    exact h
  · exact h.send_of_not_asks (decide_eq_false hne) bind

/-- **Recipients that are told apart are sent what each would be sent alone.** The pipeline that a
recipient finds differs from the one at the start only in the slots of others. -/
theorem receipts_broadcast_of_alike (hbind : ∀ context, ∃ bound, bind context = .ok bound)
    (hids : (recipients.filterMap Recipient.id?).Nodup)
    (h : ∀ recipient ∈ recipients, Alike (.ofId recipient.id?) q p) :
    (q.broadcast k bind recipients).1 = recipients.map fun recipient => (p.send recipient k bind).1 := by
  induction recipients generalizing q with
  | nil => rfl
  | cons recipient others ih =>
    obtain ⟨hhere, hothers⟩ := List.forall_mem_cons.1 h
    have hreceipt : (p.send recipient k bind).1 = (q.send recipient k bind).1 :=
      (hhere.send_of_asks (decide_eq_true rfl) bind).1
    have hapart : ∀ other ∈ others, recipient.id? = none ∨ recipient.id? ≠ other.id? := by
      intro other hmem
      cases hid : recipient.id? with
      | none => exact .inl rfl
      | some u =>
        rw [List.filterMap_cons_some hid, List.nodup_cons] at hids
        exact .inr fun heq => hids.1 (List.mem_filterMap.2 ⟨other, hmem, heq.symm⟩)
    have hdistinct : (others.filterMap Recipient.id?).Nodup :=
      hids.sublist ((List.sublist_cons_self recipient others).filterMap Recipient.id?)
    rw [broadcast_cons_of_bound hbind, List.map_cons, hreceipt]
    refine congrArg _ (ih hdistinct fun other hmem => ?_)
    exact alike_after_send (hothers other hmem) (hapart other hmem) k bind

theorem receipts_broadcast_eq_map (hbind : ∀ context, ∃ bound, bind context = .ok bound)
    (hids : (recipients.filterMap Recipient.id?).Nodup) :
    (p.broadcast k bind recipients).1 = recipients.map fun recipient => (p.send recipient k bind).1 :=
  receipts_broadcast_of_alike hbind hids fun recipient _ => p.alike_ofId recipient.id?

/-- Pipelines that no part can tell apart are equal. -/
theorem eq_of_alike (h : ∀ u, ∃ r, Alike (.ofId (some u)) p r ∧ Alike (.ofId (some u)) q r) : p = q := by
  obtain ⟨r, hp, hq⟩ := h ⟨0⟩
  have hcooldowns : p.cooldowns = q.cooldowns := by
    refine Cooldowns.ext_expiration? (hp.now.symm.trans hq.now) fun slot => ?_
    obtain ⟨r', hp', hq'⟩ := h slot.recipient
    exact (hp'.expirations slot rfl).symm.trans (hq'.expirations slot rfl)
  have hcomposer := hp.composer.symm.trans hq.composer
  have hrecords := hp.records.symm.trans hq.records
  have hsenders := hp.senders.symm.trans hq.senders
  cases p
  cases q
  cases hcooldowns
  cases hcomposer
  cases hrecords
  cases hsenders
  rfl

/-- Only one recipient has a given identifier, so that there is but one order for those that have it. -/
theorem filter_eq_of_perm (hperm : recipients'.Perm recipients)
    (hids : (recipients.filterMap Recipient.id?).Nodup) (u : Uuid) :
    (recipients'.filter fun recipient => decide (recipient.id? = some u)) =
      recipients.filter fun recipient => decide (recipient.id? = some u) := by
  have hfilter := hperm.filter fun recipient => decide (recipient.id? = some u)
  have hcount : (recipients.filter fun recipient => decide (recipient.id? = some u)).length ≤ 1 := by
    have hone := List.nodup_iff_count_le_one.1 hids u
    rw [List.count_filterMap, List.countP_eq_length_filter] at hone
    simpa only [beq_eq_decide] using hone
  cases hlist : recipients.filter fun recipient => decide (recipient.id? = some u) with
  | nil =>
    rw [hlist] at hfilter
    exact hfilter.eq_nil
  | cons recipient others =>
    rw [hlist] at hfilter hcount
    obtain rfl : others = [] :=
      List.eq_nil_of_length_eq_zero (Nat.le_zero.1 (Nat.le_of_succ_le_succ hcount))
    exact hfilter.eq_singleton

/-- **The order leaves no trace.** For every identifier a broadcast leaves the slots as it would if sent
to the one recipient that has it. -/
theorem after_broadcast_eq_of_perm (hbind : ∀ context, ∃ bound, bind context = .ok bound)
    (hperm : recipients'.Perm recipients) (hids : (recipients.filterMap Recipient.id?).Nodup) :
    (p.broadcast k bind recipients').2 = (p.broadcast k bind recipients).2 := by
  refine eq_of_alike fun u => ?_
  obtain ⟨-, halike'⟩ := (p.alike_ofId (some u)).broadcast k hbind recipients'
  obtain ⟨-, halike⟩ := (p.alike_ofId (some u)).broadcast k hbind recipients
  refine ⟨_, ?_, halike⟩
  rw [show (recipients.filter fun recipient => (Part.ofId (some u)).asks recipient (some k)) =
    recipients'.filter fun recipient => (Part.ofId (some u)).asks recipient (some k) from
      (filter_eq_of_perm hperm hids u).symm]
  exact halike'

/-- What reaches a recipient, in its order. -/
def deliveriesTo (recipient : Recipient) (receipts : List Receipt) : List Delivery :=
  (receipts.filter fun receipt => decide (receipt.recipient = recipient)).flatMap Receipt.deliveries

/-- Someone who is sent the same each time receives it as often as it is sent. -/
theorem deliveriesTo_map {receiptOf : Recipient → Receipt}
    (hreceiver : ∀ recipient, (receiptOf recipient).recipient = recipient) (recipient : Recipient)
    (recipients : List Recipient) :
    deliveriesTo recipient (recipients.map receiptOf) =
      (List.replicate (recipients.count recipient) recipient).flatMap fun recipient =>
        (receiptOf recipient).deliveries := by
  have hfilter : ((fun receipt => decide (receipt.recipient = recipient)) ∘ receiptOf) =
      fun other => decide (other = recipient) := by
    funext other
    rw [Function.comp_apply, hreceiver]
  rw [deliveriesTo, List.filter_map, hfilter, List.filter_eq, List.flatMap_map]

/-- **A broadcast is sending in turn, and the turns may be exchanged.** Either no send fails, the
broadcast is the sends to all recipients in turn, and an outcome is reported for each; or there is a first
recipient for whom the bindings fail, the broadcast is the sends up to this one, who receives nothing, the
pipeline stays as the sends before it have left it, and the failure is reported. If bindings never fail
and no two recipients share an identifier, then in any order of the recipients each has the same outcome,
the pipeline is left the same, and the same reaches everyone. -/
theorem broadcast_sends_in_turn (p : Pipeline) (k : Key) (bind : Binder)
    (recipients : List Recipient) :
    ((p.Unfailing k bind recipients ∧
        p.broadcast k bind recipients = p.sendEach k bind recipients ∧
        (p.broadcast k bind recipients).1.map Receipt.recipient = recipients ∧
        ∃ reported, outcomes (p.broadcast k bind recipients).1 = .ok reported ∧
          (p.broadcast k bind recipients).1.map Receipt.result = reported.map .ok) ∨
      ∃ earlier recipient later e, recipients = earlier ++ recipient :: later ∧
        p.Unfailing k bind earlier ∧
        ((p.sendEach k bind earlier).2.send recipient k bind).1.result = .error e ∧
        bind (.fresh recipient k) = .error e ∧
        p.broadcast k bind recipients =
          ((p.sendEach k bind earlier).1 ++ [.nothing recipient (.error e)],
            (p.sendEach k bind earlier).2) ∧
        (p.broadcast k bind recipients).1.map Receipt.recipient = earlier ++ [recipient] ∧
        outcomes (p.broadcast k bind recipients).1 = .error e) ∧
    ((∀ context, ∃ bound, bind context = .ok bound) →
      (recipients.filterMap Recipient.id?).Nodup →
      ∃ outcomeOf : Recipient → Outcome, ∀ recipients', recipients'.Perm recipients →
        outcomes (p.broadcast k bind recipients').1 = .ok (recipients'.map outcomeOf) ∧
        (p.broadcast k bind recipients').2 = (p.broadcast k bind recipients).2 ∧
        ∀ recipient, deliveriesTo recipient (p.broadcast k bind recipients').1 =
          deliveriesTo recipient (p.broadcast k bind recipients).1) := by
  refine ⟨?_, fun hbind hids => ?_⟩
  · rcases p.unfailing_or_exists_failure k bind recipients with
      hall | ⟨earlier, recipient, later, e, rfl, hearlier, hfails⟩
    · refine .inl ⟨hall, broadcast_of_unfailing hall, ?_⟩
      rw [broadcast_of_unfailing hall]
      obtain ⟨reported, hreported⟩ := exists_outcomes hall
      exact ⟨p.recipients_sendEach k bind recipients, reported, hreported,
        outcomes_eq_ok_iff.1 hreported⟩
    · obtain ⟨_, -, -, -, hbind⟩ := result_eq_error_iff.1 hfails
      have hbroadcast := broadcast_of_failure hearlier hfails later
      refine .inr ⟨earlier, recipient, later, e, rfl, hearlier, hfails, hbind, hbroadcast, ?_, ?_⟩
      · rw [hbroadcast, List.map_append, recipients_sendEach]
        rfl
      · rw [hbroadcast]
        exact outcomes_of_failure hearlier recipient e
  · have hsent : ∀ recipient, ∃ outcome, (p.send recipient k bind).1.result = .ok outcome :=
      fun recipient => Receipt.failed_eq_false_iff.1 (failed_send hbind)
    choose outcomeOf houtcome using hsent
    refine ⟨outcomeOf, fun recipients' hperm => ?_⟩
    have hids' : (recipients'.filterMap Recipient.id?).Nodup :=
      (hperm.filterMap Recipient.id?).nodup_iff.2 hids
    refine ⟨?_, after_broadcast_eq_of_perm hbind hperm hids, fun recipient => ?_⟩
    · rw [outcomes_eq_ok_iff, receipts_broadcast_eq_map hbind hids', List.map_map, List.map_map]
      exact List.map_congr_left fun recipient _ => houtcome recipient
    · have hreceiver : ∀ recipient, (p.send recipient k bind).1.recipient = recipient :=
        fun recipient => p.recipient_send recipient k bind
      rw [receipts_broadcast_eq_map hbind hids', receipts_broadcast_eq_map hbind hids,
        deliveriesTo_map hreceiver, deliveriesTo_map hreceiver, hperm.count_eq]

/-- Someone without an identifier, who never waits. -/
def console : Recipient := .named "CONSOLE"

/-- The message was just sent to one recipient. -/
def afterTip : Pipeline := (withTip.send alex tip.key .ok).2

/-- This one waits, wherever it stands, and the others are sent the message. -/
theorem tip_in_any_order :
    (∀ context, ∃ bound, (Except.ok : Binder) context = .ok bound) ∧
    ([alex, console, sam, console].filterMap Recipient.id?).Nodup ∧
    [console, sam, console, alex].Perm [alex, console, sam, console] ∧
    outcomes (afterTip.broadcast tip.key .ok [alex, console, sam, console]).1 =
      .ok [.cooling, .sent, .sent, .sent] ∧
    outcomes (afterTip.broadcast tip.key .ok [console, sam, console, alex]).1 =
      .ok [.sent, .sent, .sent, .cooling] ∧
    (afterTip.broadcast tip.key .ok [console, sam, console, alex]).2 =
      (afterTip.broadcast tip.key .ok [alex, console, sam, console]).2 ∧
    deliveriesTo console (afterTip.broadcast tip.key .ok [console, sam, console, alex]).1 =
      [.chat "Drink water", .chat "Drink water"] := by
  have hbind : ∀ context, ∃ bound, (Except.ok : Binder) context = .ok bound :=
    fun context => ⟨context, rfl⟩
  have hids : ([alex, console, sam, console].filterMap Recipient.id?).Nodup := by decide
  have hperm : [console, sam, console, alex].Perm [alex, console, sam, console] := by decide
  obtain ⟨-, horder⟩ :=
    broadcast_sends_in_turn afterTip tip.key .ok [alex, console, sam, console]
  obtain ⟨outcomeOf, hall⟩ := horder hbind hids
  obtain ⟨hreported, -, -⟩ := hall _ (.refl _)
  obtain ⟨hreported', hafter, hreach⟩ := hall _ hperm
  have houtcomes : [outcomeOf alex, outcomeOf console, outcomeOf sam, outcomeOf console] =
      [.cooling, .sent, .sent, .sent] := by
    refine Option.some.inj ((congrArg Except.toOption hreported).symm.trans ?_)
    decide +kernel
  simp only [List.cons.injEq, and_true] at houtcomes
  obtain ⟨halex, hconsole, hsam, -⟩ := houtcomes
  refine ⟨hbind, hids, hperm, ?_, ?_, hafter, ?_⟩
  · rw [hreported, List.map_cons, List.map_cons, List.map_cons, List.map_cons, halex, hconsole, hsam]
    rfl
  · rw [hreported', List.map_cons, List.map_cons, List.map_cons, List.map_cons, halex, hconsole, hsam]
    rfl
  · rw [hreach]
    decide +kernel

/-- Bindings that fail for one recipient. -/
def refusing (name : String) : Binder := fun context =>
  if context.recipient.name = name then .error (.invalid "1ST") else .ok context

/-- Who comes after a failure is not reached, and nothing is kept for it. -/
example :
    ((withTip.broadcast tip.key (refusing "Sam") [alex, sam, console]).1.map fun receipt =>
      (receipt.recipient, receipt.deliveries)) = [(alex, [.chat "Drink water"]), (sam, [])] ∧
    (withTip.broadcast tip.key (refusing "Sam") [alex, sam, console]).2.cooldowns.size = 1 := by
  decide +kernel

end Pipeline

end Courier
