import Courier.Pipeline

/-!
# Runs of a pipeline

A run is a sequence of calls: messages are sent, one by one or to many recipients, records come and go,
time passes, and what has expired is swept away. This file takes a run apart into the attempts to send a
message, each with the pipeline that it found:

* `Pipeline.attempts`, `Pipeline.trace`: the attempts of a call and of a run, in their order;
* `receipts_perform`: the receipts that a call returns are those of its attempts;
* `Pipeline.Ends`: the ways in which an attempt ends, and what each leaves;
* `Run`: the same in single steps, of which only an attempt adds to the history;
* `run_of_trace_eq`: every attempt of a run starts where the run before it has led.
-/

namespace Courier

/-- What can be done with a pipeline. -/
inductive Call where
  | send (recipient : Recipient) (k : Key) (bind : Binder)
  | sendText (recipient : Recipient) (name : String) (bind : Binder)
  | broadcast (k : Key) (bind : Binder) (recipients : List Recipient)
  | insert (record : Record)
  | remove (k : Key)
  | advance (step : Duration)
  | sweep

/-- An attempt to send a message: the pipeline that it finds, and what is asked of it. -/
structure Attempt where
  before : Pipeline
  recipient : Recipient
  key : Key
  bind : Binder

namespace Attempt

def receipt (a : Attempt) : Receipt := (a.before.send a.recipient a.key a.bind).1

/-- The pipeline that the attempt leaves. -/
def after (a : Attempt) : Pipeline := (a.before.send a.recipient a.key a.bind).2

def outcome (a : Attempt) : Except KeyError Outcome := a.receipt.result

/-- The time of the attempt. -/
def now (a : Attempt) : Instant := a.before.cooldowns.now

/-- The record that the attempt finds. -/
def record? (a : Attempt) : Option Record := a.before.records.get? a.key

end Attempt

namespace Pipeline

/-! ### Calls and their attempts -/

def advance (p : Pipeline) (step : Duration) : Pipeline :=
  { p with cooldowns := p.cooldowns.advance step }

def sweep (p : Pipeline) : Pipeline :=
  { p with cooldowns := p.cooldowns.sweep }

/-- The receipts of a call, and the pipeline after it. -/
def perform (p : Pipeline) : Call → List Receipt × Pipeline
  | .send recipient k bind => ([(p.send recipient k bind).1], (p.send recipient k bind).2)
  | .sendText recipient name bind =>
    ([(p.sendText recipient name bind).1], (p.sendText recipient name bind).2)
  | .broadcast k bind recipients => p.broadcast k bind recipients
  | .insert record => ([], p.insertRecord record)
  | .remove k => ([], p.removeRecord k)
  | .advance step => ([], p.advance step)
  | .sweep => ([], p.sweep)

/-- The attempts of a broadcast, up to the first that fails. -/
def broadcastAttempts (p : Pipeline) (k : Key) (bind : Binder) : List Recipient → List Attempt
  | [] => []
  | recipient :: others =>
    let a : Attempt := ⟨p, recipient, k, bind⟩
    a :: if a.receipt.failed then [] else a.after.broadcastAttempts k bind others

/-- The attempts of a call. A text that is not a key leads to none. -/
def attempts (p : Pipeline) : Call → List Attempt
  | .send recipient k bind => [⟨p, recipient, k, bind⟩]
  | .sendText recipient name bind => ((Key.ofString? name).map fun k => ⟨p, recipient, k, bind⟩).toList
  | .broadcast k bind recipients => p.broadcastAttempts k bind recipients
  | .insert _ => []
  | .remove _ => []
  | .advance _ => []
  | .sweep => []

/-- All attempts of a run. -/
def trace (p : Pipeline) : List Call → List Attempt
  | [] => []
  | call :: calls => p.attempts call ++ (p.perform call).2.trace calls

variable {p : Pipeline}

theorem sendText_of_ofString? {recipient : Recipient} {name : String} {bind : Binder} {k : Key}
    (h : Key.ofString? name = some k) : p.sendText recipient name bind = p.send recipient k bind := by
  rw [sendText, Key.parse, h]

theorem sendText_of_none (p : Pipeline) (recipient : Recipient) (bind : Binder) {name : String}
    (h : Key.ofString? name = none) :
    ∃ e, p.sendText recipient name bind = (.nothing recipient (.error e), p) := by
  rw [sendText, Key.parse, h]
  exact ⟨_, rfl⟩

theorem broadcast_cons (p : Pipeline) (k : Key) (bind : Binder) (recipient : Recipient)
    (others : List Recipient) :
    p.broadcast k bind (recipient :: others) =
      if (p.send recipient k bind).1.failed then
        ([(p.send recipient k bind).1], (p.send recipient k bind).2)
      else
        ((p.send recipient k bind).1 :: ((p.send recipient k bind).2.broadcast k bind others).1,
          ((p.send recipient k bind).2.broadcast k bind others).2) := rfl

theorem receipts_broadcast (p : Pipeline) (k : Key) (bind : Binder) (recipients : List Recipient) :
    (p.broadcast k bind recipients).1 =
      (p.broadcastAttempts k bind recipients).map Attempt.receipt := by
  induction recipients generalizing p with
  | nil => rfl
  | cons recipient others ih =>
    let a : Attempt := ⟨p, recipient, k, bind⟩
    rw [broadcast_cons]
    show (if a.receipt.failed then ([a.receipt], a.after) else _).1 =
      (a :: if a.receipt.failed then [] else a.after.broadcastAttempts k bind others).map Attempt.receipt
    by_cases hfailed : a.receipt.failed = true
    · rw [if_pos hfailed, if_pos hfailed]
      rfl
    · rw [if_neg hfailed, if_neg hfailed, List.map_cons, ← ih]
      rfl

/-- **The receipts that a call returns are those of its attempts,** except for a text that is not a
key, which is refused without an attempt. -/
theorem receipts_perform (p : Pipeline) (call : Call) :
    (p.perform call).1 = (p.attempts call).map Attempt.receipt ∨
      ∃ recipient name bind e, call = .sendText recipient name bind ∧ Key.ofString? name = none ∧
        p.perform call = ([.nothing recipient (.error e)], p) := by
  cases call with
  | send recipient k bind => exact .inl rfl
  | sendText recipient name bind =>
    cases hname : Key.ofString? name with
    | some k =>
      refine .inl ?_
      show [(p.sendText recipient name bind).1] = _
      rw [sendText_of_ofString? hname]
      show _ = (((Key.ofString? name).map fun k => (⟨p, recipient, k, bind⟩ : Attempt)).toList).map _
      rw [hname]
      rfl
    | none =>
      obtain ⟨e, hrefused⟩ := p.sendText_of_none recipient bind hname
      refine .inr ⟨recipient, name, bind, e, rfl, hname, ?_⟩
      show ([(p.sendText recipient name bind).1], (p.sendText recipient name bind).2) = _
      rw [hrefused]
  | broadcast k bind recipients => exact .inl (p.receipts_broadcast k bind recipients)
  | insert record => exact .inl rfl
  | remove k => exact .inl rfl
  | advance step => exact .inl rfl
  | sweep => exact .inl rfl

end Pipeline

/-! ### What an attempt comes to -/

namespace Pipeline

/-- The ways in which an attempt to send ends: why, with which receipt, and what is left. -/
inductive Ends (p : Pipeline) (recipient : Recipient) (k : Key) (bind : Binder) :
    Receipt × Pipeline → Prop where
  | notFound : p.records.get? k = none →
      Ends p recipient k bind (.nothing recipient (.ok .notFound), p)
  | disabled {record : Record} : p.records.get? k = some record → record.enabled = false →
      Ends p recipient k bind (.nothing recipient (.ok .disabled), p)
  | cooling {record : Record} : p.records.get? k = some record → record.enabled = true →
      p.cooldowns.isReady recipient record = false →
      Ends p recipient k bind (.nothing recipient (.ok .cooling), p)
  | failed {record : Record} {e : KeyError} : p.records.get? k = some record →
      record.enabled = true → p.cooldowns.isReady recipient record = true →
      p.render recipient k record bind = .error e →
      Ends p recipient k bind (.nothing recipient (.error e), p)
  | empty {record : Record} {rendered : Rendered} : p.records.get? k = some record →
      record.enabled = true → p.cooldowns.isReady recipient record = true →
      p.render recipient k record bind = .ok rendered → rendered.isBlankFor record.channel = true →
      Ends p recipient k bind (.nothing recipient (.ok .empty), p)
  | sent {record : Record} {rendered : Rendered} : p.records.get? k = some record →
      record.enabled = true → p.cooldowns.isReady recipient record = true →
      p.render recipient k record bind = .ok rendered → rendered.isBlankFor record.channel = false →
      Ends p recipient k bind
        (⟨recipient, .ok .sent, p.senders record.channel recipient record rendered⟩,
          { p with cooldowns := p.cooldowns.start recipient record })

/-- **An attempt ends in one of these ways.** -/
theorem ends_send (p : Pipeline) (recipient : Recipient) (k : Key) (bind : Binder) :
    Ends p recipient k bind (p.send recipient k bind) := by
  cases hrecord : p.records.get? k with
  | none =>
    simp only [send, available, hrecord]
    exact .notFound hrecord
  | some record =>
    cases henabled : record.enabled with
    | false =>
      simp only [send, available, hrecord, henabled, Bool.not_false, if_true]
      exact .disabled hrecord henabled
    | true =>
      cases hready : p.cooldowns.isReady recipient record with
      | false =>
        simp only [send, available, hrecord, henabled, hready, Bool.not_true, Bool.not_false,
          Bool.false_eq_true, if_false, if_true]
        exact .cooling hrecord henabled hready
      | true =>
        simp only [send, available, hrecord, henabled, hready, Bool.not_true, Bool.false_eq_true,
          if_false]
        cases hrender : p.render recipient k record bind with
        | error e => exact .failed hrecord henabled hready hrender
        | ok rendered =>
          cases hblank : rendered.isBlankFor record.channel with
          | true =>
            simp only [hblank, if_true]
            exact .empty hrecord henabled hready hrender hblank
          | false =>
            simp only [hblank, Bool.false_eq_true, if_false]
            exact .sent hrecord henabled hready hrender hblank

end Pipeline

namespace Attempt

theorem ends (a : Attempt) : a.before.Ends a.recipient a.key a.bind (a.receipt, a.after) :=
  a.before.ends_send a.recipient a.key a.bind

/-- An attempt is refused as cooling exactly if its record is enabled and not ready. -/
theorem outcome_eq_cooling_iff {a : Attempt} :
    a.outcome = .ok .cooling ↔ ∃ record, a.record? = some record ∧ record.enabled = true ∧
      a.before.cooldowns.isReady a.recipient record = false := by
  have hends := a.ends
  show a.receipt.result = _ ↔ ∃ record, a.before.records.get? a.key = some record ∧ _
  generalize a.receipt = receipt at hends ⊢
  generalize a.after = after at hends
  cases hends with
  | notFound hrecord => simp [Receipt.nothing, hrecord]
  | disabled hrecord henabled => simp [Receipt.nothing, hrecord, henabled]
  | cooling hrecord henabled hready => simp [Receipt.nothing, hrecord, henabled, hready]
  | failed hrecord henabled hready => simp [Receipt.nothing, hrecord, hready]
  | empty hrecord henabled hready => simp [Receipt.nothing, hrecord, hready]
  | sent hrecord henabled hready => simp [hrecord, hready]

/-- A delivery finds a record that is enabled and ready, and starts its cooldown. -/
theorem of_outcome_eq_sent {a : Attempt} (h : a.outcome = .ok .sent) :
    ∃ record, a.record? = some record ∧ record.enabled = true ∧
      a.before.cooldowns.isReady a.recipient record = true ∧
      a.after = { a.before with cooldowns := a.before.cooldowns.start a.recipient record } := by
  have hends := a.ends
  have hresult : a.receipt.result = .ok .sent := h
  generalize a.receipt = receipt at hends hresult
  generalize a.after = after at hends ⊢
  cases hends with
  | sent hrecord henabled hready => exact ⟨_, hrecord, henabled, hready, rfl⟩
  | notFound => cases hresult
  | disabled => cases hresult
  | cooling => cases hresult
  | failed => cases hresult
  | empty => cases hresult

/-- Every other attempt leaves the pipeline as it is. -/
theorem after_of_not_sent {a : Attempt} (h : a.outcome ≠ .ok .sent) : a.after = a.before :=
  (Pipeline.send_of_not_sent h).2

end Attempt

/-! ### Single steps -/

/-- A place in a history is its end or a place in the history before the end. -/
theorem snoc_eq_append_cons {α : Type} {history before after : List α} {a b : α}
    (h : history ++ [a] = before ++ b :: after) :
    (after = [] ∧ history = before ∧ a = b) ∨
      ∃ after', after = after' ++ [a] ∧ history = before ++ b :: after' := by
  rcases List.eq_nil_or_concat after with rfl | ⟨after', c, rfl⟩
  · obtain ⟨hbefore, hend⟩ := List.append_inj' h rfl
    exact .inl ⟨rfl, hbefore, (List.cons.inj hend).1⟩
  · rw [List.concat_eq_append] at h ⊢
    rw [← List.cons_append, ← List.append_assoc] at h
    obtain ⟨hbefore, hend⟩ := List.append_inj' h rfl
    refine .inr ⟨after', ?_, hbefore⟩
    rw [hend]

/-- A history of attempts, from one pipeline to another. -/
inductive Run (p : Pipeline) : List Attempt → Pipeline → Prop where
  | start : Run p [] p
  | attempt {history : List Attempt} {a : Attempt} :
      Run p history a.before → Run p (history ++ [a]) a.after
  | insert {history : List Attempt} {q : Pipeline} (record : Record) :
      Run p history q → Run p history (q.insertRecord record)
  | remove {history : List Attempt} {q : Pipeline} (k : Key) :
      Run p history q → Run p history (q.removeRecord k)
  | advance {history : List Attempt} {q : Pipeline} (step : Duration) :
      Run p history q → Run p history (q.advance step)
  | sweep {history : List Attempt} {q : Pipeline} :
      Run p history q → Run p history q.sweep

namespace Run

variable {p q : Pipeline} {history : List Attempt}

theorem broadcast (h : Run p history q) (k : Key) (bind : Binder) (recipients : List Recipient) :
    Run p (history ++ q.broadcastAttempts k bind recipients) (q.broadcast k bind recipients).2 := by
  induction recipients generalizing history q with
  | nil =>
    rw [show q.broadcastAttempts k bind [] = [] from rfl, List.append_nil]
    exact h
  | cons recipient others ih =>
    let a : Attempt := ⟨q, recipient, k, bind⟩
    have hstep : Run p (history ++ [a]) a.after := h.attempt
    rw [Pipeline.broadcast_cons]
    show Run p (history ++ a ::
      if a.receipt.failed then [] else a.after.broadcastAttempts k bind others)
      (if a.receipt.failed then ([a.receipt], a.after) else _).2
    by_cases hfailed : a.receipt.failed = true
    · rw [if_pos hfailed, if_pos hfailed]
      exact hstep
    · rw [if_neg hfailed, if_neg hfailed, List.append_cons]
      exact ih hstep

theorem perform (h : Run p history q) (call : Call) :
    Run p (history ++ q.attempts call) (q.perform call).2 := by
  cases call with
  | send recipient k bind => exact h.attempt (a := ⟨q, recipient, k, bind⟩)
  | sendText recipient name bind =>
    show Run p (history ++ ((Key.ofString? name).map fun k => ⟨q, recipient, k, bind⟩).toList)
      (q.sendText recipient name bind).2
    cases hname : Key.ofString? name with
    | some k =>
      rw [Pipeline.sendText_of_ofString? hname]
      exact h.attempt (a := ⟨q, recipient, k, bind⟩)
    | none =>
      obtain ⟨e, hrefused⟩ := q.sendText_of_none recipient bind hname
      rw [hrefused, Option.map_none, Option.toList_none, List.append_nil]
      exact h
  | broadcast k bind recipients => exact h.broadcast k bind recipients
  | insert record =>
    rw [show q.attempts (.insert record) = [] from rfl, List.append_nil]
    exact h.insert record
  | remove k =>
    rw [show q.attempts (.remove k) = [] from rfl, List.append_nil]
    exact h.remove k
  | advance step =>
    rw [show q.attempts (.advance step) = [] from rfl, List.append_nil]
    exact h.advance step
  | sweep =>
    rw [show q.attempts .sweep = [] from rfl, List.append_nil]
    exact h.sweep

/-- The attempts of many calls are a history in single steps. -/
theorem trace (h : Run p history q) (calls : List Call) :
    ∃ q', Run p (history ++ q.trace calls) q' := by
  induction calls generalizing history q with
  | nil =>
    rw [show q.trace [] = [] from rfl, List.append_nil]
    exact ⟨q, h⟩
  | cons call calls ih =>
    obtain ⟨q', hrun⟩ := ih (h.perform call)
    rw [List.append_assoc] at hrun
    exact ⟨q', hrun⟩

/-- What came before an attempt is a run to where the attempt starts. -/
theorem upTo {earlier later : List Attempt} {a : Attempt} (h : Run p history q)
    (hhistory : history = earlier ++ a :: later) : Run p earlier a.before := by
  induction h generalizing later with
  | start =>
    cases earlier <;> cases hhistory
  | @attempt history b hrun ih =>
    rcases snoc_eq_append_cons hhistory with ⟨_, rfl, rfl⟩ | ⟨later', _, hbefore⟩
    · exact hrun
    · exact ih hbefore
  | insert _ _ ih => exact ih hhistory
  | remove _ _ ih => exact ih hhistory
  | advance _ _ ih => exact ih hhistory
  | sweep _ ih => exact ih hhistory

end Run

/-- **Every attempt of a run starts where the run before it has led.** -/
theorem run_of_trace_eq {p : Pipeline} {calls : List Call} {earlier later : List Attempt} {a : Attempt}
    (h : p.trace calls = earlier ++ a :: later) : Run p earlier a.before := by
  obtain ⟨q', hrun⟩ := Run.start.trace calls (p := p)
  exact hrun.upTo h

end Courier
