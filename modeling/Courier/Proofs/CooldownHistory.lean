import Courier.Proofs.PipelineRuns

/-!
# Cooldowns and the history of deliveries

A message cools down for someone because of the last delivery that has started a cooldown, and until
the delay of that delivery is over. What the table of expirations holds is only a trace of this: an
expiration is overwritten by the next delivery and disappears in a sweep, and in the meantime the record
may be replaced by one with another delay, or by none.

* `Attempt.Delivers`: a delivery that starts a cooldown;
* `Tracks`: the table, the clock and the records agree with a history of attempts;
* `Run.tracks`: so they do throughout a run;
* `cooling_iff_last_delivery`: the pipeline refuses a message exactly for the delay of the last delivery.
-/

namespace Courier

namespace Attempt

/-- A delivery to someone that starts a cooldown: it has been sent, under a record with a delay. -/
def Delivers (a : Attempt) (u : Uuid) (k : Key) : Prop :=
  a.recipient.id? = some u ∧ a.key = k ∧ a.outcome = .ok .sent ∧
    ∃ record, a.record? = some record ∧ record.hasCooldown = true

/-- The delay of the record that the attempt finds. -/
def delay (a : Attempt) : Duration := (a.record?.map Record.delay).getD .zero

/-- When the delay after the attempt is over. -/
def expires (a : Attempt) : Instant := a.now.after a.delay

end Attempt

/-- The last delivery in a history. -/
def LastDelivery (history : List Attempt) (u : Uuid) (k : Key) (b : Attempt) : Prop :=
  ∃ before after, history = before ++ b :: after ∧ b.Delivers u k ∧ ∀ c ∈ after, ¬ c.Delivers u k

section LastDelivery

variable {history : List Attempt} {u : Uuid} {k : Key} {a b : Attempt}

theorem LastDelivery.mem (h : LastDelivery history u k b) : b ∈ history := by
  obtain ⟨before, after, rfl, _, _⟩ := h
  exact List.mem_append_right before List.mem_cons_self

/-- A delivery is the last one in the history that it ends. -/
theorem lastDelivery_snoc_iff_of_delivers (ha : a.Delivers u k) :
    LastDelivery (history ++ [a]) u k b ↔ b = a := by
  constructor
  · intro h
    obtain ⟨before, after, hsplit, _, hafter⟩ := h
    rcases snoc_eq_append_cons hsplit with ⟨_, _, hab⟩ | ⟨after', rfl, _⟩
    · exact hab.symm
    · exact absurd ha (hafter a (List.mem_append_right after' List.mem_cons_self))
  · rintro rfl
    exact ⟨history, [], rfl, ha, fun c hc => absurd hc List.not_mem_nil⟩

/-- Any other attempt leaves the last delivery as it is. -/
theorem lastDelivery_snoc_iff_of_not (ha : ¬ a.Delivers u k) :
    LastDelivery (history ++ [a]) u k b ↔ LastDelivery history u k b := by
  constructor
  · intro h
    obtain ⟨before, after, hsplit, hb, hafter⟩ := h
    rcases snoc_eq_append_cons hsplit with ⟨_, _, rfl⟩ | ⟨after', rfl, hbefore⟩
    · exact absurd hb ha
    · exact ⟨before, after', hbefore, hb, fun d hd => hafter d (List.mem_append_left [a] hd)⟩
  · intro h
    obtain ⟨before, after, rfl, hb, hafter⟩ := h
    refine ⟨before, after ++ [a], by rw [List.append_assoc, List.cons_append], hb, fun c hc => ?_⟩
    rcases List.mem_append.1 hc with hc | hc
    · exact hafter c hc
    · rw [List.mem_singleton.1 hc]
      exact ha

/-- Where there is a delivery there is a last one. -/
theorem exists_lastDelivery (hb : b ∈ history) (hdelivers : b.Delivers u k) :
    ∃ l, LastDelivery history u k l := by
  induction history generalizing b with
  | nil => exact absurd hb List.not_mem_nil
  | cons a history ih =>
    by_cases hlater : ∃ c ∈ history, c.Delivers u k
    · obtain ⟨c, hc, hcdelivers⟩ := hlater
      obtain ⟨l, before, after, rfl, hl⟩ := ih hc hcdelivers
      exact ⟨l, a :: before, after, rfl, hl⟩
    · rcases List.mem_cons.1 hb with rfl | hb
      · exact ⟨b, [], history, rfl, hdelivers, fun c hc h => hlater ⟨c, hc, h⟩⟩
      · exact absurd ⟨b, hb, hdelivers⟩ hlater

end LastDelivery

/-! ### What an attempt does to a slot -/

/-- Every record is filed under its own key. -/
def Pipeline.Filed (p : Pipeline) : Prop :=
  ∀ k record, p.records.get? k = some record → record.key = k

namespace Attempt

variable {a : Attempt} {u : Uuid} {k : Key}

/-- A delivery leaves everything but the cooldowns as it is, and any other attempt those as well. -/
theorem after_cases (a : Attempt) :
    a.after = a.before ∨ ∃ cooldowns, a.after = { a.before with cooldowns } ∧
      cooldowns.now = a.now := by
  by_cases hsent : a.outcome = .ok .sent
  · obtain ⟨record, _, _, _, hafter⟩ := of_outcome_eq_sent hsent
    exact .inr ⟨a.before.cooldowns.start a.recipient record, hafter, Cooldowns.now_start⟩
  · exact .inl (after_of_not_sent hsent)

theorem records_after (a : Attempt) : a.after.records = a.before.records := by
  rcases a.after_cases with h | ⟨cooldowns, h, -⟩ <;> rw [h]

theorem now_after (a : Attempt) : a.after.cooldowns.now = a.now := by
  rcases a.after_cases with h | ⟨cooldowns, h, hnow⟩
  · rw [h]
    rfl
  · rw [h]
    exact hnow

theorem delay_of_record {record : Record} (h : a.record? = some record) : a.delay = record.delay := by
  rw [delay, h]
  rfl

/-- A delivery sets the expiration of its slot to the end of its delay. -/
theorem expiration?_of_delivers (hfiled : a.before.Filed) (ha : a.Delivers u k) :
    a.after.cooldowns.expiration? ⟨u, k⟩ = some a.expires := by
  obtain ⟨hu, rfl, hsent, record, hrecord, hcooldown⟩ := ha
  obtain ⟨found, hfound, _, _, hafter⟩ := of_outcome_eq_sent hsent
  rw [hrecord] at hfound
  obtain rfl := Option.some.inj hfound
  rw [hafter]
  show (a.before.cooldowns.start a.recipient record).expiration? ⟨u, a.key⟩ = _
  rw [Cooldowns.expiration?_start, if_pos ⟨hu, hfiled _ _ hrecord, hcooldown⟩, expires,
    delay_of_record hrecord]
  rfl

/-- Any other attempt leaves the expiration of the slot as it is. -/
theorem expiration?_of_not_delivers (hfiled : a.before.Filed) (ha : ¬ a.Delivers u k) :
    a.after.cooldowns.expiration? ⟨u, k⟩ = a.before.cooldowns.expiration? ⟨u, k⟩ := by
  by_cases hsent : a.outcome = .ok .sent
  · obtain ⟨record, hrecord, _, _, hafter⟩ := of_outcome_eq_sent hsent
    rw [hafter]
    show (a.before.cooldowns.start a.recipient record).expiration? ⟨u, k⟩ = _
    rw [Cooldowns.expiration?_start, if_neg]
    intro h
    obtain ⟨hu, hkey, hcooldown⟩ := h
    refine ha ⟨hu, ?_, hsent, record, hrecord, hcooldown⟩
    rw [← hfiled _ _ hrecord]
    exact hkey
  · rw [after_of_not_sent hsent]

/-- A delivery finds its slot free or expired. -/
theorem expiration?_le_of_delivers (hfiled : a.before.Filed) (ha : a.Delivers u k) {expires : Instant}
    (hexpires : a.before.cooldowns.expiration? ⟨u, k⟩ = some expires) : expires ≤ a.now := by
  obtain ⟨hu, rfl, hsent, record, hrecord, hcooldown⟩ := ha
  obtain ⟨found, hfound, _, hready, _⟩ := of_outcome_eq_sent hsent
  rw [hrecord] at hfound
  obtain rfl := Option.some.inj hfound
  rw [← hfiled _ _ hrecord] at hexpires
  refine Int.not_lt.1 fun hlt => ?_
  rw [(Cooldowns.isReady_eq_false_iff hu hcooldown).2 ⟨expires, hexpires, hlt⟩] at hready
  cases hready

end Attempt

/-! ### Table, clock and records agree with the history -/

/-- What holds between a pipeline and the attempts that have led to it. -/
structure Tracks (history : List Attempt) (p : Pipeline) : Prop where
  filed : p.Filed
  inRange : p.cooldowns.now.InRange
  past : ∀ b ∈ history, b.now.InRange ∧ b.now ≤ p.cooldowns.now
  /-- A slot without a delivery is free. -/
  free : ∀ u k, (∀ b ∈ history, ¬ b.Delivers u k) → p.cooldowns.expiration? ⟨u, k⟩ = none
  /-- A slot holds the end of the last delay, unless that is over. -/
  held : ∀ u k b, LastDelivery history u k b →
    p.cooldowns.expiration? ⟨u, k⟩ = some b.expires ∨
      p.cooldowns.expiration? ⟨u, k⟩ = none ∧ b.expires ≤ p.cooldowns.now
  /-- All delays but the last were over when the last delivery was made. -/
  settled : ∀ u k b l, b ∈ history → b.Delivers u k → LastDelivery history u k l →
    b = l ∨ b.expires ≤ l.now

namespace Tracks

variable {history : List Attempt} {p : Pipeline}

theorem fresh (composer : Composer) (senders : Channel → Sender) {start : Instant}
    (h : start.InRange) : Tracks [] ⟨composer, .empty, .fresh start, senders⟩ where
  filed := fun k record hrecord => by cases hrecord
  inRange := h
  past := fun b hb => absurd hb List.not_mem_nil
  free := fun _ _ _ => rfl
  held := fun _ _ _ hlast => absurd hlast.mem List.not_mem_nil
  settled := fun _ _ _ _ hb => absurd hb List.not_mem_nil

/-- All earlier delays are over when a delivery is made. -/
theorem expires_le {a b : Attempt} {u : Uuid} {k : Key} (h : Tracks history a.before)
    (ha : a.Delivers u k) (hmem : b ∈ history) (hb : b.Delivers u k) : b.expires ≤ a.now := by
  obtain ⟨l, hl⟩ := exists_lastDelivery hmem hb
  have hlast : l.expires ≤ a.now := by
    rcases h.held u k l hl with hheld | ⟨_, hover⟩
    · exact Attempt.expiration?_le_of_delivers h.filed ha hheld
    · exact hover
  rcases h.settled u k b l hmem hb hl with rfl | hover
  · exact hlast
  · exact Instant.le_trans hover (h.past l hl.mem).2

theorem attempt {a : Attempt} (h : Tracks history a.before) : Tracks (history ++ [a]) a.after where
  filed := by
    intro k record hrecord
    rw [a.records_after] at hrecord
    exact h.filed k record hrecord
  inRange := by
    rw [a.now_after]
    exact h.inRange
  past := by
    intro b hb
    rw [a.now_after]
    rcases List.mem_append.1 hb with hb | hb
    · exact h.past b hb
    · rw [List.mem_singleton.1 hb]
      exact ⟨h.inRange, Int.le_refl _⟩
  free := by
    intro u k hnone
    rw [Attempt.expiration?_of_not_delivers h.filed
      (hnone a (List.mem_append_right history List.mem_cons_self))]
    exact h.free u k fun b hb => hnone b (List.mem_append_left [a] hb)
  held := by
    intro u k b hlast
    by_cases ha : a.Delivers u k
    · rw [(lastDelivery_snoc_iff_of_delivers ha).1 hlast]
      exact .inl (Attempt.expiration?_of_delivers h.filed ha)
    · rw [Attempt.expiration?_of_not_delivers h.filed ha, a.now_after]
      exact h.held u k b ((lastDelivery_snoc_iff_of_not ha).1 hlast)
  settled := by
    intro u k b l hmem hb hlast
    by_cases ha : a.Delivers u k
    · rw [(lastDelivery_snoc_iff_of_delivers ha).1 hlast]
      rcases List.mem_append.1 hmem with hmem | hmem
      · exact .inr (h.expires_le ha hmem hb)
      · exact .inl (List.mem_singleton.1 hmem)
    · rcases List.mem_append.1 hmem with hmem | hmem
      · exact h.settled u k b l hmem hb ((lastDelivery_snoc_iff_of_not ha).1 hlast)
      · rw [List.mem_singleton.1 hmem] at hb
        exact absurd hb ha

theorem insert (h : Tracks history p) (record : Record) :
    Tracks history (p.insertRecord record) where
  filed := by
    intro k found hfound
    rw [Pipeline.get?_insertRecord] at hfound
    split at hfound
    · rw [← Option.some.inj hfound, ‹k = record.key›]
    · exact h.filed k found hfound
  inRange := h.inRange
  past := h.past
  free := h.free
  held := h.held
  settled := h.settled

theorem remove (h : Tracks history p) (k : Key) : Tracks history (p.removeRecord k) where
  filed := by
    intro k' found hfound
    rw [Pipeline.get?_removeRecord] at hfound
    split at hfound
    · cases hfound
    · exact h.filed k' found hfound
  inRange := h.inRange
  past := h.past
  free := h.free
  held := h.held
  settled := h.settled

/-- Time that passes can only end a delay. -/
theorem advance (h : Tracks history p) (step : Duration) : Tracks history (p.advance step) where
  filed := h.filed
  inRange := Instant.inRange_after h.inRange step
  past := fun b hb =>
    ⟨(h.past b hb).1, Instant.le_trans (h.past b hb).2 (Instant.le_after h.inRange step)⟩
  free := h.free
  held := fun u k b hlast => (h.held u k b hlast).imp id fun hover =>
    ⟨hover.1, Instant.le_trans hover.2 (Instant.le_after h.inRange step)⟩
  settled := h.settled

/-- A sweep removes only what is over. -/
theorem sweep (h : Tracks history p) : Tracks history p.sweep where
  filed := h.filed
  inRange := h.inRange
  past := h.past
  free := by
    intro u k hnone
    show p.cooldowns.sweep.expiration? ⟨u, k⟩ = none
    rw [Cooldowns.get?_sweep, h.free u k hnone]
    rfl
  held := by
    intro u k b hlast
    show p.cooldowns.sweep.expiration? ⟨u, k⟩ = _ ∨ p.cooldowns.sweep.expiration? ⟨u, k⟩ = _ ∧ _
    rw [Cooldowns.get?_sweep]
    rcases h.held u k b hlast with hheld | ⟨hnone, hover⟩
    · rw [hheld]
      by_cases hlt : p.cooldowns.now < b.expires
      · exact .inl (Option.filter_some_pos (decide_eq_true hlt))
      · refine .inr ⟨?_, Int.not_lt.1 hlt⟩
        exact Option.filter_some_neg (by simpa using hlt)
    · rw [hnone]
      exact .inr ⟨rfl, hover⟩
  settled := h.settled

end Tracks

/-- **The invariant holds throughout a run.** -/
theorem Run.tracks {p q : Pipeline} {history : List Attempt} (h : Run p history q)
    (hp : Tracks [] p) : Tracks history q := by
  induction h with
  | start => exact hp
  | attempt _ ih => exact ih.attempt
  | insert record _ ih => exact ih.insert record
  | remove k _ ih => exact ih.remove k
  | advance step _ ih => exact ih.advance step
  | sweep _ ih => exact ih.sweep

namespace Tracks

variable {history : List Attempt} {a : Attempt} {u : Uuid}

/-- The end of an earlier delay in nanoseconds: the calendar has no later instant than its last. -/
theorem nanoseconds_expires {p : Pipeline} {b : Attempt} (h : Tracks history p) (hb : b ∈ history) :
    b.expires.nanoseconds =
      min (b.now.nanoseconds + b.delay.nanoseconds) Instant.last.nanoseconds :=
  Instant.nanoseconds_after (h.past b hb).1 b.delay

/-- An attempt that could start a cooldown is refused exactly while the last one lasts. -/
theorem cooling_iff {record : Record} (h : Tracks history a.before) (hu : a.recipient.id? = some u)
    (hrecord : a.record? = some record) (henabled : record.enabled = true)
    (hcooldown : record.hasCooldown = true) :
    a.outcome = .ok .cooling ↔ ∃ b, LastDelivery history u a.key b ∧ a.now < b.expires := by
  rw [Attempt.outcome_eq_cooling_iff]
  constructor
  · intro hwaiting
    obtain ⟨found, hfound, _, hwaits⟩ := hwaiting
    rw [hrecord] at hfound
    obtain rfl := Option.some.inj hfound
    obtain ⟨expires, hexpires, hlt⟩ := (Cooldowns.isReady_eq_false_iff hu hcooldown).1 hwaits
    rw [h.filed _ _ hrecord] at hexpires
    -- A slot that is not free has a delivery, and the last one is what it holds.
    have hsome : ∃ b ∈ history, b.Delivers u a.key := by
      refine Classical.byContradiction fun hnone => ?_
      rw [h.free u a.key fun b hb hdelivers => hnone ⟨b, hb, hdelivers⟩] at hexpires
      cases hexpires
    obtain ⟨b, hb, hdelivers⟩ := hsome
    obtain ⟨l, hlast⟩ := exists_lastDelivery hb hdelivers
    refine ⟨l, hlast, ?_⟩
    rcases h.held u a.key l hlast with hheld | ⟨hnone, _⟩
    · rw [hexpires] at hheld
      rw [← Option.some.inj hheld]
      exact hlt
    · rw [hexpires] at hnone
      cases hnone
  · intro hlasting
    obtain ⟨b, hlast, hlt⟩ := hlasting
    refine ⟨record, hrecord, henabled, ?_⟩
    rw [Cooldowns.isReady_eq_false_iff hu hcooldown, h.filed _ _ hrecord]
    rcases h.held u a.key b hlast with hheld | ⟨_, hover⟩
    · exact ⟨b.expires, hheld, hlt⟩
    · exact absurd hlt (Int.not_lt.2 hover)

end Tracks

/-- **The pipeline refuses a message exactly for the delay of the last delivery.** In every run from
fresh cooldowns, whatever is sent, inserted, removed and swept on the way, an attempt for someone with an
identifier, under an enabled record with a delay, is refused as cooling exactly if there was a delivery
before and the delay of the last one is not over; no other attempt is refused as cooling; and every two
deliveries are at least the delay of the first apart. -/
theorem cooling_iff_last_delivery (composer : Composer) (senders : Channel → Sender) (start : Instant)
    (hstart : start.InRange) (calls : List Call) (earlier later : List Attempt) (a : Attempt)
    (htrace : (⟨composer, .empty, .fresh start, senders⟩ : Pipeline).trace calls =
      earlier ++ a :: later) :
    (∀ u record, a.recipient.id? = some u → a.record? = some record → record.enabled = true →
      record.hasCooldown = true →
      (a.outcome = .ok .cooling ↔ ∃ b, LastDelivery earlier u a.key b ∧
        a.now.nanoseconds <
          min (b.now.nanoseconds + b.delay.nanoseconds) Instant.last.nanoseconds)) ∧
    (a.outcome = .ok .cooling → ∃ u b, a.recipient.id? = some u ∧ LastDelivery earlier u a.key b ∧
      a.now.nanoseconds <
        min (b.now.nanoseconds + b.delay.nanoseconds) Instant.last.nanoseconds) ∧
    (∀ u, a.Delivers u a.key → ∀ b ∈ earlier, b.Delivers u a.key →
      min (b.now.nanoseconds + b.delay.nanoseconds) Instant.last.nanoseconds ≤
        a.now.nanoseconds) := by
  have h : Tracks earlier a.before := (run_of_trace_eq htrace).tracks (.fresh composer senders hstart)
  have hcooling : ∀ u record, a.recipient.id? = some u → a.record? = some record →
      record.enabled = true → record.hasCooldown = true →
      (a.outcome = .ok .cooling ↔ ∃ b, LastDelivery earlier u a.key b ∧
        a.now.nanoseconds <
          min (b.now.nanoseconds + b.delay.nanoseconds) Instant.last.nanoseconds) := by
    intro u record hu hrecord henabled hcooldown
    rw [h.cooling_iff hu hrecord henabled hcooldown]
    refine exists_congr fun b => and_congr_right fun hlast => ?_
    rw [Instant.lt_def, h.nanoseconds_expires hlast.mem]
  refine ⟨hcooling, ?_, ?_⟩
  · intro hrefused
    obtain ⟨record, hrecord, henabled, hwaits⟩ := Attempt.outcome_eq_cooling_iff.1 hrefused
    obtain ⟨hcooldown, u, hu⟩ := Cooldowns.of_isReady_eq_false hwaits
    obtain ⟨b, hb⟩ := (hcooling u record hu hrecord henabled hcooldown).1 hrefused
    exact ⟨u, b, hu, hb⟩
  · intro u ha b hmem hb
    rw [← h.nanoseconds_expires hmem, ← Instant.le_def]
    exact h.expires_le ha hmem hb

/-! ### A message that is refused once -/

/-- Someone with an identifier. -/
def alex : Recipient := { Recipient.named "Alex" with id? := some ⟨1⟩ }

/-- A message that waits for a minute. -/
def tip : Record :=
  { Record.blank ⟨"TIP", by decide +kernel⟩ with
    message := "Drink water", delay := .ofSeconds 60 0 }

/-- The message is sent, and once more after half a minute. -/
def twoTips : List Call :=
  [.insert tip, .send alex tip.key .ok, .advance (.ofSeconds 30 0), .send alex tip.key .ok]

/-- The first attempt to send it. -/
def firstTip : Attempt :=
  ⟨(Pipeline.ofConfig .standard .epoch).insertRecord tip, alex, tip.key, .ok⟩

/-- The second attempt, half a minute later. -/
def secondTip : Attempt :=
  ⟨firstTip.after.advance (.ofSeconds 30 0), alex, tip.key, .ok⟩

theorem second_tip_cooling :
    Instant.epoch.InRange ∧
    (Pipeline.ofConfig .standard .epoch).trace twoTips = [firstTip] ++ secondTip :: [] ∧
    LastDelivery [firstTip] ⟨1⟩ tip.key firstTip ∧ secondTip.outcome = .ok .cooling := by
  have hstart : Instant.epoch.InRange := by decide
  have htrace : (Pipeline.ofConfig .standard .epoch).trace twoTips =
      [firstTip] ++ secondTip :: [] := rfl
  have hsent : firstTip.outcome = .ok .sent := by
    have hoption : firstTip.outcome.toOption = some .sent := by decide +kernel
    cases houtcome : firstTip.outcome with
    | error e =>
      rw [houtcome] at hoption
      cases hoption
    | ok outcome =>
      rw [houtcome] at hoption
      rw [Option.some.inj hoption]
  have hlast : LastDelivery [firstTip] ⟨1⟩ tip.key firstTip :=
    ⟨[], [], rfl, ⟨rfl, rfl, hsent, tip, by decide +kernel, by decide⟩,
      fun c hc => absurd hc List.not_mem_nil⟩
  obtain ⟨hcooling, -, -⟩ := cooling_iff_last_delivery (.ofConfig .standard) .standard .epoch hstart
    twoTips [firstTip] [] secondTip htrace
  refine ⟨hstart, htrace, hlast, ?_⟩
  exact (hcooling ⟨1⟩ tip rfl (by decide +kernel) rfl (by decide)).2
    ⟨firstTip, hlast, by decide +kernel⟩

end Courier
