import Courier.Composer
import Courier.Proofs.Overwriting

/-!
# Contexts are prepared once

Before a template is filled, what the recipient and the record imply is bound, wherever nothing is bound
yet. So a prepared context has its bindings from three sources, of which the first that has one for a key
counts: the caller, the recipient, and the defaults of the record.

* `Recipient.implied?`, `Record.default?`: what a recipient and a record imply for a key;
* `Context.get?_prepared`: the three sources in their order, and no other;
* `Context.supply_perm`: in which order the defaults are supplied has no part in it;
* `Context.prepared_prepared_eq`: a second preparation adds what only the second record has;
* `Composer.prepared_after`: templates that were composed before leave no trace in a prepared context;
* `Composer.prepared_once_and_for_all`: so a record reads the same, however often and behind however many
  templates it is composed.
-/

namespace Courier

/-! ### What is implied for a key -/

/-- What a location implies for a key: itself, and its world if it has one. -/
def Location.implied? (l : Location) (k : Key) : Option Value :=
  if k = .world then l.world?.map .world
  else if k = .location then some (.location l)
  else none

/-- What a recipient implies for a key: the recipient, the display name, and where the recipient is. -/
def Recipient.implied? (r : Recipient) (k : Key) : Option Value :=
  if k = .player then some (.recipient r)
  else if k = .playerName then some (.text r.displayName)
  else r.location?.bind fun l => l.implied? k

/-- The default of a record for a key. -/
def Record.default? (r : Record) (k : Key) : Option Value :=
  (r.defaults.get? k).map .text

theorem Location.find?_bindings (l : Location) (k : Key) :
    (l.bindings.find? fun b => b.1 = k).map (·.2) = l.implied? k := by
  unfold bindings implied?
  cases l.world? with
  | none =>
    have hne : Key.world ≠ Key.location := by decide
    show ([(Key.location, Value.location l)].find? _).map _ = _
    rw [find?_binding_cons]
    by_cases hworld : k = .world
    · simp [hworld, hne]
    · simp [hworld]
  | some w =>
    show ([(Key.world, Value.world w), (Key.location, .location l)].find? _).map _ = _
    rw [find?_binding_cons, find?_binding_cons]
    rfl

theorem Recipient.find?_bindings (r : Recipient) (k : Key) :
    (r.bindings.find? fun b => b.1 = k).map (·.2) = r.implied? k := by
  unfold bindings implied?
  rw [List.cons_append, find?_binding_cons, List.cons_append, find?_binding_cons, List.nil_append]
  cases r.location? with
  | none => rfl
  | some l =>
    show _ = if k = .player then _ else if k = .playerName then _ else l.implied? k
    rw [← Location.find?_bindings]
    rfl

/-- A record has one default a key. -/
theorem Record.nodup_bindings (r : Record) : (r.bindings.map Prod.fst).Nodup := by
  rw [bindings, List.map_map]
  exact r.defaults.nodup_keys

theorem Record.find?_bindings (r : Record) (k : Key) :
    (r.bindings.find? fun b => b.1 = k).map (·.2) = r.default? k := by
  rw [default?, ← Table.find?_entries, bindings, List.find?_map, Option.map_map, Option.map_map]
  rfl

namespace Context

variable {context : Context}

/-- Contexts are equal if they are for the same recipient and message and bind alike. -/
theorem ext_get? {context' : Context} (hrecipient : context.recipient = context'.recipient)
    (hmessage : context.messageKey = context'.messageKey)
    (h : ∀ k, context.get? k = context'.get? k) : context = context' := by
  obtain ⟨recipient, messageKey, bindings⟩ := context
  obtain ⟨recipient', messageKey', bindings'⟩ := context'
  rw [show recipient = recipient' from hrecipient, show messageKey = messageKey' from hmessage,
    show bindings = bindings' from Table.ext_get? h]

theorem messageKey_supply (context : Context) (bindings : List (Key × Value)) :
    (context.supply bindings).messageKey = context.messageKey := by
  induction bindings generalizing context with
  | nil => rfl
  | cons b bs ih => exact (ih (context.putIfAbsent b.1 b.2)).trans rfl

/-! ### The order of supplies -/

/-- Bindings for different keys do not get in the way of each other. -/
theorem putIfAbsent_comm {k k' : Key} (h : k ≠ k') (v v' : Value) :
    (context.putIfAbsent k v).putIfAbsent k' v' = (context.putIfAbsent k' v').putIfAbsent k v := by
  refine ext_get? rfl rfl fun l => ?_
  simp only [get?_putIfAbsent]
  by_cases hk : l = k
  · subst hk
    simp [h]
  · by_cases hk' : l = k'
    · subst hk'
      simp [Ne.symm h]
    · simp [hk, hk']

/-- **Bindings for different keys can be supplied in any order.** -/
theorem supply_perm {bindings bindings' : List (Key × Value)} (h : bindings.Perm bindings')
    (hdistinct : (bindings.map Prod.fst).Nodup) : context.supply bindings = context.supply bindings' := by
  apply h.foldl_eq'
  intro b hb b' hb' context
  by_cases hkey : b.1 = b'.1
  · rw [List.inj_on_of_nodup_map hdistinct hb hb' hkey]
  · exact putIfAbsent_comm hkey b.2 b'.2

/-! ### Prepared contexts -/

theorem recipient_prepared (context : Context) (record? : Option Record) :
    (context.prepared record?).recipient = context.recipient := by
  rw [prepared, recipient_supply, recipient_supply]

theorem messageKey_prepared (context : Context) (record? : Option Record) :
    (context.prepared record?).messageKey = context.messageKey := by
  rw [prepared, messageKey_supply, messageKey_supply]

/-- **What a key is bound to after preparation:** what it was bound to before, else what the recipient
implies for it, else what the record does. -/
theorem get?_prepared (context : Context) (record? : Option Record) (k : Key) :
    (context.prepared record?).get? k =
      (context.get? k).or ((context.recipient.implied? k).or (record?.bind fun r => r.default? k)) := by
  rw [prepared, get?_supply, get?_supply, Recipient.find?_bindings, Option.or_assoc]
  cases record? with
  | none => rfl
  | some r =>
    show _ = (context.get? k).or ((context.recipient.implied? k).or (r.default? k))
    rw [← Record.find?_bindings]
    rfl

/-- **To prepare a context for two records in turn is to prepare it for one that has the defaults of the
first, and those of the second for the other keys.** -/
theorem prepared_prepared_eq {first? second? both? : Option Record}
    (h : ∀ k, (first?.bind fun r => r.default? k).or (second?.bind fun r => r.default? k) =
      both?.bind fun r => r.default? k) :
    (context.prepared first?).prepared second? = context.prepared both? := by
  refine ext_get? ?_ ?_ fun k => ?_
  · rw [recipient_prepared, recipient_prepared, recipient_prepared]
  · rw [messageKey_prepared, messageKey_prepared, messageKey_prepared]
  · rw [get?_prepared, get?_prepared, get?_prepared, recipient_prepared, ← h]
    cases context.get? k with
    | some v => rfl
    | none => cases context.recipient.implied? k <;> simp

/-- A second preparation for the same record adds nothing. -/
theorem prepared_again (context : Context) (record? : Option Record) :
    (context.prepared record?).prepared record? = context.prepared record? :=
  prepared_prepared_eq fun _ => Option.or_self

/-- A context in which everything implied is bound is prepared for a template without more ado. -/
theorem prepared_prepared (context : Context) (record? : Option Record) :
    (context.prepared record?).prepared none = context.prepared record? :=
  prepared_prepared_eq fun _ => Option.or_none

/-- What is implied without a record is implied with any. -/
theorem prepared_none_prepared (context : Context) (record? : Option Record) :
    (context.prepared none).prepared record? = context.prepared record? :=
  prepared_prepared_eq fun _ => Option.none_or

end Context

/-! ### Templates before a record -/

namespace Composer

variable {c : Composer} {context : Context}

/-- The context after some templates have been composed from it, one after the other. -/
def after (c : Composer) (context : Context) (templates : List String) : Context :=
  templates.foldl (fun context template => (c.compose context template).2) context

/-- A composed template leaves no trace in a context that is prepared afterwards. -/
theorem prepared_compose (c : Composer) (context : Context) (template : String)
    (record? : Option Record) :
    (c.compose context template).2.prepared record? = context.prepared record? :=
  context.prepared_none_prepared record?

/-- **Nor do any number of them.** -/
theorem prepared_after (c : Composer) (context : Context) (templates : List String)
    (record? : Option Record) :
    (c.after context templates).prepared record? = context.prepared record? := by
  induction templates generalizing context with
  | nil => rfl
  | cons template templates ih =>
    calc ((c.after (c.compose context template).2 templates).prepared record?)
      _ = (c.compose context template).2.prepared record? := ih _
      _ = context.prepared record? := c.prepared_compose context template record?

/-- Records read alike in contexts that come to the same preparation. -/
theorem composeRecord_eq_of_prepared {context' : Context} {r : Record}
    (h : context.prepared (some r) = context'.prepared (some r)) :
    c.composeRecord context r = c.composeRecord context' r := by
  show (c.fillRecord (context.prepared (some r)) r, context.prepared (some r)) = _
  rw [h]
  rfl

/-- **A context is prepared once and for all.** A key is bound to what the caller has bound it to, else
to what the recipient implies for it, else to its default, and to nothing if there is none of these; the
defaults may be supplied in any order; a second preparation changes nothing. So a record is composed to
the same texts, and the same context, when any number of templates have been composed before from that
context, and when the record itself has. -/
theorem prepared_once_and_for_all (c : Composer) (context : Context) (record? : Option Record) :
    (∀ k : Key, (context.prepared record?).get? k =
      (context.get? k).or
        ((context.recipient.implied? k).or (record?.bind fun r => r.default? k))) ∧
    (context.prepared record?).recipient = context.recipient ∧
    (context.prepared record?).messageKey = context.messageKey ∧
    (∀ (r : Record) (defaults : List (Key × Value)), defaults.Perm r.bindings →
      (context.supply context.recipient.bindings).supply defaults = context.prepared (some r)) ∧
    (context.prepared record?).prepared record? = context.prepared record? ∧
    ∀ (r : Record) (templates : List String),
      c.composeRecord (c.after context templates) r = c.composeRecord context r ∧
      c.composeRecord (c.after (c.composeRecord context r).2 templates) r =
        c.composeRecord context r := by
  refine ⟨context.get?_prepared record?, context.recipient_prepared record?,
    context.messageKey_prepared record?, fun r defaults h => ?_, context.prepared_again record?,
    fun r templates => ⟨?_, ?_⟩⟩
  · exact (Context.supply_perm h.symm r.nodup_bindings).symm
  · exact composeRecord_eq_of_prepared (c.prepared_after context templates (some r))
  · refine composeRecord_eq_of_prepared ?_
    rw [c.prepared_after]
    exact context.prepared_again (some r)

/-- A gift by default, and two keys that recipients have something to say about. -/
def gift : Record :=
  { Record.blank ⟨"GIFT", by decide⟩ with
    message := "Enjoy %ITEM%!"
    defaults := .ofList [(⟨"ITEM", by decide⟩, "a cookie"), (.playerName, "nobody"), (.world, "limbo")] }

/-- Someone in a world, for whom the caller has named another. -/
def visitor : Context :=
  (Context.fresh { Recipient.named "Sam" with location? := some ⟨some ⟨"desert"⟩, ⟨0⟩, ⟨0⟩, ⟨0⟩⟩ }
    gift.key).put .world (.text "oasis")

/-- The world is the caller's, the name is the recipient's, and the item is the record's. -/
theorem gift_composed_alike_behind_templates :
    gift.bindings.reverse.Perm gift.bindings ∧
    (visitor.supply visitor.recipient.bindings).supply gift.bindings.reverse =
      visitor.prepared (some gift) ∧
    (visitor.prepared (some gift)).get? .world = some (.text "oasis") ∧
    (visitor.prepared (some gift)).get? .playerName = some (.text "Sam") ∧
    (visitor.prepared (some gift)).get? ⟨"ITEM", by decide⟩ = some (.text "a cookie") ∧
    (visitor.prepared (some gift)).get? ⟨"ITEM.COUNT", by decide +kernel⟩ = none ∧
    ((ofConfig .standard).composeRecord
        ((ofConfig .standard).after visitor ["%WORLD%", "%ITEM%"]) gift).1.message =
      "Enjoy a cookie!" := by
  have hperm : gift.bindings.reverse.Perm gift.bindings := List.reverse_perm _
  obtain ⟨hget, -, -, horder, -, hagain⟩ :=
    prepared_once_and_for_all (ofConfig .standard) visitor (some gift)
  refine ⟨hperm, horder gift _ hperm, ?_, ?_, ?_, ?_, ?_⟩
  · rw [hget]
    decide +kernel
  · rw [hget]
    decide +kernel
  · rw [hget]
    decide +kernel
  · rw [hget]
    decide +kernel
  · rw [(hagain gift ["%WORLD%", "%ITEM%"]).1]
    decide +kernel

end Composer

end Courier
