import Courier.Proofs.Preparation
import Courier.Proofs.Resolution

/-!
# Which bindings matter

A text is filled from what its placeholders are bound to, each by its own key or by one of the keys above
it. Whatever else a context binds is not seen: not what stands below the placeholders, nor beside them.

* `Context.AgreeOn`: two contexts bind some keys alike, and all keys above them;
* `AgreeOn.prepared`: what is implied does not come between them;
* `AgreeOn.served`, `Composer.resolveKeys_eq_of_agreeOn`: the same keys serve in both, and read the same;
* `Composer.unmentioned_bindings_unseen`: so templates and records are filled alike in both.
-/

namespace Courier

namespace Context

/-- Two contexts bind the keys among some names alike, and the ancestors of these keys. -/
def AgreeOn (context context' : Context) (names : List String) : Prop :=
  ∀ k : Key, k.text ∈ names → ∀ a ∈ k.lineage, context.get? a = context'.get? a

variable {context context' : Context} {names : List String}

/-- What is implied is implied in both, or bound alike before. -/
theorem AgreeOn.prepared (h : context.AgreeOn context' names)
    (hrecipient : context.recipient = context'.recipient) (record? : Option Record) :
    (context.prepared record?).AgreeOn (context'.prepared record?) names := by
  intro k hk a ha
  rw [get?_prepared, get?_prepared, h k hk a ha, hrecipient]

theorem AgreeOn.nearest? (h : context.AgreeOn context' names) {k : Key} (hk : k.text ∈ names) :
    context.nearest? k = context'.nearest? k := by
  have hbound : ∀ a ∈ k.lineage, context.bindings.contains a = context'.bindings.contains a := by
    intro a ha
    show (context.get? a).isSome = (context'.get? a).isSome
    rw [h k hk a ha]
  rw [Context.nearest?, Context.nearest?, ← List.head?_filter, ← List.head?_filter,
    List.filter_congr hbound]

/-- The same keys serve the names. -/
theorem AgreeOn.served (h : context.AgreeOn context' names) :
    context.served names = context'.served names := by
  rw [Context.served, Context.served]
  congr 1
  refine List.filterMap_congr fun name hname => ?_
  cases hk : Key.ofString? name with
  | none => rfl
  | some k =>
    rw [← Key.ofString?_eq_some_iff.1 hk] at hname
    exact h.nearest? hname

/-- A key that serves names stands above one of them, or is one of them. -/
theorem exists_mem_lineage_of_mem_served {b : Key} (h : b ∈ context.served names) :
    ∃ k : Key, k.text ∈ names ∧ b ∈ k.lineage := by
  obtain ⟨k, hk, hnear⟩ := mem_served_iff.1 h
  exact ⟨k, hk, List.mem_of_find?_eq_some (nearest?_eq_some_iff.2 hnear)⟩

/-- A key that serves names is bound alike. -/
theorem AgreeOn.get?_of_mem_served (h : context.AgreeOn context' names) {b : Key}
    (hb : b ∈ context.served names) : context.get? b = context'.get? b := by
  obtain ⟨k, hk, hmem⟩ := exists_mem_lineage_of_mem_served hb
  exact h k hk b hmem

end Context

namespace Composer

variable {context context' : Context}

/-- What a key reads as depends on the recipient and on its own binding. -/
theorem fragmentOf_congr (c : Composer) {b : Key} (hrecipient : context.recipient = context'.recipient)
    (h : context.get? b = context'.get? b) : c.fragmentOf context b = c.fragmentOf context' b := by
  show ((context.get? b).map fun v =>
      c.resolver.fragment context.recipient b (Adapter.adapted c.adapters v)).getD .empty = _
  rw [h, hrecipient]
  rfl

/-- Contexts that agree on names give the same texts for them. -/
theorem resolveKeys_eq_of_agreeOn (c : Composer) {names : List String}
    (hrecipient : context.recipient = context'.recipient) (h : context.AgreeOn context' names) :
    c.resolveKeys context names = c.resolveKeys context' names := by
  have hfragments : ∀ b ∈ (context.served names).mergeSort fun a b => decide (a.depth ≤ b.depth),
      c.fragmentOf context b = c.fragmentOf context' b := by
    intro b hb
    exact c.fragmentOf_congr hrecipient (h.get?_of_mem_served (List.mem_mergeSort.1 hb))
  show (((context.served names).mergeSort _).map (c.fragmentOf context)).foldl Table.merge .empty = _
  rw [List.map_congr_left hfragments, h.served]
  rfl

/-- Prepared contexts give the same texts for templates, if the contexts agree on their placeholders. -/
theorem results_prepared_eq (c : Composer) {templates : List String} (record? : Option Record)
    (hrecipient : context.recipient = context'.recipient)
    (h : context.AgreeOn context' (c.delimiters.distinctKeys templates)) :
    c.results (context.prepared record?) templates = c.results (context'.prepared record?) templates := by
  refine c.resolveKeys_eq_of_agreeOn ?_ (h.prepared hrecipient record?)
  rw [Context.recipient_prepared, Context.recipient_prepared, hrecipient]

/-- **Bindings that are not mentioned are not seen.** Two contexts for the same recipient fill a template
alike if they agree on the keys of its placeholders and on the ancestors of these keys, and a record if
they do so for its three templates together. -/
theorem unmentioned_bindings_unseen (c : Composer) {context context' : Context}
    (hrecipient : context.recipient = context'.recipient) :
    (∀ template : String, context.AgreeOn context' (c.delimiters.distinctKeys [template]) →
      (c.compose context template).1 = (c.compose context' template).1) ∧
    ∀ r : Record,
      context.AgreeOn context' (c.delimiters.distinctKeys [r.message, r.title, r.subtitle]) →
        (c.composeRecord context r).1 = (c.composeRecord context' r).1 := by
  constructor
  · intro template h
    show c.delimiters.substitute template (c.results (context.prepared none) [template]) = _
    rw [c.results_prepared_eq none hrecipient h]
    rfl
  · intro r h
    have hresults := c.results_prepared_eq (some r) hrecipient h
    show c.fillRecord (context.prepared (some r)) r = c.fillRecord (context'.prepared (some r)) r
    rw [fillRecord, fillRecord, hresults]

/-- The key of a camp. -/
def camp : Key := ⟨"CAMP", by decide +kernel⟩

/-- The key of its first coordinate. -/
def campX : Key := ⟨"CAMP.X", by decide +kernel⟩

/-- The key of a guide. -/
def guide : Key := ⟨"GUIDE", by decide +kernel⟩

/-- Where the camp is, and who leads there by default. -/
def directions : Record :=
  { Record.blank ⟨"CAMP", by decide +kernel⟩ with
    message := "At %CAMP.X%", subtitle := "Ask %GUIDE%", defaults := .singleton guide "Kim" }

/-- Only the camp is bound. -/
def atCamp : Context :=
  (Context.fresh (.named "Alex") directions.key).put camp
    (.location ⟨some ⟨"w"⟩, ⟨0x3ff0000000000000#64⟩, ⟨0x4000000000000000#64⟩, ⟨0x4008000000000000#64⟩⟩)

/-- The same camp, with a second coordinate of its own, something below the first, and another name. -/
def amidOthers : Context :=
  ((atCamp.put ⟨"CAMP.Y", by decide +kernel⟩ (.text "south")).put ⟨"CAMP.X.OLD", by decide +kernel⟩
    (.number none)).put .playerName (.text "Nick")

theorem directions_alike_amid_others :
    atCamp.recipient = amidOthers.recipient ∧
    atCamp.AgreeOn amidOthers (Delimiters.percent.distinctKeys ["At %CAMP.X%"]) ∧
    ((ofConfig .standard).compose amidOthers "At %CAMP.X%").1 = "At 1" ∧
    atCamp.AgreeOn amidOthers (Delimiters.percent.distinctKeys
      [directions.message, directions.title, directions.subtitle]) ∧
    ((ofConfig .standard).composeRecord amidOthers directions).1 =
      ((ofConfig .standard).composeRecord atCamp directions).1 := by
  have hkeys : Delimiters.percent.distinctKeys ["At %CAMP.X%"] = ["CAMP.X"] := by decide +kernel
  have hall : Delimiters.percent.distinctKeys
      [directions.message, directions.title, directions.subtitle] = ["CAMP.X", "GUIDE"] := by
    decide +kernel
  have hcamp : ∀ a ∈ campX.lineage, atCamp.get? a = amidOthers.get? a := by decide +kernel
  have hguide : ∀ a ∈ guide.lineage, atCamp.get? a = amidOthers.get? a := by decide +kernel
  have htemplate : atCamp.AgreeOn amidOthers (Delimiters.percent.distinctKeys ["At %CAMP.X%"]) := by
    intro k hk
    rw [hkeys] at hk
    obtain rfl : k = campX := Key.eq_of_text (List.mem_singleton.1 hk)
    exact hcamp
  have hrecord : atCamp.AgreeOn amidOthers (Delimiters.percent.distinctKeys
      [directions.message, directions.title, directions.subtitle]) := by
    intro k hk
    rw [hall] at hk
    rcases List.mem_cons.1 hk with hk | hk
    · obtain rfl : k = campX := Key.eq_of_text hk
      exact hcamp
    · obtain rfl : k = guide := Key.eq_of_text (List.mem_singleton.1 hk)
      exact hguide
  have hrecipient : atCamp.recipient = amidOthers.recipient := rfl
  obtain ⟨hcompose, hcomposeRecord⟩ := unmentioned_bindings_unseen (ofConfig .standard) hrecipient
  refine ⟨hrecipient, htemplate, ?_, hrecord, (hcomposeRecord directions hrecord).symm⟩
  rw [← hcompose _ htemplate]
  decide +kernel

end Composer

end Courier
