import Courier.Composer
import Courier.Proofs.KeyHierarchy

/-!
# What a key reads as

The texts for a list of names are laid together from the fragments of the bound keys that serve them,
the shallowest first. This file gives them a meaning without lists and orders:

* `Fragment.RootedAt`: a fragment has texts only under its own key and the keys just below it, so two
  fragments meet only in a key and its parent;
* `Context.Serves`: the set of bound keys that serve some of the names;
* `get?_resolveKeys`: a key reads as its own fragment says if it serves and has a text there, else as
  the fragment of its parent says if that one serves, else as nothing.

Nothing else about the names counts: not their order, not how often they stand there, and not the
texts among them that are no keys.
-/

namespace Courier

/-! ### Where the texts of a fragment stand -/

/-- Texts under a key itself and under its children, and nowhere else. -/
def Fragment.RootedAt (f : Fragment) (b : Key) : Prop :=
  ∀ k text, f.get? k = some text → k = b ∨ k.parent? = some b

namespace Fragment

theorem rootedAt_empty (b : Key) : RootedAt .empty b := by
  intro k text h
  rw [Table.get?_empty] at h
  cases h

theorem RootedAt.insert_self {f : Fragment} {b : Key} (hf : f.RootedAt b) (own : String) :
    RootedAt (f.insert b own) b := by
  intro k text h
  rw [Table.get?_insert] at h
  split at h
  · exact .inl ‹k = b›
  · exact hf k text h

theorem rootedAt_singleton (b : Key) (own : String) : RootedAt (.singleton b own) b :=
  (rootedAt_empty b).insert_self own

theorem RootedAt.insertChild {f : Fragment} {b : Key} (hf : f.RootedAt b) {segment : String}
    (hdot : '.' ∉ segment.toList) (below : String) : (f.insertChild b segment below).RootedAt b := by
  intro k text h
  rw [get?_insertChild] at h
  split at h
  · rename_i hchild
    exact .inr (Key.parent?_of_child? hchild hdot)
  · exact hf k text h

end Fragment

namespace Resolver

theorem rootedAt_locationFragment (r : Resolver) (b : Key) (l : Location) :
    (r.locationFragment b l).RootedAt b := by
  simp only [locationFragment, List.foldl_cons, List.foldl_nil]
  refine Fragment.RootedAt.insertChild ?_ (by decide) _
  refine Fragment.RootedAt.insertChild ?_ (by decide) _
  refine Fragment.RootedAt.insertChild ?_ (by decide) _
  exact (Fragment.rootedAt_singleton b _).insertChild (by decide) _

theorem rootedAt_worldFragment (r : Resolver) (b : Key) (w : World) :
    (r.worldFragment b w).RootedAt b :=
  ((Fragment.rootedAt_empty b).insertChild (by decide) _).insert_self _

/-- Only locations, worlds and numbers that are not there give anything but one text of their own. -/
theorem fragment_cases (r : Resolver) (reader : Recipient) (b : Key) (v : Value) :
    (∃ l, v = .location l) ∨ (∃ w, v = .world w) ∨ v = .number none ∨
      ∃ own, r.fragment reader b v = .singleton b own := by
  cases v with
  | location l => exact .inl ⟨l, rfl⟩
  | world w => exact .inr (.inl ⟨w, rfl⟩)
  | number n =>
    cases n with
    | none => exact .inr (.inr (.inl rfl))
    | some n => exact .inr (.inr (.inr ⟨_, rfl⟩))
  | recipient _ => exact .inr (.inr (.inr ⟨_, rfl⟩))
  | identity _ => exact .inr (.inr (.inr ⟨_, rfl⟩))
  | item _ => exact .inr (.inr (.inr ⟨_, rfl⟩))
  | duration _ => exact .inr (.inr (.inr ⟨_, rfl⟩))
  | text _ => exact .inr (.inr (.inr ⟨_, rfl⟩))
  | null => exact .inr (.inr (.inr ⟨_, rfl⟩))
  | object _ => exact .inr (.inr (.inr ⟨_, rfl⟩))

/-- **Values of every kind give texts under their key and just below it only.** -/
theorem rootedAt_fragment (r : Resolver) (reader : Recipient) (b : Key) (v : Value) :
    (r.fragment reader b v).RootedAt b := by
  rcases r.fragment_cases reader b v with ⟨l, rfl⟩ | ⟨w, rfl⟩ | rfl | ⟨own, hown⟩
  · exact r.rootedAt_locationFragment b l
  · exact r.rootedAt_worldFragment b w
  · exact Fragment.rootedAt_empty b
  · rw [hown]
    exact Fragment.rootedAt_singleton b own

end Resolver

/-! ### Adaptation -/

/-- What a value is before resolution: a host object is what the first adapter with an answer makes of
it, or itself if there is none, and every other value is itself. -/
inductive Adapter.Narrows (adapters : List Adapter) : Value → Value → Prop where
  | answered {o : HostObject} {declining : List Adapter} {a : Adapter} {others : List Adapter}
      {v : Value} : adapters = declining ++ a :: others → (∀ d ∈ declining, d.narrow? o = none) →
      a.narrow? o = some v → Narrows adapters (.object o) v
  | declined {o : HostObject} : (∀ a ∈ adapters, a.narrow? o = none) →
      Narrows adapters (.object o) (.object o)
  | kept {v : Value} : (∀ o, v ≠ .object o) → Narrows adapters v v

theorem Adapter.narrows_adapted (adapters : List Adapter) (v : Value) :
    Narrows adapters v (adapted adapters v) := by
  by_cases hobject : ∃ o, v = .object o
  · obtain ⟨o, rfl⟩ := hobject
    show Narrows adapters (.object o) ((adapters.findSome? fun a => a.narrow? o).getD (.object o))
    cases hfound : adapters.findSome? fun a => a.narrow? o with
    | none => exact .declined (List.findSome?_eq_none_iff.1 hfound)
    | some v =>
      obtain ⟨declining, a, others, happ, ha, hdeclining⟩ := List.findSome?_eq_some_iff.1 hfound
      exact .answered happ hdeclining ha
  · have hkind : ∀ o, v ≠ .object o := fun o h => hobject ⟨o, h⟩
    rw [adapted_of_ne_object hkind]
    exact .kept hkind

/-! ### The serving keys -/

/-- The nearest bound key on the way up from a key. -/
inductive Context.Nearest (context : Context) : Key → Key → Prop where
  | here {k : Key} : context.bindings.contains k = true → Nearest context k k
  | above {k p b : Key} : context.bindings.contains k = false → k.parent? = some p →
      Nearest context p b → Nearest context k b

/-- A key serves names if it is the nearest bound key of a key among them. -/
def Context.Serves (context : Context) (names : List String) (b : Key) : Prop :=
  ∃ k : Key, k.text ∈ names ∧ context.Nearest k b

namespace Context

theorem Nearest.bound {context : Context} {k b : Key} (h : context.Nearest k b) :
    context.bindings.contains b = true := by
  induction h with
  | here hbound => exact hbound
  | above _ _ _ ih => exact ih

theorem nearest_of_nearest? {context : Context} {k b : Key} (h : context.nearest? k = some b) :
    context.Nearest k b := by
  unfold nearest? at h
  cases hparent : k.parent? with
  | none =>
    rw [Key.lineage_of_parent?_none hparent, List.find?_singleton] at h
    split at h
    · rename_i hbound
      rw [← Option.some.inj h]
      exact .here hbound
    · cases h
  | some p =>
    rw [Key.lineage_of_parent? hparent, List.find?_cons] at h
    split at h
    · rename_i hbound
      rw [← Option.some.inj h]
      exact .here hbound
    · rename_i hfree
      exact .above (by simpa using hfree) hparent (nearest_of_nearest? h)
termination_by k.text.toList.length
decreasing_by exact Key.length_parent?_lt hparent

/-- The search along the lineage finds the nearest bound key, and only that. -/
theorem nearest?_eq_some_iff {context : Context} {k b : Key} :
    context.nearest? k = some b ↔ context.Nearest k b := by
  refine ⟨nearest_of_nearest?, fun h => ?_⟩
  induction h with
  | @here k hbound => exact List.find?_cons_of_pos hbound
  | @above k p b hfree hparent _ ih =>
    rw [nearest?] at ih ⊢
    rw [Key.lineage_of_parent? hparent, List.find?_cons_of_neg (by simp [hfree])]
    exact ih

theorem mem_served_iff {context : Context} {names : List String} {b : Key} :
    b ∈ context.served names ↔ context.Serves names b := by
  unfold served Serves
  rw [List.mem_eraseDups, List.mem_filterMap]
  constructor
  · intro h
    obtain ⟨name, hname, hb⟩ := h
    obtain ⟨k, hk, hnear⟩ := Option.bind_eq_some_iff.1 hb
    rw [← Key.ofString?_eq_some_iff.1 hk] at hname
    exact ⟨k, hname, nearest?_eq_some_iff.1 hnear⟩
  · intro h
    obtain ⟨k, hname, hnear⟩ := h
    refine ⟨k.text, hname, ?_⟩
    rw [Key.ofString?_text]
    exact nearest?_eq_some_iff.2 hnear

instance (context : Context) (names : List String) (b : Key) : Decidable (context.Serves names b) :=
  decidable_of_iff (b ∈ context.served names) mem_served_iff

end Context

/-! ### Laying fragments together -/

/-- Of merged tables the last one with a value under a key counts. -/
theorem Table.get?_foldl_merge {κ ν : Type} [Ord κ] [Std.TransOrd κ] [Std.LawfulEqOrd κ]
    [DecidableEq κ] (tables : List (Table κ ν)) (t : Table κ ν) (k : κ) :
    (tables.foldl Table.merge t).get? k =
      (tables.reverse.findSome? fun u => u.get? k).or (t.get? k) := by
  induction tables generalizing t with
  | nil => rfl
  | cons u us ih =>
    rw [List.foldl_cons, ih, Table.get?_merge, List.reverse_cons, List.findSome?_append,
      Option.or_assoc]
    congr 1
    rw [List.findSome?_cons, List.findSome?_nil]
    cases u.get? k <;> rfl

namespace Composer

/-- The serving keys from the deepest to the shallowest. -/
def fromDeep (context : Context) (names : List String) : List Key :=
  ((context.served names).mergeSort fun a b => decide (a.depth ≤ b.depth)).reverse

theorem mem_fromDeep {context : Context} {names : List String} {b : Key} :
    b ∈ fromDeep context names ↔ context.Serves names b := by
  rw [fromDeep, List.mem_reverse, List.mem_mergeSort]
  exact Context.mem_served_iff

theorem pairwise_depth_fromDeep (context : Context) (names : List String) :
    (fromDeep context names).Pairwise fun a b => b.depth ≤ a.depth := by
  have htrans : ∀ a b c : Key, decide (a.depth ≤ b.depth) = true →
      decide (b.depth ≤ c.depth) = true → decide (a.depth ≤ c.depth) = true := by
    intro a b c hab hbc
    rw [decide_eq_true_iff] at hab hbc ⊢
    exact Nat.le_trans hab hbc
  have htotal : ∀ a b : Key, (decide (a.depth ≤ b.depth) || decide (b.depth ≤ a.depth)) = true := by
    intro a b
    rw [Bool.or_eq_true, decide_eq_true_iff, decide_eq_true_iff]
    exact Nat.le_total _ _
  rw [fromDeep, List.pairwise_reverse]
  exact (List.pairwise_mergeSort htrans htotal (context.served names)).imp of_decide_eq_true

theorem rootedAt_fragmentOf (c : Composer) (context : Context) (b : Key) :
    (c.fragmentOf context b).RootedAt b := by
  unfold fragmentOf
  cases context.get? b with
  | none => exact Fragment.rootedAt_empty b
  | some v => exact c.resolver.rootedAt_fragment _ b _

theorem get?_resolveKeys_eq_findSome? (c : Composer) (context : Context) (names : List String)
    (k : Key) :
    (c.resolveKeys context names).get? k =
      (fromDeep context names).findSome? fun b => (c.fragmentOf context b).get? k := by
  rw [resolveKeys, fromDeep, Table.get?_foldl_merge, Table.get?_empty, Option.or_none, ← List.map_reverse,
    List.findSome?_map]
  rfl

variable {c : Composer} {context : Context} {names : List String} {k p : Key}

/-- A serving key keeps the text it has of its own: the only other key that could give it one is its
parent, which stands less deep and so comes later. -/
theorem get?_resolveKeys_own (hk : context.Serves names k) {text : String}
    (hown : (c.fragmentOf context k).get? k = some text) :
    (c.resolveKeys context names).get? k = some text := by
  rw [get?_resolveKeys_eq_findSome?]
  have hmem : k ∈ fromDeep context names := mem_fromDeep.2 hk
  cases hfind : (fromDeep context names).findSome? fun b => (c.fragmentOf context b).get? k with
  | none =>
    have hnone := List.findSome?_eq_none_iff.1 hfind k hmem
    rw [hown] at hnone
    cases hnone
  | some found =>
    obtain ⟨deeper, b, shallower, hsplit, hb, hdeeper⟩ := List.findSome?_eq_some_iff.1 hfind
    rcases c.rootedAt_fragmentOf context b k found hb with rfl | hparent
    · rw [← hb, hown]
    · exfalso
      have hdepth := Key.depth_of_parent? hparent
      have hordered := pairwise_depth_fromDeep context names
      rw [hsplit] at hmem hordered
      rcases List.mem_append.1 hmem with hbefore | hrest
      · rw [hdeeper k hbefore] at hown
        cases hown
      · rcases List.mem_cons.1 hrest with hself | hafter
        · exact Key.parent?_ne_self hparent hself
        · have hle := (List.pairwise_cons.1 (List.pairwise_append.1 hordered).2.1).1 k hafter
          omega

/-- A key without a text of its own has what its serving parent derives. -/
theorem get?_resolveKeys_parent (hown : context.Serves names k → (c.fragmentOf context k).get? k = none)
    (hparent : k.parent? = some p) (hp : context.Serves names p) :
    (c.resolveKeys context names).get? k = (c.fragmentOf context p).get? k := by
  rw [get?_resolveKeys_eq_findSome?]
  cases hfind : (fromDeep context names).findSome? fun b => (c.fragmentOf context b).get? k with
  | none => exact (List.findSome?_eq_none_iff.1 hfind p (mem_fromDeep.2 hp)).symm
  | some found =>
    obtain ⟨b, hmem, hb⟩ := List.exists_of_findSome?_eq_some hfind
    rcases c.rootedAt_fragmentOf context b k found hb with rfl | hb'
    · rw [hown (mem_fromDeep.1 hmem)] at hb
      cases hb
    · rw [hparent] at hb'
      rw [Option.some.inj hb', hb]

/-- A key without a text of its own and without a serving parent has none at all. -/
theorem get?_resolveKeys_none (hown : context.Serves names k → (c.fragmentOf context k).get? k = none)
    (hparent : ∀ p, k.parent? = some p → ¬ context.Serves names p) :
    (c.resolveKeys context names).get? k = none := by
  rw [get?_resolveKeys_eq_findSome?, List.findSome?_eq_none_iff]
  intro b hmem
  cases hb : (c.fragmentOf context b).get? k with
  | none => rfl
  | some found =>
    exfalso
    rcases c.rootedAt_fragmentOf context b k found hb with rfl | hb'
    · rw [hown (mem_fromDeep.1 hmem)] at hb
      cases hb
    · exact hparent b hb' (mem_fromDeep.1 hmem)

/-- A key without a text of its own reads as its parent says, if that serves. -/
theorem get?_resolveKeys_of_own_none
    (hown : context.Serves names k → (c.fragmentOf context k).get? k = none) :
    (c.resolveKeys context names).get? k =
      match k.parent? with
      | some p => if context.Serves names p then (c.fragmentOf context p).get? k else none
      | none => none := by
  cases hparent : k.parent? with
  | none => exact get?_resolveKeys_none hown (by simp [hparent])
  | some p =>
    show _ = if context.Serves names p then (c.fragmentOf context p).get? k else none
    split
    · exact get?_resolveKeys_parent hown hparent ‹_›
    · rename_i hp
      refine get?_resolveKeys_none hown fun q hq => ?_
      rw [hparent] at hq
      rw [← Option.some.inj hq]
      exact hp

/-- **What a key reads as:** its own fragment decides if it serves and has a text there, else the
fragment of its parent. -/
theorem get?_resolveKeys (c : Composer) (context : Context) (names : List String) (k : Key) :
    (c.resolveKeys context names).get? k =
      if context.Serves names k ∧ (c.fragmentOf context k).contains k = true then
        (c.fragmentOf context k).get? k
      else
        match k.parent? with
        | some p => if context.Serves names p then (c.fragmentOf context p).get? k else none
        | none => none := by
  by_cases hk : context.Serves names k ∧ (c.fragmentOf context k).contains k = true
  · rw [if_pos hk]
    obtain ⟨text, hown⟩ := Option.isSome_iff_exists.1 hk.2
    rw [hown]
    exact get?_resolveKeys_own hk.1 hown
  · rw [if_neg hk]
    refine get?_resolveKeys_of_own_none fun hserves => ?_
    rw [← Option.not_isSome_iff_eq_none]
    exact fun hsome => hk ⟨hserves, hsome⟩

/-- The serving keys are all that the names contribute. -/
theorem resolveKeys_congr (c : Composer) (context : Context) {names names' : List String}
    (h : ∀ b, context.Serves names' b ↔ context.Serves names b) :
    c.resolveKeys context names' = c.resolveKeys context names := by
  apply Table.ext_get?
  intro k
  rw [get?_resolveKeys, get?_resolveKeys]
  simp only [h]

theorem fragmentOf_of_get? {b : Key} {v : Value} (h : context.get? b = some v) :
    c.fragmentOf context b = c.fragment context b v := by
  rw [fragmentOf, h]
  rfl

/-- **The texts for names, without lists and orders.** A key reads as its own binding says if it serves
some of the names and has a text there, else as the binding of its parent says if that one serves, else
as nothing; a binding says what its value gives after adaptation; and of the names only the keys among
them matter. -/
theorem resolveKeys_own_before_parent (c : Composer) (context : Context) (names : List String) :
    (∀ k : Key, (c.resolveKeys context names).get? k =
      if context.Serves names k ∧ (c.fragmentOf context k).contains k = true then
        (c.fragmentOf context k).get? k
      else
        match k.parent? with
        | some p => if context.Serves names p then (c.fragmentOf context p).get? k else none
        | none => none) ∧
    (∀ b v, context.get? b = some v → ∃ narrow, Adapter.Narrows c.adapters v narrow ∧
      c.fragmentOf context b = c.resolver.fragment context.recipient b narrow) ∧
    ∀ names' : List String, (∀ k : Key, k.text ∈ names' ↔ k.text ∈ names) →
      c.resolveKeys context names' = c.resolveKeys context names := by
  refine ⟨c.get?_resolveKeys context names, ?_, ?_⟩
  · intro b v hv
    exact ⟨Adapter.adapted c.adapters v, Adapter.narrows_adapted c.adapters v, fragmentOf_of_get? hv⟩
  · intro names' hnames
    refine c.resolveKeys_congr context fun b => ?_
    unfold Context.Serves
    simp only [hnames]

end Composer

end Courier
