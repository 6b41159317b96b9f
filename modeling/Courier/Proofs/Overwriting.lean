import Courier.Key
import Mathlib.Data.Finset.Card

/-!
# The last write counts

Whatever was written to a table, and in however many steps, a key holds what was written to it last. So a
table tells nothing else about the writes that made it: two tables are equal if the last writes are the
same, and tables are merged like lists of writes put one behind the other.

* `LastWrite`: the last of some writes to a key;
* `Table.get?_ofList_eq_some_iff`: what a key holds after some writes;
* `Table.size_ofList`: a key counts once, however often it was written;
* `Table.insertMany_perm`: in which order different keys are written has no part in it;
* `Table.merge_assoc`, `Table.merge_comm`: merging is associative, and commutes for different keys;
* `Assembly.fragment_eq`: a fragment is what all its writes in a row make it;
* `Assembly.last_text_counts`: so of the texts that were written the last ones are there, and no others.
-/

namespace Courier

/-! ### Lists of entries -/

/-- The first of some bindings counts if it is for the key, else the first for it among the others. -/
theorem find?_binding_cons {κ ν : Type} [DecidableEq κ] (e : κ × ν) (es : List (κ × ν)) (k : κ) :
    ((e :: es).find? fun b => b.1 = k).map (·.2) =
      if k = e.1 then some e.2 else (es.find? fun b => b.1 = k).map (·.2) := by
  by_cases hk : k = e.1
  · simp [hk]
  · rw [if_neg hk, List.find?_cons_of_neg (by simpa using Ne.symm hk)]

theorem find?_binding_eq_none_iff {κ ν : Type} [DecidableEq κ] {es : List (κ × ν)} {k : κ} :
    (es.find? fun b => b.1 = k).map (·.2) = none ↔ k ∉ es.map Prod.fst := by
  rw [Option.map_eq_none_iff, List.find?_eq_none, List.mem_map]
  constructor
  · rintro h ⟨e, he, rfl⟩
    exact h e he (decide_eq_true rfl)
  · intro h e he hk
    exact h ⟨e, he, of_decide_eq_true hk⟩

/-- The last of some writes to a key. -/
def LastWrite {κ ν : Type} (writes : List (κ × ν)) (k : κ) (v : ν) : Prop :=
  ∃ before after, writes = before ++ (k, v) :: after ∧ ∀ e ∈ after, e.1 ≠ k

theorem find?_reverse_eq_some_iff {κ ν : Type} [DecidableEq κ] {writes : List (κ × ν)} {k : κ} {v : ν} :
    (writes.reverse.find? fun e => e.1 = k).map (·.2) = some v ↔ LastWrite writes k v := by
  rw [Option.map_eq_some_iff]
  constructor
  · rintro ⟨e, hfind, rfl⟩
    obtain ⟨hk, after, before, hwrites, hafter⟩ := List.find?_eq_some_iff_append.1 hfind
    obtain rfl := of_decide_eq_true hk
    refine ⟨before.reverse, after.reverse, ?_, fun b hb => ?_⟩
    · rw [← List.reverse_reverse writes, hwrites, List.reverse_append, List.reverse_cons, List.append_assoc]
      rfl
    · simpa using hafter b (List.mem_reverse.1 hb)
  · rintro ⟨before, after, rfl, hafter⟩
    refine ⟨(k, v), List.find?_eq_some_iff_append.2 ⟨decide_eq_true rfl, after.reverse, before.reverse,
      ?_, fun b hb => ?_⟩, rfl⟩
    · rw [List.reverse_append, List.reverse_cons, List.append_assoc]
      rfl
    · simpa using hafter b (List.mem_reverse.1 hb)

/-- Of writes to different keys every one is the last to its key. -/
theorem lastWrite_of_mem {κ ν : Type} {writes : List (κ × ν)} {k : κ} {v : ν}
    (hdistinct : (writes.map Prod.fst).Nodup) (h : (k, v) ∈ writes) : LastWrite writes k v := by
  obtain ⟨before, after, rfl⟩ := List.append_of_mem h
  rw [List.map_append, List.map_cons, List.nodup_append] at hdistinct
  obtain ⟨-, hafter, -⟩ := hdistinct
  refine ⟨before, after, rfl, ?_⟩
  rintro e he rfl
  exact (List.nodup_cons.1 hafter).1 (List.mem_map.2 ⟨e, he, rfl⟩)

/-! ### Tables -/

namespace Table

variable {κ ν : Type} [Ord κ] [Std.LawfulEqOrd κ]

/-- A key has no more than one entry. -/
theorem nodup_keys (t : Table κ ν) : t.keys.Nodup := by
  rw [List.nodup_iff_pairwise_ne]
  refine List.pairwise_map.2 (t.ordered.imp fun {a b} hlt heq => ?_)
  rw [heq, Std.ReflOrd.compare_self] at hlt
  cases hlt

variable [DecidableEq κ]

/-- The first entry with a key holds the value of the key. -/
theorem find?_entries (t : Table κ ν) (k : κ) :
    (t.entries.find? fun e => e.1 = k).map (·.2) = t.get? k := by
  show _ = lookup k t.entries
  induction t.entries with
  | nil => rfl
  | cons e es ih =>
    rw [find?_binding_cons, ih, lookup]
    simp only [Std.LawfulEqOrd.compare_eq_iff_eq]

theorem mem_entries_of_get? {t : Table κ ν} {k : κ} {v : ν} (h : t.get? k = some v) : (k, v) ∈ t.entries := by
  rw [← find?_entries] at h
  obtain ⟨e, hfind, rfl⟩ := Option.map_eq_some_iff.1 h
  obtain rfl : e.1 = k := by simpa using List.find?_some hfind
  exact List.mem_of_find?_eq_some hfind

theorem get?_eq_none_iff {t : Table κ ν} {k : κ} : t.get? k = none ↔ k ∉ t.keys := by
  rw [← find?_entries, find?_binding_eq_none_iff, keys]

variable [Std.TransOrd κ] {writes : List (κ × ν)} {k k' : κ} {v v' : ν}

/-- **After some writes a key holds what was written to it last.** -/
theorem get?_ofList_eq_some_iff : (ofList writes).get? k = some v ↔ LastWrite writes k v := by
  rw [ofList, get?_insertMany, get?_empty, Option.or_none, find?_reverse_eq_some_iff]

theorem get?_ofList_eq_none_iff : (ofList writes).get? k = none ↔ k ∉ writes.map Prod.fst := by
  rw [ofList, get?_insertMany, get?_empty, Option.or_none, find?_binding_eq_none_iff, List.map_reverse,
    List.mem_reverse]

/-- A key counts once, however often it was written. -/
theorem size_ofList (writes : List (κ × ν)) :
    (ofList writes).size = (writes.map Prod.fst).toFinset.card := by
  have hkeys : (ofList writes).keys.toFinset = (writes.map Prod.fst).toFinset := by
    ext k
    rw [List.mem_toFinset, List.mem_toFinset, ← not_iff_not, ← get?_eq_none_iff, get?_ofList_eq_none_iff]
  rw [← hkeys, List.toFinset_card_of_nodup (nodup_keys _), keys, List.length_map]
  rfl

theorem insert_comm (hne : k ≠ k') (t : Table κ ν) (v v' : ν) :
    (t.insert k v).insert k' v' = (t.insert k' v').insert k v := by
  apply ext_get?
  intro key
  rw [get?_insert, get?_insert, get?_insert, get?_insert]
  by_cases hk : key = k
  · rw [if_neg (hk ▸ hne), if_pos hk, if_pos hk]
  · rw [if_neg hk, if_neg hk]

/-- **Different keys can be written in any order.** -/
theorem insertMany_perm {writes' : List (κ × ν)} (h : writes.Perm writes')
    (hdistinct : (writes.map Prod.fst).Nodup) (t : Table κ ν) :
    t.insertMany writes = t.insertMany writes' := by
  apply h.foldl_eq'
  intro e he e' he' t
  by_cases hkey : e.1 = e'.1
  · rw [List.inj_on_of_nodup_map hdistinct he he' hkey]
  · exact insert_comm hkey t e.2 e'.2

/-- The entries of a table are merged in any order. -/
theorem insertMany_eq_merge_of_perm {u : Table κ ν} (h : writes.Perm u.entries) (t : Table κ ν) :
    t.insertMany writes = t.merge u :=
  (insertMany_perm h.symm u.nodup_keys t).symm

/-! ### Merging -/

/-- Writes to a table are merged into it. -/
theorem insertMany_eq_merge (t : Table κ ν) (writes : List (κ × ν)) :
    t.insertMany writes = t.merge (ofList writes) := by
  apply ext_get?
  intro k
  rw [get?_merge, ofList, get?_insertMany, get?_insertMany, get?_empty, Option.or_none]

/-- Writes that come later are merged into what the earlier ones have made. -/
theorem ofList_append (writes writes' : List (κ × ν)) :
    ofList (writes ++ writes') = (ofList writes).merge (ofList writes') := by
  rw [← insertMany_eq_merge]
  exact List.foldl_append

theorem empty_merge (t : Table κ ν) : empty.merge t = t := by
  apply ext_get?
  intro k
  rw [get?_merge, get?_empty, Option.or_none]

theorem merge_assoc (t u w : Table κ ν) : (t.merge u).merge w = t.merge (u.merge w) := by
  apply ext_get?
  intro k
  rw [get?_merge, get?_merge, get?_merge, get?_merge, Option.or_assoc]

/-- Tables without a key in common are merged either way. -/
theorem merge_comm {t u : Table κ ν} (h : ∀ k, t.get? k = none ∨ u.get? k = none) :
    t.merge u = u.merge t := by
  apply ext_get?
  intro k
  rw [get?_merge, get?_merge]
  rcases h k with hk | hk
  · rw [hk, Option.or_none, Option.none_or]
  · rw [hk, Option.or_none, Option.none_or]

/-- A name holds nothing if no key of that name was written. -/
theorem named?_ofList_eq_none_iff {writes : List (Key × ν)} {name : String} :
    (ofList writes).named? name = none ↔ ∀ e ∈ writes, e.1.text ≠ name := by
  rw [named?, Option.bind_eq_none_iff]
  constructor
  · rintro h e he rfl
    exact get?_ofList_eq_none_iff.1 (h e.1 (Key.ofString?_text e.1)) (List.mem_map_of_mem he)
  · intro h k hk
    rw [get?_ofList_eq_none_iff, List.mem_map]
    rintro ⟨e, he, rfl⟩
    exact h e he (Key.ofString?_eq_some_iff.1 hk)

end Table

/-! ### Fragments -/

/-- A text is written, and the one that it is written over is handed back. -/
def Fragment.put (k : Key) (text : String) : StateM Fragment (Option String) :=
  modifyGet fun f => (f.get? k, f.insert k text)

/-- How a fragment is put together: it starts with nothing, with one text or with a list of them, and then
texts are put into it one by one, or all those of another fragment. -/
inductive Assembly where
  | nothing
  | single (k : Key) (text : String)
  | texts (es : List (Key × String))
  | put (a : Assembly) (k : Key) (text : String)
  | putAll (a other : Assembly)

namespace Assembly

/-- The fragment that is put together. -/
def fragment : Assembly → Fragment
  | nothing => .empty
  | single k text => .singleton k text
  | texts es => .ofList es
  | put a k text => a.fragment.insert k text
  | putAll a other => a.fragment.merge other.fragment

/-- All texts that were written in the course of it, in their order; those of another fragment come when it
is put in. -/
def writes : Assembly → List (Key × String)
  | nothing => []
  | single k text => [(k, text)]
  | texts es => es
  | put a k text => a.writes ++ [(k, text)]
  | putAll a other => a.writes ++ other.writes

/-- **A fragment is what all its writes in a row make it.** -/
theorem fragment_eq (a : Assembly) : a.fragment = .ofList a.writes := by
  induction a with
  | nothing => rfl
  | single k text => rfl
  | texts es => rfl
  | put a k text ih =>
    rw [fragment, ih, writes, Table.ofList, Table.ofList, Table.insertMany, Table.insertMany,
      List.foldl_append]
    rfl
  | putAll a other iha ihother => rw [fragment, iha, ihother, writes, Table.ofList_append]

theorem get?_fragment_eq_some_iff {a : Assembly} {k : Key} {text : String} :
    a.fragment.get? k = some text ↔ LastWrite a.writes k text := by
  rw [fragment_eq, Table.get?_ofList_eq_some_iff]

theorem beq_iff_named? {f g : Fragment} : (f == g) = true ↔ ∀ name, f.named? name = g.named? name := by
  rw [beq_iff_eq]
  constructor
  · rintro rfl name
    rfl
  · intro h
    apply Table.ext_get?
    intro k
    rw [← Table.named?_text, h, Table.named?_text]

/-- **Of the texts that were written the last ones are there, and no others.** A fragment answers with the
last text that was written under a name, be it alone, in a list or with another fragment, and what is put
into it is exchanged for that text. Its size is the number of the keys that were written. Fragments are
merged in any order of their entries, associatively, with the empty one as a unit, and commute if they have
no key in common. Two of them compare as equal exactly if they answer alike under every name, and that is if
the last writes were the same, however they were put together. -/
theorem last_text_counts (a b : Assembly) :
    (∀ k text, a.fragment.named? k.text = some text ↔ LastWrite a.writes k text) ∧
    (∀ name, a.fragment.named? name = none ↔ ∀ e ∈ a.writes, e.1.text ≠ name) ∧
    (∀ k text, ∃ previous?,
      (Fragment.put k text).run a.fragment = (previous?, (a.put k text).fragment) ∧
      ∀ previous, previous? = some previous ↔ LastWrite a.writes k previous) ∧
    a.fragment.size = (a.writes.map Prod.fst).toFinset.card ∧
    (∀ t u w : Fragment,
      (t.merge u).merge w = t.merge (u.merge w) ∧ t.merge .empty = t ∧ Table.empty.merge t = t ∧
      (∀ es, es.Perm u.entries → t.insertMany es = t.merge u) ∧
      ((∀ k, t.get? k = none ∨ u.get? k = none) → t.merge u = u.merge t)) ∧
    ((a.fragment == b.fragment) = true ↔
      ∀ name, a.fragment.named? name = b.fragment.named? name) ∧
    ((a.fragment == b.fragment) = true ↔
      ∀ k text, LastWrite a.writes k text ↔ LastWrite b.writes k text) := by
  refine ⟨fun k text => ?_, fun name => ?_, fun k text => ?_, ?_,
    fun t u w => ⟨t.merge_assoc u w, rfl, t.empty_merge,
      fun es h => Table.insertMany_eq_merge_of_perm h t, Table.merge_comm⟩, beq_iff_named?, ?_⟩
  · rw [Table.named?_text, get?_fragment_eq_some_iff]
  · rw [fragment_eq, Table.named?_ofList_eq_none_iff]
  · exact ⟨a.fragment.get? k, rfl, fun previous => get?_fragment_eq_some_iff⟩
  · rw [fragment_eq, Table.size_ofList]
  · rw [beq_iff_eq]
    simp only [← get?_fragment_eq_some_iff]
    constructor
    · intro h k text
      rw [h]
    · intro h
      apply Table.ext_get?
      intro k
      exact Option.ext (h k)

/-- Two keys that get texts. -/
def home : Key := ⟨"HOME", rfl⟩

def work : Key := ⟨"WORK", rfl⟩

/-- The text for one key is written twice. -/
def corrected : Assembly := ((single home "north").put work "south").put home "east"

/-- Each text is written once, in another order. -/
def gathered : Assembly := (texts [(work, "south")]).putAll (single home "east")

/-- Both have the same last writes, and hold two texts that could have been merged either way. -/
theorem corrected_as_gathered :
    (corrected.fragment == gathered.fragment) = true ∧
    (∀ k text, LastWrite corrected.writes k text ↔ LastWrite gathered.writes k text) ∧
    LastWrite corrected.writes home "east" ∧ corrected.fragment.size = 2 ∧
    (∀ k, (Table.singleton home "east").get? k = none ∨ (Table.singleton work "south").get? k = none) ∧
    (Table.singleton home "east").merge (.singleton work "south") =
      (Table.singleton work "south").merge (.singleton home "east") := by
  have hequal : (corrected.fragment == gathered.fragment) = true := by decide
  have hapart : ∀ k, (Table.singleton home "east").get? k = none ∨
      (Table.singleton work "south").get? k = none := by
    intro k
    have hne : home ≠ work := by decide
    rw [Table.singleton, Table.get?_insert, Table.singleton, Table.get?_insert]
    by_cases hk : k = home
    · exact .inr (if_neg (hk ▸ hne))
    · exact .inl (if_neg hk)
  obtain ⟨hlast, -, -, hsize, hmerge, -, hhistory⟩ := last_text_counts corrected gathered
  obtain ⟨-, -, -, -, hcomm⟩ := hmerge (.singleton home "east") (.singleton work "south") .empty
  exact ⟨hequal, hhistory.1 hequal, (hlast home "east").1 (by decide), hsize.trans (by decide), hapart,
    hcomm hapart⟩

end Assembly

end Courier
