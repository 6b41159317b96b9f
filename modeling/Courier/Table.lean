/-!
# Tables

A table holds one value a key. Its entries are kept in the strict order of their keys, so that two
tables are equal as soon as they answer every look-up alike, whatever was written to them and in
whatever order.

## Main statements

* `get?_insert`, `get?_erase`, `get?_merge`, `get?_filter`: what each operation does to look-ups.
* `ext_get?`: tables with the same look-ups are equal.
-/

namespace Courier

/-- Entries in the strict order of their keys. -/
structure Table (κ ν : Type) [Ord κ] where
  entries : List (κ × ν)
  ordered : entries.Pairwise (fun a b => compare a.1 b.1 = .lt)

namespace Table

variable {κ ν : Type} [Ord κ]

/-! ### Lists of entries -/

/-- The value beside the first occurrence of a key. -/
def lookup (k : κ) : List (κ × ν) → Option ν
  | [] => none
  | e :: es => if compare k e.1 = .eq then some e.2 else lookup k es

/-- The entry is put before the first larger key, or in the place of an equal one. -/
def insertEntry (k : κ) (v : ν) : List (κ × ν) → List (κ × ν)
  | [] => [(k, v)]
  | e :: es =>
    match compare k e.1 with
    | .lt => (k, v) :: e :: es
    | .eq => (k, v) :: es
    | .gt => e :: insertEntry k v es

theorem mem_insertEntry {k : κ} {v : ν} {a : κ × ν} {es : List (κ × ν)}
    (h : a ∈ insertEntry k v es) : a = (k, v) ∨ a ∈ es := by
  induction es with
  | nil => simpa [insertEntry] using h
  | cons e es ih =>
    unfold insertEntry at h
    split at h
    · simpa using h
    · rcases List.mem_cons.1 h with h | h
      · exact .inl h
      · exact .inr (List.mem_cons_of_mem _ h)
    · rcases List.mem_cons.1 h with h | h
      · exact .inr (h ▸ List.mem_cons_self)
      · exact (ih h).imp id (List.mem_cons_of_mem _)

theorem lookup_of_lt {k : κ} {es : List (κ × ν)} (h : ∀ e ∈ es, compare k e.1 = .lt) :
    lookup k es = none := by
  induction es with
  | nil => rfl
  | cons e es ih =>
    have he := h e List.mem_cons_self
    simp [lookup, he, ih fun e' h' => h e' (List.mem_cons_of_mem _ h')]

/-- In an ordered list the last entry with a key is its only one. -/
theorem find?_reverse_eq_lookup {es : List (κ × ν)} [Std.LawfulEqOrd κ] (k : κ) [DecidableEq κ]
    (h : es.Pairwise (fun a b => compare a.1 b.1 = .lt)) :
    (es.reverse.find? fun e => decide (e.1 = k)).map (·.2) = lookup k es := by
  induction es with
  | nil => rfl
  | cons e es ih =>
    obtain ⟨he, hes⟩ := List.pairwise_cons.1 h
    rw [List.reverse_cons, List.find?_append, Option.map_or, ih hes]
    by_cases hk : e.1 = k
    · subst hk
      have hn : lookup e.1 es = none := lookup_of_lt he
      simp [hn, lookup]
    · have : compare k e.1 ≠ .eq := fun h' => hk (Std.LawfulEqOrd.compare_eq_iff_eq.1 h').symm
      simp [hk, lookup, this]

/-! ### Reading -/

/-- No entries. -/
def empty : Table κ ν := ⟨[], .nil⟩

instance : Inhabited (Table κ ν) := ⟨empty⟩

instance [DecidableEq κ] [DecidableEq ν] : DecidableEq (Table κ ν) := fun s t =>
  decidable_of_iff (s.entries = t.entries) (by cases s; cases t; simp)

/-- The value under a key. -/
def get? (t : Table κ ν) (k : κ) : Option ν := lookup k t.entries

@[simp] theorem get?_empty (k : κ) : (empty : Table κ ν).get? k = none := rfl

/-- Whether a key has a value. -/
def contains (t : Table κ ν) (k : κ) : Bool := (t.get? k).isSome

/-- The number of keys that have a value. -/
def size (t : Table κ ν) : Nat := t.entries.length

def isEmpty (t : Table κ ν) : Bool := t.entries.isEmpty

/-- The keys that have a value, in their order. -/
def keys (t : Table κ ν) : List κ := t.entries.map (·.1)

variable [Std.TransOrd κ]

theorem ordered_insertEntry (k : κ) (v : ν) {es : List (κ × ν)}
    (h : es.Pairwise (fun a b => compare a.1 b.1 = .lt)) :
    (insertEntry k v es).Pairwise (fun a b => compare a.1 b.1 = .lt) := by
  induction es with
  | nil => simp [insertEntry]
  | cons e es ih =>
    obtain ⟨he, hes⟩ := List.pairwise_cons.1 h
    unfold insertEntry
    split
    · rename_i hk
      refine List.pairwise_cons.2 ⟨fun a ha => ?_, h⟩
      rcases List.mem_cons.1 ha with rfl | ha
      · exact hk
      · exact Std.TransCmp.lt_trans hk (he a ha)
    · rename_i hk
      exact List.pairwise_cons.2 ⟨fun a ha => Std.TransCmp.lt_of_eq_of_lt hk (he a ha), hes⟩
    · rename_i hk
      refine List.pairwise_cons.2 ⟨fun a ha => ?_, ih hes⟩
      rcases mem_insertEntry ha with rfl | ha
      · exact Std.OrientedCmp.lt_of_gt hk
      · exact he a ha

/-! ### Writing -/

/-- The value is written under the key, over any that was there. -/
def insert (t : Table κ ν) (k : κ) (v : ν) : Table κ ν :=
  ⟨insertEntry k v t.entries, ordered_insertEntry k v t.ordered⟩

/-- The value is written only under a key that has none. -/
def insertIfAbsent (t : Table κ ν) (k : κ) (v : ν) : Table κ ν :=
  if t.contains k then t else t.insert k v

/-- Only the entries that pass the test. -/
def filter (t : Table κ ν) (p : κ × ν → Bool) : Table κ ν :=
  ⟨t.entries.filter p, t.ordered.filter p⟩

/-- The table without a key. -/
def erase (t : Table κ ν) (k : κ) : Table κ ν :=
  t.filter fun e => compare k e.1 != .eq

/-- Every entry of the list is written, a later one over an earlier one. -/
def insertMany (t : Table κ ν) (es : List (κ × ν)) : Table κ ν :=
  es.foldl (fun t e => t.insert e.1 e.2) t

/-- Both tables in one; where both have a value, the second one's stays. -/
def merge (t u : Table κ ν) : Table κ ν :=
  t.insertMany u.entries

/-- The table of a list of entries, of which a later one wins. -/
def ofList (es : List (κ × ν)) : Table κ ν :=
  empty.insertMany es

/-- A single entry. -/
def singleton (k : κ) (v : ν) : Table κ ν :=
  empty.insert k v

/-! ### Look-ups -/

theorem lookup_insertEntry (k k' : κ) (v : ν) (es : List (κ × ν)) :
    lookup k' (insertEntry k v es) = if compare k' k = .eq then some v else lookup k' es := by
  induction es with
  | nil => simp [insertEntry, lookup]
  | cons e es ih =>
    unfold insertEntry
    split
    · simp [lookup]
    · rename_i hk
      by_cases h : compare k' k = .eq
      · simp [lookup, h]
      · have : compare k' e.1 ≠ .eq := fun h' =>
          h (Std.TransCmp.eq_trans h' (Std.OrientedCmp.eq_symm hk))
        simp [lookup, h, this]
    · rename_i hk
      by_cases h : compare k' k = .eq
      · have : compare k' e.1 ≠ .eq := fun h' => by
          have := Std.TransCmp.eq_trans (Std.OrientedCmp.eq_symm h) h'
          simp [this] at hk
        simp [lookup, h, this, ih]
      · simp [lookup, h, ih]

theorem lookup_filter {k : κ} {p : κ × ν → Bool} {es : List (κ × ν)}
    (ho : es.Pairwise (fun a b => compare a.1 b.1 = .lt))
    (hp : ∀ e ∈ es, ∀ v, compare k e.1 = .eq → p (k, v) = p (e.1, v)) :
    lookup k (es.filter p) = (lookup k es).filter fun v => p (k, v) := by
  induction es with
  | nil => rfl
  | cons e es ih =>
    obtain ⟨he, hes⟩ := List.pairwise_cons.1 ho
    have ih := ih hes fun e' h' => hp e' (List.mem_cons_of_mem _ h')
    by_cases hk : compare k e.1 = .eq
    · have hpe : p (k, e.2) = p e := hp e List.mem_cons_self e.2 hk
      have hn : lookup k es = none :=
        lookup_of_lt fun e' h' => Std.TransCmp.lt_of_eq_of_lt hk (he e' h')
      by_cases h : p e = true
      · simp [h, lookup, hk, hpe, Option.filter]
      · simp [h, lookup, hk, hpe, ih, hn, Option.filter]
    · by_cases h : p e = true <;> simp [h, lookup, hk, ih]

variable [Std.LawfulEqOrd κ]

@[simp] theorem get?_insert (t : Table κ ν) (k k' : κ) (v : ν) [DecidableEq κ] :
    (t.insert k v).get? k' = if k' = k then some v else t.get? k' := by
  simp only [get?, insert, lookup_insertEntry, Std.LawfulEqOrd.compare_eq_iff_eq]

theorem get?_filter (t : Table κ ν) (p : κ × ν → Bool) (k : κ) :
    (t.filter p).get? k = (t.get? k).filter fun v => p (k, v) :=
  lookup_filter t.ordered fun e _ v h => by
    rw [Std.LawfulEqOrd.compare_eq_iff_eq.1 h]

@[simp] theorem get?_erase (t : Table κ ν) (k k' : κ) [DecidableEq κ] :
    (t.erase k).get? k' = if k' = k then none else t.get? k' := by
  rw [erase, get?_filter]
  by_cases h : k' = k
  · subst h
    cases t.get? k' <;> simp [Option.filter]
  · have : compare k k' ≠ .eq := fun h' => h (Std.LawfulEqOrd.compare_eq_iff_eq.1 h').symm
    cases t.get? k' <;> simp [Option.filter, h, this]

@[simp] theorem get?_insertIfAbsent (t : Table κ ν) (k k' : κ) (v : ν) [DecidableEq κ] :
    (t.insertIfAbsent k v).get? k' = if k' = k then some ((t.get? k).getD v) else t.get? k' := by
  unfold insertIfAbsent contains
  cases h : t.get? k with
  | none => by_cases hk : k' = k <;> simp [hk]
  | some w => by_cases hk : k' = k <;> simp [hk, h]

/-- After many writes a key holds the last value written to it. -/
theorem get?_insertMany (t : Table κ ν) (es : List (κ × ν)) (k : κ) [DecidableEq κ] :
    (t.insertMany es).get? k =
      ((es.reverse.find? fun e => decide (e.1 = k)).map (·.2)).or (t.get? k) := by
  induction es generalizing t with
  | nil => rfl
  | cons e es ih =>
    have := ih (t.insert e.1 e.2)
    simp only [insertMany, List.foldl_cons] at this ⊢
    rw [this, get?_insert, List.reverse_cons, List.find?_append]
    by_cases h : k = e.1
    · subst h
      cases List.find? (fun e' => decide (e'.1 = e.1)) es.reverse <;> simp
    · have h' : ¬ e.1 = k := fun h' => h h'.symm
      cases List.find? (fun e' => decide (e'.1 = k)) es.reverse <;> simp [h, h']

/-- The merged table answers from the second table, else from the first. -/
@[simp] theorem get?_merge (t u : Table κ ν) (k : κ) [DecidableEq κ] :
    (t.merge u).get? k = (u.get? k).or (t.get? k) := by
  rw [merge, get?_insertMany, find?_reverse_eq_lookup k u.ordered]
  rfl

/-! ### Extensionality -/

theorem entries_eq_of_lookup {es fs : List (κ × ν)}
    (he : es.Pairwise (fun a b => compare a.1 b.1 = .lt))
    (hf : fs.Pairwise (fun a b => compare a.1 b.1 = .lt))
    (h : ∀ k, lookup k es = lookup k fs) : es = fs := by
  induction es generalizing fs with
  | nil =>
    cases fs with
    | nil => rfl
    | cons f fs => simpa [lookup] using h f.1
  | cons e es ih =>
    cases fs with
    | nil => simpa [lookup] using h e.1
    | cons f fs =>
      obtain ⟨hel, hes⟩ := List.pairwise_cons.1 he
      obtain ⟨hfl, hfs⟩ := List.pairwise_cons.1 hf
      have hcmp : compare e.1 f.1 = .eq := by
        cases hc : compare e.1 f.1 with
        | eq => rfl
        | lt =>
          have h0 : lookup e.1 (f :: fs) = none := lookup_of_lt fun g hg => by
            rcases List.mem_cons.1 hg with rfl | hg
            · exact hc
            · exact Std.TransCmp.lt_trans hc (hfl g hg)
          have h1 := h e.1
          rw [h0] at h1
          simp [lookup] at h1
        | gt =>
          have hc' := Std.OrientedCmp.lt_of_gt hc
          have h0 : lookup f.1 (e :: es) = none := lookup_of_lt fun g hg => by
            rcases List.mem_cons.1 hg with rfl | hg
            · exact hc'
            · exact Std.TransCmp.lt_trans hc' (hel g hg)
          have h1 := h f.1
          rw [h0] at h1
          simp [lookup] at h1
      have hk : e.1 = f.1 := Std.LawfulEqOrd.compare_eq_iff_eq.1 hcmp
      have hv : e.2 = f.2 := by simpa [lookup, hk] using h e.1
      have hes' : es = fs := ih hes hfs fun k => by
        by_cases hke : compare k e.1 = .eq
        · rw [lookup_of_lt fun g hg => Std.TransCmp.lt_of_eq_of_lt hke (hel g hg),
            lookup_of_lt fun g hg => Std.TransCmp.lt_of_eq_of_lt (hk ▸ hke) (hfl g hg)]
        · have := h k
          simpa [lookup, hke, ← hk] using this
      rw [hes', show e = f from Prod.ext hk hv]

/-- Tables with the same look-ups are equal. -/
theorem ext_get? {t u : Table κ ν} (h : ∀ k, t.get? k = u.get? k) : t = u := by
  cases t
  cases u
  congr 1
  exact entries_eq_of_lookup ‹_› ‹_› h

end Table

end Courier
