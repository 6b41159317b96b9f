import Courier.Key

/-!
# The hierarchy of keys

A key with a dot has exactly one parent, the text before the last dot, and stands one segment deeper.
Segments may be empty: `A.` and `A..X` have the parents `A` and `A.` like any other key.

* `parent?_eq_some_iff`: a parent is what a segment without dots was appended to;
* `depth_of_parent?`: a key stands one deeper than its parent;
* `parent?_of_child?`: a child under a segment without dots has the key as its parent.
-/

namespace Courier.Key

/-- Keys with the same text are equal. -/
theorem eq_of_text {k k' : Key} (h : k.text = k'.text) : k = k' := by
  have hk : ofString? k.text = some k' := ofString?_eq_some_iff.2 h.symm
  rw [ofString?_text] at hk
  exact Option.some.inj hk

/-- What comes behind the last dot has no dot, and only the last dot parts a text like that. -/
theorem beforeLastDot?_eq_some_iff {cs ds : List Char} :
    beforeLastDot? cs = some ds ↔ ∃ segment, '.' ∉ segment ∧ cs = ds ++ '.' :: segment := by
  constructor
  · intro h
    unfold beforeLastDot? at h
    split at h
    · simp at h
    · rename_i dot above hdrop
      have hds : above.reverse = ds := Option.some.inj h
      have hdot : dot = '.' := by
        have hhead : (cs.reverse.dropWhile (· ≠ '.')).head? = some dot := by rw [hdrop]; rfl
        have hstop := List.head?_dropWhile_not (· ≠ '.') cs.reverse
        rw [hhead] at hstop
        simpa using hstop
      refine ⟨(cs.reverse.takeWhile (· ≠ '.')).reverse, ?_, ?_⟩
      · intro hmem
        have hall := List.all_takeWhile (p := (· ≠ '.')) (l := cs.reverse)
        rw [List.all_eq_true] at hall
        simpa using hall '.' (List.mem_reverse.1 hmem)
      · calc cs = (cs.reverse.takeWhile (· ≠ '.') ++ cs.reverse.dropWhile (· ≠ '.')).reverse := by
              rw [List.takeWhile_append_dropWhile, List.reverse_reverse]
          _ = above.reverse ++ dot :: (cs.reverse.takeWhile (· ≠ '.')).reverse := by
              rw [hdrop, List.reverse_append, List.reverse_cons, List.append_assoc]
              rfl
          _ = ds ++ '.' :: (cs.reverse.takeWhile (· ≠ '.')).reverse := by rw [hds, hdot]
  · intro h
    obtain ⟨segment, hdot, rfl⟩ := h
    have hstop : (ds ++ '.' :: segment).reverse.dropWhile (· ≠ '.') = '.' :: ds.reverse := by
      rw [List.reverse_append, List.reverse_cons, List.append_assoc,
        List.dropWhile_append_of_pos]
      · simp
      · intro c hc
        simpa using fun h : c = '.' => hdot (h ▸ List.mem_reverse.1 hc)
    rw [beforeLastDot?, hstop]
    simp

/-- **A parent is what a segment without dots was appended to.** -/
theorem parent?_eq_some_iff {k p : Key} :
    k.parent? = some p ↔
      ∃ segment, '.' ∉ segment ∧ k.text.toList = p.text.toList ++ '.' :: segment := by
  rw [parent?, Option.bind_eq_some_iff]
  constructor
  · intro h
    obtain ⟨cs, hcs, hp⟩ := h
    have htext : p.text.toList = cs := by
      rw [ofString?_eq_some_iff.1 hp, String.toList_ofList]
    rw [htext]
    exact beforeLastDot?_eq_some_iff.1 hcs
  · intro h
    exact ⟨p.text.toList, beforeLastDot?_eq_some_iff.2 h,
      ofString?_eq_some_iff.2 (String.ofList_toList).symm⟩

theorem parent?_ne_self {k p : Key} (h : k.parent? = some p) : k ≠ p := by
  rintro rfl
  exact Nat.lt_irrefl _ (length_parent?_lt h)

/-- **A key stands one deeper than its parent,** whether its last segment is empty or not. -/
theorem depth_of_parent? {k p : Key} (h : k.parent? = some p) : k.depth = p.depth + 1 := by
  obtain ⟨segment, hdot, htext⟩ := parent?_eq_some_iff.1 h
  rw [depth, depth, htext, List.splitOn_append_cons_self, List.splitOn_eq_singleton hdot, List.length_append]
  rfl

theorem toList_below (k : Key) (segment : String) :
    (k.text ++ "." ++ segment).toList = k.text.toList ++ '.' :: segment.toList := by
  rw [String.toList_append, String.toList_append, List.append_assoc]
  rfl

theorem text_of_child? {k c : Key} {segment : String} (h : k.child? segment = some c) :
    c.text = k.text ++ "." ++ segment := by
  unfold child? at h
  split at h
  · cases h
  · exact ofString?_eq_some_iff.1 h

theorem toList_text_of_child? {k c : Key} {segment : String} (h : k.child? segment = some c) :
    c.text.toList = k.text.toList ++ '.' :: segment.toList := by
  rw [text_of_child? h, toList_below]

/-- A child under a segment without dots has the key as its parent. -/
theorem parent?_of_child? {k c : Key} {segment : String} (h : k.child? segment = some c)
    (hdot : '.' ∉ segment.toList) : c.parent? = some k :=
  parent?_eq_some_iff.2 ⟨segment.toList, hdot, toList_text_of_child? h⟩

theorem lineage_of_parent?_none {k : Key} (h : k.parent? = none) : k.lineage = [k] := by
  rw [lineage, ancestors]
  split
  · rfl
  · simp_all

theorem lineage_of_parent? {k p : Key} (h : k.parent? = some p) : k.lineage = k :: p.lineage := by
  rw [lineage, lineage, ancestors]
  split
  · simp_all
  · simp_all

end Courier.Key
