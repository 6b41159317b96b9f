/-!
# Texts cut at a character

A text is cut wherever a certain character stands, and so are a message into its lines and a key into its
segments. There is one piece more than there are cuts, pieces between two neighbouring cuts are empty, and
nothing is lost: the pieces joined again are the text.

* `Text.length_splitOn`: how many pieces there are;
* `Text.not_mem_piece`: no piece could be cut further;
* `Text.intercalate_pieces`: the pieces, joined again, are the text.
-/

namespace Courier.Text

/-- A character in front either ends an empty piece or belongs to the first one. -/
theorem exists_splitOn_cons {α : Type} [DecidableEq α] (x c : α) (cs : List α) :
    ∃ first others, cs.splitOn x = first :: others ∧
      (c :: cs).splitOn x = if c = x then [] :: first :: others else (c :: first) :: others := by
  obtain ⟨first, others, hsplit⟩ := List.exists_cons_of_ne_nil (List.splitOn_ne_nil x cs)
  refine ⟨first, others, hsplit, ?_⟩
  rw [List.splitOn_cons_eq_if_modifyHead, hsplit, List.modifyHead_cons]
  simp only [beq_iff_eq]

theorem not_mem_of_mem_splitOn {α : Type} [DecidableEq α] {x : α} {cs piece : List α}
    (h : piece ∈ cs.splitOn x) : x ∉ piece := by
  induction cs generalizing piece with
  | nil =>
    obtain rfl : piece = [] := by simpa using h
    exact List.not_mem_nil
  | cons c cs ih =>
    obtain ⟨first, others, hsplit, hcons⟩ := exists_splitOn_cons x c cs
    rw [hsplit] at ih
    rw [hcons] at h
    split at h
    · rcases List.mem_cons.1 h with rfl | hmem
      · exact List.not_mem_nil
      · exact ih hmem
    · rename_i hne
      rcases List.mem_cons.1 h with rfl | hmem
      · rw [List.mem_cons, not_or]
        exact ⟨fun heq => hne heq.symm, ih List.mem_cons_self⟩
      · exact ih (List.mem_cons_of_mem first hmem)

theorem length_splitOn {α : Type} [DecidableEq α] (x : α) (cs : List α) :
    (cs.splitOn x).length = cs.count x + 1 := by
  induction cs with
  | nil => simp
  | cons c cs ih =>
    obtain ⟨first, others, hsplit, hcons⟩ := exists_splitOn_cons x c cs
    rw [hsplit, List.length_cons] at ih
    rw [hcons, List.count_cons]
    by_cases h : c = x
    · rw [if_pos h, List.length_cons, List.length_cons, ih, if_pos (beq_iff_eq.2 h)]
    · rw [if_neg h, List.length_cons, ih, if_neg (fun heq => h (beq_iff_eq.1 heq)), Nat.add_zero]

theorem exists_mem_splitOn {α : Type} [DecidableEq α] {x c : α} {cs : List α} (hmem : c ∈ cs)
    (hne : c ≠ x) : ∃ piece ∈ cs.splitOn x, c ∈ piece := by
  induction cs with
  | nil => cases hmem
  | cons d cs ih =>
    obtain ⟨first, others, hsplit, hcons⟩ := exists_splitOn_cons x d cs
    rw [hsplit] at ih
    rw [hcons]
    rcases List.mem_cons.1 hmem with rfl | hmem
    · rw [if_neg hne]
      exact ⟨c :: first, List.mem_cons_self, List.mem_cons_self⟩
    · obtain ⟨piece, hpiece, hc⟩ := ih hmem
      split
      · exact ⟨piece, List.mem_cons_of_mem [] hpiece, hc⟩
      · rcases List.mem_cons.1 hpiece with rfl | hpiece
        · exact ⟨d :: piece, List.mem_cons_self, List.mem_cons_of_mem d hc⟩
        · exact ⟨piece, List.mem_cons_of_mem (d :: first) hpiece, hc⟩

/-- **The pieces of a text, joined again, are the text.** -/
theorem intercalate_pieces (x : Char) (s : String) :
    String.intercalate (String.singleton x) ((s.toList.splitOn x).map String.ofList) = s := by
  have hpieces : ((s.toList.splitOn x).map String.ofList).map String.toList = s.toList.splitOn x := by
    rw [List.map_map]
    exact (List.map_congr_left fun _ _ => String.toList_ofList).trans (List.map_id _)
  rw [← String.toList_inj, String.toList_intercalate, hpieces, String.toList_singleton]
  exact List.intercalate_splitOn x

/-- What a text was cut at is in none of its pieces. -/
theorem not_mem_piece {x : Char} {s piece : String}
    (h : piece ∈ (s.toList.splitOn x).map String.ofList) : x ∉ piece.toList := by
  obtain ⟨cs, hcs, rfl⟩ := List.mem_map.1 h
  rw [String.toList_ofList]
  exact not_mem_of_mem_splitOn hcs

end Courier.Text
