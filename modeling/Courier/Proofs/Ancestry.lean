import Courier.Proofs.KeyGrammar
import Courier.Proofs.KeyHierarchy
import Courier.Proofs.Pieces
import Mathlib.Data.List.TakeWhile

/-!
# What stands above a key and below it

The parent of a key is read off its text, and the text that is found there is tested once more. This test
is never failed: what stands before a dot of a key is a key itself, also if a segment is empty. So the way
up from a key comes by each of its dots, from the last one to the first, and ends only where no dot is left.

* `Key.isKeyText_append_dot_iff`: a text with a dot is a key if a key stands before the dot, and key
  characters, or nothing, behind it;
* `Key.parent?_eq_none_iff`: only a key without dots has no parent;
* `Key.mem_ancestors_iff`: the ancestors are the prefixes that end just before a dot;
* `Key.iterate_parent?`: going up step by step leads to one ancestor after the other, and then ends;
* `Key.isSome_child?_iff`: which segments a key has a child under;
* `Key.ancestors_before_dots`: all of this.
-/

namespace Courier.Key

/-! ### Before a dot and behind it -/

/-- A dot parts a key into a key and any key characters. -/
theorem isKeyText_append_dot_iff {before behind : List Char} :
    isKeyText (before ++ '.' :: behind) = true ↔
      isKeyText before = true ∧ ∀ c ∈ behind, isKeyChar c = true := by
  cases before with
  | nil =>
    -- A dot is no letter, so that no key begins with it.
    exact iff_of_false Bool.false_ne_true fun h => Bool.false_ne_true h.1
  | cons c cs =>
    have hdot : isKeyChar '.' = true := rfl
    simp only [List.cons_append, isKeyText, List.all_append, List.all_cons, hdot, Bool.true_and,
      Bool.and_eq_true, List.all_eq_true, and_assoc]

/-- What stands before a dot of a key is a key. -/
theorem exists_key_before_dot {k : Key} {before : List Char} (h : before ++ ['.'] <+: k.text.toList) :
    ∃ a : Key, a.text.toList = before := by
  obtain ⟨behind, htext⟩ := h
  rw [List.append_assoc] at htext
  have hkey : isKeyText before = true := (isKeyText_append_dot_iff.1 (htext ▸ k.valid)).1
  exact ⟨⟨String.ofList before, by rwa [String.toList_ofList]⟩, String.toList_ofList⟩

/-! ### The parent -/

theorem beforeLastDot?_eq_none_iff {cs : List Char} : beforeLastDot? cs = none ↔ '.' ∉ cs := by
  have hdrop : cs.reverse.dropWhile (· ≠ '.') = [] ↔ '.' ∉ cs := by
    rw [List.dropWhile_eq_nil_iff]
    simp only [List.mem_reverse, decide_eq_true_eq]
    exact ⟨fun h hmem => h '.' hmem rfl, fun h c hmem heq => h (heq ▸ hmem)⟩
  rw [← hdrop, beforeLastDot?]
  split
  · simp_all
  · simp_all

/-- **Only a key without dots has no parent.** -/
theorem parent?_eq_none_iff {k : Key} : k.parent? = none ↔ '.' ∉ k.text.toList := by
  rw [← beforeLastDot?_eq_none_iff]
  cases hbefore : beforeLastDot? k.text.toList with
  | none => simp [parent?, hbefore]
  | some before =>
    -- The text before the last dot passes the test of keys.
    obtain ⟨behind, hdot, htext⟩ := beforeLastDot?_eq_some_iff.1 hbefore
    obtain ⟨p, hp⟩ : ∃ p : Key, p.text.toList = before :=
      exists_key_before_dot ⟨behind, by rw [htext, List.append_assoc]; rfl⟩
    have hparent : k.parent? = some p := parent?_eq_some_iff.2 ⟨behind, hdot, by rw [hp, htext]⟩
    simp [hparent]

/-- The dots of a key are its last one, which its parent ends at, and those of its parent. -/
theorem before_dot_iff_of_parent? {k p : Key} (h : k.parent? = some p) {before : List Char} :
    before ++ ['.'] <+: k.text.toList ↔
      before = p.text.toList ∨ before ++ ['.'] <+: p.text.toList := by
  obtain ⟨segment, hdot, htext⟩ := parent?_eq_some_iff.1 h
  rw [htext]
  constructor
  · rintro ⟨behind, heq⟩
    rw [List.append_assoc, List.singleton_append, List.append_eq_append_iff] at heq
    rcases heq with ⟨others, hp, hdots⟩ | ⟨others, hbefore, hdots⟩
    · cases others with
      | nil => exact .inl (by simpa using hp.symm)
      | cons c others =>
        obtain ⟨rfl, -⟩ := List.cons.inj hdots
        exact .inr ⟨others, by rw [hp, List.append_assoc]; rfl⟩
    · cases others with
      | nil => exact .inl (by simpa using hbefore)
      | cons c others =>
        -- This dot would stand in the last segment.
        obtain ⟨rfl, hsegment⟩ := List.cons.inj hdots
        exact absurd (hsegment ▸ List.mem_append_right others List.mem_cons_self) hdot
  · rintro (rfl | hbefore)
    · exact ⟨segment, by rw [List.append_assoc]; rfl⟩
    · exact hbefore.trans (List.prefix_append _ _)

/-! ### The ancestors -/

theorem ancestors_of_parent?_none {k : Key} (h : k.parent? = none) : k.ancestors = [] :=
  (List.cons.inj (lineage_of_parent?_none h)).2

theorem ancestors_of_parent? {k p : Key} (h : k.parent? = some p) : k.ancestors = p :: p.ancestors :=
  (List.cons.inj (lineage_of_parent? h)).2

/-- **The ancestors of a key are its prefixes that end just before a dot.** -/
theorem mem_ancestors_iff {k a : Key} : a ∈ k.ancestors ↔ a.text.toList ++ ['.'] <+: k.text.toList := by
  induction k using ancestors.induct with
  | case1 k hparent =>
    rw [ancestors_of_parent?_none hparent]
    refine iff_of_false List.not_mem_nil fun hbefore => ?_
    exact parent?_eq_none_iff.1 hparent (hbefore.subset (List.mem_append_right _ List.mem_cons_self))
  | case2 k p hparent ih =>
    rw [ancestors_of_parent? hparent, List.mem_cons, ih, before_dot_iff_of_parent? hparent,
      String.toList_inj]
    exact or_congr_left ⟨congrArg text, eq_of_text⟩

/-- Ancestors get shorter from one to the next. -/
theorem pairwise_length_ancestors (k : Key) :
    k.ancestors.Pairwise fun a b => b.text.toList.length < a.text.toList.length := by
  induction k using ancestors.induct with
  | case1 k hparent =>
    rw [ancestors_of_parent?_none hparent]
    exact .nil
  | case2 k p hparent ih =>
    rw [ancestors_of_parent? hparent]
    refine List.pairwise_cons.2 ⟨fun a ha => ?_, ih⟩
    have hlength := (mem_ancestors_iff.1 ha).length_le
    rw [List.length_append, List.length_singleton] at hlength
    exact hlength

/-- **Going up step by step leads to one ancestor after the other,** and to nothing behind the last one. -/
theorem iterate_parent? (k : Key) (n : ℕ) :
    (fun above? : Option Key => above?.bind parent?)^[n] k.parent? = k.ancestors[n]? := by
  induction k using ancestors.induct generalizing n with
  | case1 k hparent =>
    rw [ancestors_of_parent?_none hparent, hparent, List.getElem?_nil]
    exact Function.iterate_fixed rfl n
  | case2 k p hparent ih =>
    rw [ancestors_of_parent? hparent, hparent]
    cases n with
    | zero => rfl
    | succ n => exact (Function.iterate_succ_apply _ n _).trans (ih n)

/-- There is one segment more than there are ancestors. -/
theorem length_segments (k : Key) : k.segments.length = k.ancestors.length + 1 := by
  show ((k.text.toList.splitOn '.').map String.ofList).length = _
  rw [List.length_map]
  show k.depth = _
  induction k using ancestors.induct with
  | case1 k hparent =>
    rw [ancestors_of_parent?_none hparent, depth,
      List.splitOn_eq_singleton (parent?_eq_none_iff.1 hparent)]
    rfl
  | case2 k p hparent ih => rw [ancestors_of_parent? hparent, depth_of_parent? hparent, ih, List.length_cons]

/-! ### The children -/

/-- A key has a child under every segment of key characters that is not empty. -/
theorem isSome_child?_iff {k : Key} {segment : String} :
    (k.child? segment).isSome = true ↔ segment ≠ "" ∧ ∀ c ∈ segment.toList, isKeyChar c = true := by
  rw [child?]
  by_cases hempty : segment = ""
  · subst hempty
    simp
  · rw [if_neg (by simpa using hempty), isSome_ofString?_iff, toList_below, isKeyText_append_dot_iff]
    simp [hempty, k.valid]

/-- A key is the parent of its child exactly if the segment has no dots. -/
theorem parent?_child?_iff {k c : Key} {segment : String} (h : k.child? segment = some c) :
    c.parent? = some k ↔ '.' ∉ segment.toList := by
  refine ⟨fun hparent => ?_, parent?_of_child? h⟩
  obtain ⟨behind, hdot, htext⟩ := parent?_eq_some_iff.1 hparent
  rw [toList_text_of_child? h, List.append_cancel_left_eq] at htext
  rwa [(List.cons.inj htext).2]

/-- However many dots the segment has, a key is above its child. -/
theorem mem_ancestors_child? {k c : Key} {segment : String} (h : k.child? segment = some c) :
    k ∈ c.ancestors := by
  rw [mem_ancestors_iff, toList_text_of_child? h]
  exact ⟨segment.toList, by rw [List.append_assoc]; rfl⟩

/-- **Above a key stands a key for each of its dots, and nothing else.** The segments of a key have no dots,
and joined by dots they are the key. Its ancestors are the texts before its dots, every one of which is a
key, the longest first; they are met one after the other when one goes up from parent to parent, and the
way ends behind them. So there is one segment more than there are ancestors, and only a key without dots has
no parent. A child stands under any text that is not empty and has characters of keys only. The key is above
it, and next above it exactly if that text has no dots. -/
theorem ancestors_before_dots (k : Key) :
    String.intercalate "." k.segments = k.text ∧ (∀ segment ∈ k.segments, '.' ∉ segment.toList) ∧
    (∀ before, before ++ ['.'] <+: k.text.toList ↔ ∃ a ∈ k.ancestors, a.text.toList = before) ∧
    k.ancestors.Pairwise (fun a b => b.text.toList.length < a.text.toList.length) ∧
    (∀ n, (fun above? : Option Key => above?.bind parent?)^[n] k.parent? = k.ancestors[n]?) ∧
    k.segments.length = k.ancestors.length + 1 ∧
    (k.parent? = none ↔ '.' ∉ k.text.toList) ∧
    ∀ segment,
      ((k.child? segment).isSome = true ↔
        segment ≠ "" ∧ ∀ c ∈ segment.toList, c ∈ letters ∪ Set.Icc '0' '9' ∪ {'_', '.'}) ∧
      ∀ child, k.child? segment = some child →
        child.text = k.text ++ "." ++ segment ∧ k ∈ child.ancestors ∧
        (child.parent? = some k ↔ '.' ∉ segment.toList) := by
  refine ⟨Text.intercalate_pieces '.' k.text, fun segment => Text.not_mem_piece, fun before => ?_,
    pairwise_length_ancestors k, iterate_parent? k, length_segments k, parent?_eq_none_iff,
    fun segment => ⟨?_, fun child hchild => ?_⟩⟩
  · constructor
    · intro hbefore
      obtain ⟨a, rfl⟩ := exists_key_before_dot hbefore
      exact ⟨a, mem_ancestors_iff.2 hbefore, rfl⟩
    · rintro ⟨a, ha, rfl⟩
      exact mem_ancestors_iff.1 ha
  · simp only [isSome_child?_iff, mem_keyChars_iff]
  · exact ⟨text_of_child? hchild, mem_ancestors_child? hchild, parent?_child?_iff hchild⟩

/-- A key with empty segments, one of them in front of its last dot and one at its end. -/
def gapped : Key := ⟨"A..B.", rfl⟩

/-- A child of it, whose segment has a dot. -/
def belowGapped : Key := ⟨"A..B...C", rfl⟩

/-- The four segments of the key make three ancestors. The key is above both of its children, but only next
above the one whose segment has no dot. -/
theorem gapped_above_children :
    (gapped.child? ".C" = some belowGapped ∧ gapped ∈ belowGapped.ancestors ∧
      belowGapped.parent? ≠ some gapped) ∧
    (gapped.child? "C_1" = some ⟨"A..B..C_1", rfl⟩ ∧
      Key.parent? ⟨"A..B..C_1", rfl⟩ = some gapped) ∧
    gapped.segments = ["A", "", "B", ""] ∧ gapped.ancestors.length = 3 := by
  have hchild : gapped.child? ".C" = some belowGapped := rfl
  have hplain : gapped.child? "C_1" = some ⟨"A..B..C_1", rfl⟩ := rfl
  have hsegments : gapped.segments = ["A", "", "B", ""] := rfl
  obtain ⟨-, -, -, -, -, hlength, -, hchildren⟩ := ancestors_before_dots gapped
  obtain ⟨-, habove, hnext⟩ := (hchildren ".C").2 belowGapped hchild
  obtain ⟨-, -, hnextPlain⟩ := (hchildren "C_1").2 _ hplain
  refine ⟨⟨hchild, habove, fun hparent => ?_⟩, ⟨hplain, hnextPlain.2 (by decide)⟩, hsegments, ?_⟩
  · exact hnext.1 hparent (by decide)
  · rw [hsegments] at hlength
    exact (Nat.succ.inj hlength).symm

end Courier.Key
