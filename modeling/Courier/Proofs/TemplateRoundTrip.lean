import Courier.Proofs.Scanning

/-!
# Templates read back

A template that is written from literals and the tokens of keys is read as just these, if its closing
delimiter cannot stand in a key and no literal has the opening one. Literals may have the closing
delimiter and key characters right beside a token, and the two delimiters may be equal.

* `Template.longestAt_token`: nothing longer than its key is read in a token, whatever comes behind it;
* `Template.scanned_written`: what is written is its own decomposition;
* `Delimiters.reading_of_template`: its keys are the ones written, substitution exchanges just their
  tokens, and where texts without delimiters take their places no delimiter is left.
-/

namespace Courier

theorem isKeyChar_of_mem {key : List Char} (h : isKeyText key = true) {c : Char} (hmem : c ∈ key) :
    isKeyChar c = true := by
  cases key with
  | nil => cases hmem
  | cons first key =>
    rw [isKeyText, Bool.and_eq_true, List.all_eq_true] at h
    rcases List.mem_cons.1 hmem with rfl | hmem
    · simp [isKeyChar, Char.isAlphanum, h.1]
    · exact h.2 c hmem

namespace Template

variable {d : Delimiters}

/-- A match starts with the opening delimiter, so there is none where that does not stand. -/
theorem noMatchIn_of_not_mem {gap : List Char} (h : d.opening ∉ gap) (behind : List Char) :
    NoMatchIn d gap behind := by
  intro skipped seen hgap hseen key rest hmatch
  cases seen with
  | nil => exact hseen rfl
  | cons c seen =>
    have hopening : c = d.opening := (List.cons.inj hmatch.2).1
    rw [hgap, hopening] at h
    exact h (List.mem_append_right _ List.mem_cons_self)

/-- A key ends at the closing delimiter if that is no key character. -/
theorem longestAt_token (hclosing : isKeyChar d.closing = false) (k : Key) (rest : List Char) :
    LongestAt d (d.tokenChars k.text.toList ++ rest) k.text.toList rest := by
  refine ⟨⟨k.valid, rfl⟩, fun key' rest' hmatch => ?_⟩
  obtain ⟨hkey', htext⟩ := hmatch
  have hbehind : k.text.toList ++ d.closing :: rest = key' ++ d.closing :: rest' := by
    simpa [Delimiters.tokenChars] using htext
  rcases List.append_eq_append_iff.1 hbehind with ⟨more, hmore, hclose⟩ | ⟨more, hmore, -⟩
  · cases more with
    | nil => simp [hmore]
    | cons c more =>
      -- A longer key would go on with the closing delimiter.
      have hc : d.closing = c := (List.cons.inj hclose).1
      have hmem : d.closing ∈ key' := by simp [hmore, hc]
      rw [isKeyChar_of_mem hkey' hmem] at hclosing
      cases hclosing
  · simp [hmore]

/-- **What is written is its own decomposition.** -/
theorem scanned_written (hclosing : isKeyChar d.closing = false) {pieces : List (List Char × Key)}
    {last : List Char} (hgaps : ∀ piece ∈ pieces, d.opening ∉ piece.1) (hlast : d.opening ∉ last) :
    Scanned d (written (fun k => d.tokenChars k.text.toList) pieces last) pieces last := by
  induction pieces with
  | nil => exact .gap (noMatchIn_of_not_mem hlast [])
  | cons piece pieces ih =>
    obtain ⟨hgap, hgaps⟩ := List.forall_mem_cons.1 hgaps
    rw [written_cons]
    exact .token (noMatchIn_of_not_mem hgap _) (longestAt_token hclosing piece.2 _) (ih hgaps)

/-- A text for each key, with a literal in front of each and one at the end. -/
def assembled (textOf : Key → String) (pieces : List (String × Key)) (last : String) : String :=
  String.join (pieces.map fun piece => piece.1 ++ textOf piece.2) ++ last

theorem toList_assembled (textOf : Key → String) (pieces : List (String × Key)) (last : String) :
    (assembled textOf pieces last).toList =
      written (fun k => (textOf k).toList) (pieces.map fun piece => (piece.1.toList, piece.2))
        last.toList := by
  rw [assembled, written, String.toList_append, String.toList_join, List.flatMap_map, List.flatMap_map]
  simp only [String.toList_append]

/-- A character of an assembled text stands in a literal or in the text of a key. -/
theorem mem_assembled {textOf : Key → String} {pieces : List (String × Key)} {last : String} {c : Char}
    (h : c ∈ (assembled textOf pieces last).toList) :
    c ∈ last.toList ∨ ∃ piece ∈ pieces, c ∈ piece.1.toList ∨ c ∈ (textOf piece.2).toList := by
  rw [toList_assembled, written, List.mem_append, List.mem_flatMap] at h
  rcases h with ⟨_, hpiece, hc⟩ | hlast
  · obtain ⟨piece, hmem, rfl⟩ := List.mem_map.1 hpiece
    exact .inr ⟨piece, hmem, List.mem_append.1 hc⟩
  · exact .inl hlast

end Template

namespace Delimiters

open Template

variable {d : Delimiters} {pieces : List (String × Key)} {last : String}

/-- The template of literals and keys: the token of each key behind its literal. -/
def template (d : Delimiters) (pieces : List (String × Key)) (last : String) : String :=
  assembled (fun k => d.token k.text) pieces last

/-- Neither delimiter stands in a text. -/
def NotIn (d : Delimiters) (text : String) : Prop :=
  d.opening ∉ text.toList ∧ d.closing ∉ text.toList

instance (d : Delimiters) (text : String) : Decidable (d.NotIn text) :=
  inferInstanceAs (Decidable (_ ∧ _))

theorem scanned_template (hclosing : isKeyChar d.closing = false)
    (hliterals : ∀ piece ∈ pieces, d.opening ∉ piece.1.toList) (hlast : d.opening ∉ last.toList) :
    Scanned d (d.template pieces last).toList (pieces.map fun piece => (piece.1.toList, piece.2))
      last.toList := by
  rw [template, toList_assembled]
  simp only [token, String.toList_ofList]
  refine scanned_written hclosing ?_ hlast
  intro piece hmem
  obtain ⟨piece, hpiece, rfl⟩ := List.mem_map.1 hmem
  exact hliterals piece hpiece

theorem substitute_template (hclosing : isKeyChar d.closing = false)
    (hliterals : ∀ piece ∈ pieces, d.opening ∉ piece.1.toList) (hlast : d.opening ∉ last.toList)
    (results : Fragment) :
    d.substitute (d.template pieces last) results =
      assembled (fun k => (results.get? k).getD (d.token k.text)) pieces last := by
  rw [substitute_of_scanned (scanned_template hclosing hliterals hlast), ← toList_assembled,
    String.ofList_toList]

theorem notIn_assembled {textOf : Key → String} (hlast : d.NotIn last)
    (hpieces : ∀ piece ∈ pieces, d.NotIn piece.1 ∧ d.NotIn (textOf piece.2)) :
    d.NotIn (assembled textOf pieces last) := by
  refine ⟨fun hmem => ?_, fun hmem => ?_⟩
  · rcases mem_assembled hmem with h | ⟨piece, hpiece, h | h⟩
    · exact hlast.1 h
    · exact (hpieces piece hpiece).1.1 h
    · exact (hpieces piece hpiece).2.1 h
  · rcases mem_assembled hmem with h | ⟨piece, hpiece, h | h⟩
    · exact hlast.2 h
    · exact (hpieces piece hpiece).1.2 h
    · exact (hpieces piece hpiece).2.2 h

/-- **A template reads back as it was written.** Its placeholders are the keys, one after the other and
then no more; substitution puts a text or the token of each key between the literals; and where every key
has a text and neither literals nor texts have a delimiter, none is left. -/
theorem reading_of_template (d : Delimiters) (pieces : List (String × Key)) (last : String)
    (hclosing : isKeyChar d.closing = false)
    (hliterals : ∀ piece ∈ pieces, d.opening ∉ piece.1.toList) (hlast : d.opening ∉ last.toList) :
    (d.extract (d.template pieces last)).toList = (pieces.map fun piece => piece.2.text) ∧
    (∀ n, ((((d.extract (d.template pieces last)).after n).next?).map Prod.fst =
      (pieces.map fun piece => piece.2.text)[n]?)) ∧
    (∀ results : Fragment, d.substitute (d.template pieces last) results =
      assembled (fun k => (results.get? k).getD (d.token k.text)) pieces last) ∧
    ∀ results : Fragment, d.NotIn last →
      (∀ piece ∈ pieces, d.NotIn piece.1 ∧
        ∃ text, results.get? piece.2 = some text ∧ d.NotIn text) →
      d.NotIn (d.substitute (d.template pieces last) results) := by
  have hscanned := scanned_template hclosing hliterals hlast
  refine ⟨?_, ?_, substitute_template hclosing hliterals hlast, ?_⟩
  · rw [extract, Placeholders.toList_of_scanned hscanned, List.map_map]
    rfl
  · intro n
    obtain ⟨rest, hafter, hrest⟩ := Placeholders.after_of_scanned hscanned n
    rw [extract, hafter, Placeholders.next?_of_scanned hrest, List.map_drop, List.head?_drop,
      List.map_map]
    rfl
  · intro results hlast' hpieces
    rw [substitute_template hclosing hliterals hlast]
    refine notIn_assembled hlast' fun piece hmem => ?_
    obtain ⟨hliteral, text, htext, hvalue⟩ := hpieces piece hmem
    refine ⟨hliteral, ?_⟩
    rw [htext]
    exact hvalue

/-- An opening delimiter that keys may have, and a closing one that a literal has. -/
def lettered : Delimiters := ⟨'A', '%'⟩

def letteredPieces : List (String × Key) :=
  [("x%", ⟨"AB", by decide⟩), ("", ⟨"C.A", by decide⟩)]

theorem lettered_template_reads_back :
    isKeyChar lettered.closing = false ∧
    (∀ piece ∈ letteredPieces, lettered.opening ∉ piece.1.toList) ∧ lettered.opening ∉ "%".toList ∧
    lettered.template letteredPieces "%" = "x%AAB%AC.A%%" ∧
    (lettered.extract "x%AAB%AC.A%%").toList = ["AB", "C.A"] ∧
    lettered.substitute "x%AAB%AC.A%%" (.singleton ⟨"AB", by decide⟩ "A%") = "x%A%AC.A%%" ∧
    lettered.NotIn (lettered.substitute "AAB%." (.singleton ⟨"AB", by decide⟩ "B")) := by
  have hclosing : isKeyChar lettered.closing = false := by decide
  have hliterals : ∀ piece ∈ letteredPieces, lettered.opening ∉ piece.1.toList := by decide +kernel
  have hlast : lettered.opening ∉ "%".toList := by decide +kernel
  have htemplate : lettered.template letteredPieces "%" = "x%AAB%AC.A%%" := by decide +kernel
  obtain ⟨hkeys, -, hsubstitute, -⟩ :=
    reading_of_template lettered letteredPieces "%" hclosing hliterals hlast
  rw [htemplate] at hkeys hsubstitute
  obtain ⟨-, -, -, hfree⟩ := reading_of_template lettered [("", ⟨"AB", by decide⟩)] "." hclosing
    (by decide +kernel) (by decide +kernel)
  refine ⟨hclosing, hliterals, hlast, htemplate, hkeys, (hsubstitute _).trans (by decide +kernel), ?_⟩
  have htext : lettered.template [("", ⟨"AB", by decide⟩)] "." = "AAB%." := by decide +kernel
  rw [← htext]
  refine hfree _ (by decide +kernel) fun piece hmem => ?_
  obtain rfl := List.mem_singleton.1 hmem
  exact ⟨by decide +kernel, "B", by decide +kernel, by decide +kernel⟩

end Delimiters

end Courier
