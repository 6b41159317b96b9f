import Courier.Context
import Courier.Proofs.Scanning
import Mathlib.Computability.Language
import Mathlib.Data.Char
import Mathlib.Order.Interval.Set.Defs

/-!
# One grammar of keys

Keys are read in three places: a text is made a key, it is parsed with a reason if it is none, and it is
found between the delimiters of a template. All three go by one grammar, a letter and then any number of
letters, digits, underscores and dots, whatever the delimiters are, also if they are such characters
themselves.

* `Key.grammar`: the grammar, as a language;
* `isKeyText_iff_mem_grammar`: what is tested is the grammar;
* `Placeholders.toList_eq_cons_iff`: what an iterator has still to come, one key after the other;
* `Delimiters.toList_extract_token_iff`: a token is read as the text in it exactly if that is a key;
* `Key.parse_eq_blank_iff`, `Key.parse_eq_invalid_iff`: why a text is no key;
* `Context.binding_run`: what a binding leaves, also if it fails;
* `Key.grammar_everywhere`: all of this.
-/

namespace Courier

open scoped Computability

/-! ### The grammar -/

namespace Key

/-- One character out of a class. -/
def oneOf (chars : Set Char) : Language Char :=
  {word | ∃ c ∈ chars, word = [c]}

/-- The letters of ASCII. -/
def letters : Set Char := Set.Icc 'A' 'Z' ∪ Set.Icc 'a' 'z'

/-- A letter, then any number of letters, digits, underscores and dots. -/
def grammar : Language Char :=
  oneOf letters * (oneOf (letters ∪ Set.Icc '0' '9' ∪ {'_', '.'}))∗

theorem mem_letters_iff {c : Char} : c ∈ letters ↔ c.isAlpha = true := by
  have hupper : c ∈ Set.Icc 'A' 'Z' ↔ c.isUpper = true := decide_eq_true_iff.symm
  have hlower : c ∈ Set.Icc 'a' 'z' ↔ c.isLower = true := by
    show 'a' ≤ c ∧ c ≤ 'z' ↔ (decide ('a' ≤ c) && decide (c ≤ 'z')) = true
    rw [Bool.and_eq_true, decide_eq_true_iff, decide_eq_true_iff]
  show _ ↔ (c.isUpper || c.isLower) = true
  rw [Bool.or_eq_true, ← hupper, ← hlower]
  rfl

theorem mem_keyChars_iff {c : Char} :
    c ∈ letters ∪ Set.Icc '0' '9' ∪ {'_', '.'} ↔ isKeyChar c = true := by
  have hdigit : c ∈ Set.Icc '0' '9' ↔ c.isDigit = true := by
    simp [Char.isDigit, Char.le_def]
  simp only [Set.mem_union, mem_letters_iff, hdigit, Set.mem_insert_iff, Set.mem_singleton_iff,
    isKeyChar, Char.isAlphanum, Bool.or_eq_true, beq_iff_eq, or_assoc]

/-- Words of single characters, put together, are all texts of such characters. -/
theorem mem_kstar_oneOf_iff {chars : Set Char} {cs : List Char} :
    cs ∈ (oneOf chars)∗ ↔ ∀ c ∈ cs, c ∈ chars := by
  rw [Language.mem_kstar]
  constructor
  · rintro ⟨words, rfl, hwords⟩ c hmem
    obtain ⟨word, hword, hmem⟩ := List.mem_flatten.1 hmem
    obtain ⟨d, hd, rfl⟩ := hwords word hword
    obtain rfl := List.mem_singleton.1 hmem
    exact hd
  · intro hall
    refine ⟨cs.map fun c => [c], ?_, ?_⟩
    · rw [← List.flatMap_def, List.flatMap_singleton']
    · intro word hword
      obtain ⟨c, hmem, rfl⟩ := List.mem_map.1 hword
      exact ⟨c, hall c hmem, rfl⟩

/-- **What is tested of a text is the grammar.** -/
theorem isKeyText_iff_mem_grammar {cs : List Char} : isKeyText cs = true ↔ cs ∈ grammar := by
  rw [grammar, Language.mem_mul]
  cases cs with
  | nil =>
    refine iff_of_false Bool.false_ne_true ?_
    rintro ⟨first, ⟨c, -, rfl⟩, others, -, happend⟩
    cases happend
  | cons c cs =>
    rw [isKeyText, Bool.and_eq_true, List.all_eq_true, ← mem_letters_iff]
    simp only [← mem_keyChars_iff]
    constructor
    · rintro ⟨hfirst, hothers⟩
      exact ⟨[c], ⟨c, hfirst, rfl⟩, cs, mem_kstar_oneOf_iff.2 hothers, rfl⟩
    · rintro ⟨first, ⟨d, hfirst, rfl⟩, others, hothers, happend⟩
      obtain ⟨rfl, rfl⟩ := List.cons.inj happend
      exact ⟨hfirst, mem_kstar_oneOf_iff.1 hothers⟩

theorem isSome_ofString?_iff {s : String} :
    (ofString? s).isSome = true ↔ isKeyText s.toList = true := by
  rw [← not_iff_not, Bool.not_eq_true, Bool.not_eq_true, ← ofString?_eq_none_iff,
    Option.isSome_eq_false_iff, Option.isNone_iff_eq_none]

/-! ### Why a text is no key -/

theorem isSpace_of_mem_letters {c : Char} (h : c ∈ letters) : Text.isSpace c = false := by
  have hrange : 65 ≤ c.toNat ∧ c.toNat ≤ 90 ∨ 97 ≤ c.toNat ∧ c.toNat ≤ 122 := by
    simpa [letters, Char.le_def, UInt32.le_iff_toNat_le] using h
  simp [Text.isSpace]
  omega

/-- A key starts with a letter, so no blank text is one. -/
theorem ofString?_of_isBlank {s : String} (h : Text.isBlank s = true) : ofString? s = none := by
  rw [ofString?_eq_none_iff]
  rw [Text.isBlank, List.all_eq_true] at h
  cases hs : s.toList with
  | nil => rfl
  | cons c cs =>
    rw [hs] at h
    rw [isKeyText, Bool.and_eq_false_iff]
    refine .inl (Bool.eq_false_iff.2 fun halpha => ?_)
    have hspace := h c List.mem_cons_self
    rw [isSpace_of_mem_letters (mem_letters_iff.2 halpha)] at hspace
    cases hspace

theorem parse_eq_ok_iff {s : String} {k : Key} : parse s = .ok k ↔ ofString? s = some k := by
  rw [parse]
  cases ofString? s <;> simp

theorem parse_of_ofString?_eq_none {s : String} (h : ofString? s = none) :
    parse s = .error (if Text.isBlank s then .blankKey else .invalid s) := by
  rw [parse, h]

theorem parse_eq_blank_iff {s : String} : parse s = .error .blankKey ↔ Text.isBlank s = true := by
  constructor
  · intro h
    cases hkey : ofString? s with
    | some k =>
      rw [parse_eq_ok_iff.2 hkey] at h
      cases h
    | none =>
      rw [parse_of_ofString?_eq_none hkey] at h
      split at h
      · assumption
      · cases h
  · intro h
    rw [parse_of_ofString?_eq_none (ofString?_of_isBlank h), if_pos h]

theorem parse_eq_invalid_iff {s t : String} :
    parse s = .error (.invalid t) ↔ t = s ∧ ofString? s = none ∧ Text.isBlank s = false := by
  constructor
  · intro h
    cases hkey : ofString? s with
    | some k =>
      rw [parse_eq_ok_iff.2 hkey] at h
      cases h
    | none =>
      rw [parse_of_ofString?_eq_none hkey] at h
      split at h
      · cases h
      · rename_i hblank
        cases h
        exact ⟨rfl, rfl, Bool.eq_false_iff.2 hblank⟩
  · rintro ⟨rfl, hkey, hblank⟩
    rw [parse_of_ofString?_eq_none hkey, hblank, if_neg Bool.false_ne_true]

end Key

/-! ### Keys in tokens -/

namespace Placeholders

open Template

/-- Nothing is still to come when the next request has no answer. -/
theorem toList_eq_nil_iff {p : Placeholders} : p.toList = [] ↔ p.next? = none := by
  rw [toList, next?, List.map_eq_nil_iff, Option.map_eq_none_iff]
  cases hnext : nextMatch? p.delimiters p.unread with
  | none => exact iff_of_true (keyChars_of_nextMatch?_none hnext) rfl
  | some found =>
    rw [keyChars_of_nextMatch? hnext]
    exact iff_of_false (List.cons_ne_nil _ _) (Option.some_ne_none _)

/-- The first that is to come is the answer to the next request, and the others come after it. -/
theorem toList_eq_cons_iff {p : Placeholders} {name : String} {names : List String} :
    p.toList = name :: names ↔ ∃ rest, p.next? = some (name, rest) ∧ rest.toList = names := by
  rw [toList, next?]
  cases hnext : nextMatch? p.delimiters p.unread with
  | none =>
    rw [keyChars_of_nextMatch?_none hnext]
    simp
  | some found =>
    rw [keyChars_of_nextMatch? hnext, List.map_cons, List.cons.injEq]
    simp [toList, and_assoc]

end Placeholders

namespace Delimiters

open Template

/-- What is read in any text is a key. -/
theorem exists_key_of_mem_extract {d : Delimiters} {text name : String}
    (h : name ∈ (d.extract text).toList) : ∃ k, Key.ofString? name = some k := by
  obtain ⟨pieces, last, hscanned⟩ := exists_scanned d text.toList
  rw [extract, Placeholders.toList_of_scanned hscanned] at h
  obtain ⟨piece, -, rfl⟩ := List.mem_map.1 h
  exact ⟨piece.2, Key.ofString?_text piece.2⟩

/-- **A token is read as the text in it exactly if that is a key,** between any two delimiters. -/
theorem toList_extract_token_iff {d : Delimiters} {s : String} :
    (d.extract (d.token s)).toList = [s] ↔ (Key.ofString? s).isSome = true := by
  rw [Option.isSome_iff_exists]
  constructor
  · intro h
    exact exists_key_of_mem_extract (h ▸ List.mem_singleton.2 rfl)
  · rintro ⟨k, hk⟩
    obtain rfl := Key.ofString?_eq_some_iff.1 hk
    exact Placeholders.toList_of_scanned (scanned_token d k)

end Delimiters

/-! ### Bindings by text -/

namespace Context

/-- A binding under a text as it acts on a context: the text is parsed, and then its key is bound. A
failure leaves the context as it is at that moment. -/
def binding (name : String) (v : Value) : ExceptT KeyError (StateM Context) Unit := do
  let k ← MonadExcept.ofExcept (Key.parse name)
  modify fun c => c.put k v

/-- Nothing has been bound when a binding fails. -/
theorem binding_run (c : Context) (name : String) (v : Value) :
    (binding name v).run.run c =
      match c.bind name v with
      | .ok bound => (.ok (), bound)
      | .error e => (.error e, c) := by
  unfold binding bind
  cases Key.parse name with
  | ok k => rfl
  | error e => rfl

end Context

/-- **There is one grammar of keys.** For any text and any two delimiters, the text becomes a key exactly if
it is a letter and then letters, digits, underscores and dots, and exactly if its token is read as this
text and nothing else, by an iterator or at once. The key shows as the text. Parsing gives the same keys;
it calls a text blank exactly if there is nothing but white space in it, and any other text that is no key
invalid. A binding under the text fails for the same reason and leaves all as it was, or else binds this
key and no other. -/
theorem Key.grammar_everywhere (s : String) (d : Delimiters) :
    ((Key.ofString? s).isSome = true ↔ s.toList ∈ Key.grammar) ∧
    ((Key.ofString? s).isSome = true ↔ (d.extract (d.token s)).toList = [s]) ∧
    ((Key.ofString? s).isSome = true ↔
      ∃ rest, (d.extract (d.token s)).next? = some (s, rest) ∧ rest.next? = none) ∧
    (∀ k, Key.ofString? s = some k → toString k = s) ∧
    (∀ k, Key.parse s = .ok k ↔ Key.ofString? s = some k) ∧
    (Key.parse s = .error .blankKey ↔ ∀ c ∈ s.toList, Text.isSpace c = true) ∧
    (∀ t, Key.parse s = .error (.invalid t) ↔
      t = s ∧ Key.ofString? s = none ∧ ¬ ∀ c ∈ s.toList, Text.isSpace c = true) ∧
    ∀ (c : Context) (v : Value),
      (∀ e, Key.parse s = .error e →
        c.bind s v = .error e ∧ (Context.binding s v).run.run c = (.error e, c)) ∧
      ∀ k, Key.parse s = .ok k → ∃ bound, c.bind s v = .ok bound ∧
        (Context.binding s v).run.run c = (.ok (), bound) ∧
        bound.recipient = c.recipient ∧ bound.messageKey = c.messageKey ∧
        ∀ k', bound.get? k' = if k' = k then some v else c.get? k' := by
  have hblank : Text.isBlank s = true ↔ ∀ c ∈ s.toList, Text.isSpace c = true := List.all_eq_true
  refine ⟨?_, Delimiters.toList_extract_token_iff.symm, ?_, ?_, fun k => Key.parse_eq_ok_iff, ?_,
    fun t => ?_, fun c v => ⟨fun e he => ?_, fun k hk => ?_⟩⟩
  · rw [Key.isSome_ofString?_iff, Key.isKeyText_iff_mem_grammar]
  · rw [← Delimiters.toList_extract_token_iff (d := d), Placeholders.toList_eq_cons_iff]
    simp only [Placeholders.toList_eq_nil_iff]
  · intro k hk
    exact Key.ofString?_eq_some_iff.1 hk
  · rw [Key.parse_eq_blank_iff, hblank]
  · rw [Key.parse_eq_invalid_iff, ← hblank, Bool.not_eq_true]
  · have hbind : c.bind s v = .error e := by rw [Context.bind, he]; rfl
    exact ⟨hbind, by rw [Context.binding_run, hbind]⟩
  · have hbind : c.bind s v = .ok (c.put k v) := by rw [Context.bind, hk]; rfl
    exact ⟨c.put k v, hbind, by rw [Context.binding_run, hbind], rfl, rfl,
      fun k' => Context.get?_put c k k' v⟩

/-- A key of two segments. -/
def Key.dotted : Key := ⟨"A.B", rfl⟩

/-- A context in which it is bound already. -/
def Context.ofDotted : Context := (fresh (.named "Alex") .dotted).put .dotted (.text "old")

/-- The key is read between delimiters that could stand in it themselves, and bound anew; a text that is no
key leaves the old binding, and white space is called blank. -/
theorem Key.dotted_between_letters :
    (Key.ofString? "A.B" = some .dotted ∧ "A.B".toList ∈ Key.grammar ∧
      ((⟨'A', 'B'⟩ : Delimiters).extract "AA.BB").toList = ["A.B"] ∧ toString Key.dotted = "A.B") ∧
    (∃ bound, Context.ofDotted.bind "A.B" (.text "new") = .ok bound ∧
      bound.get? .dotted = some (.text "new")) ∧
    Key.parse "1ST" = .error (.invalid "1ST") ∧
    (Context.binding "1ST" (.text "new")).run.run .ofDotted =
      (.error (.invalid "1ST"), .ofDotted) ∧
    Key.parse " \u3000" = .error .blankKey := by
  have hkey : Key.ofString? "A.B" = some .dotted := rfl
  obtain ⟨hgrammar, hextract, -, hshows, hparse, -, -, hbind⟩ :=
    Key.grammar_everywhere "A.B" ⟨'A', 'B'⟩
  obtain ⟨-, -, -, -, -, -, hinvalid, hrefused⟩ := Key.grammar_everywhere "1ST" .percent
  obtain ⟨-, -, -, -, -, hspaces, -, -⟩ := Key.grammar_everywhere " \u3000" .percent
  have hwhite : Text.isBlank " \u3000" = true := rfl
  have hnotWhite : ¬ Text.isBlank "1ST" = true := Bool.false_ne_true
  rw [Text.isBlank, List.all_eq_true] at hwhite hnotWhite
  have hnone : Key.parse "1ST" = .error (.invalid "1ST") := (hinvalid "1ST").2 ⟨rfl, rfl, hnotWhite⟩
  obtain ⟨bound, hbound, -, -, -, hget⟩ :=
    (hbind .ofDotted (.text "new")).2 .dotted ((hparse .dotted).2 hkey)
  refine ⟨⟨hkey, hgrammar.1 rfl, hextract.1 rfl, hshows .dotted hkey⟩,
    ⟨bound, hbound, (hget .dotted).trans (if_pos rfl)⟩, hnone,
    ((hrefused .ofDotted (.text "new")).1 _ hnone).2, hspaces.2 hwhite⟩

end Courier
