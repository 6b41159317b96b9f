import Courier.Key

/-!
# Templates

A template is a text in which placeholders stand: a key between an opening and a closing delimiter.
Any two characters may be delimiters, also equal ones and ones that keys are made of. A placeholder
starts at the first place where one fits, and its key is the longest that a closing delimiter follows;
the search goes on behind it.

Placeholders are read one at a time by `Placeholders.next?`, and exchanged for texts in one pass by
`substitute`, which copies everything else and does not read what it has put in.

## Main statements

* `longest?_eq_some`, `matchAt?_eq_some`: what a match takes away, and what its key is made of.
* `isKeyText_of_matchAt?`: the text between the delimiters is a key.
* `keyChars_of_nextMatch?`, `substituteChars_of_matchAt?`: one step of the two readings.
-/

namespace Courier

/-- The characters around the key of a placeholder. -/
structure Delimiters where
  opening : Char
  closing : Char
  deriving DecidableEq, Repr

namespace Delimiters

/-- A percent sign on both sides. -/
def percent : Delimiters := ⟨'%', '%'⟩

/-- A pair of braces. -/
def braces : Delimiters := ⟨'\x7b', '\x7d'⟩

/-- The placeholder as it is written for a key. -/
def tokenChars (d : Delimiters) (key : List Char) : List Char :=
  d.opening :: (key ++ [d.closing])

def token (d : Delimiters) (key : String) : String :=
  String.ofList (d.tokenChars key.toList)

end Delimiters

namespace Template

/-! ### One placeholder -/

/-- The most key characters in front of a closing delimiter, and what comes after it. -/
def longest? (closing : Char) : List Char → Option (List Char × List Char)
  | [] => none
  | c :: cs =>
    match if isKeyChar c then longest? closing cs else none with
    | some (key, rest) => some (c :: key, rest)
    | none => if c = closing then some ([], cs) else none

/-- The key of a placeholder at the very start of a text, and what comes after it. -/
def matchAt? (d : Delimiters) : List Char → Option (List Char × List Char)
  | o :: c :: cs =>
    if o = d.opening ∧ c.isAlpha then
      (longest? d.closing cs).map fun found => (c :: found.1, found.2)
    else none
  | _ => none

theorem longest?_eq_some {closing : Char} {cs key rest : List Char}
    (h : longest? closing cs = some (key, rest)) :
    cs = key ++ closing :: rest ∧ key.all isKeyChar = true := by
  induction cs generalizing key with
  | nil => simp [longest?] at h
  | cons c cs ih =>
    unfold longest? at h
    split at h
    · rename_i found hfound
      obtain ⟨hc, hfound⟩ : isKeyChar c = true ∧ longest? closing cs = some (_, _) := by
        split at hfound
        · exact ⟨‹_›, hfound⟩
        · simp at hfound
      obtain ⟨rfl, rfl⟩ : c :: _ = key ∧ _ = rest := by simpa using h
      obtain ⟨hcs, hall⟩ := ih hfound
      exact ⟨by rw [hcs]; rfl, by simp [hc, hall]⟩
    · split at h
      · obtain ⟨rfl, rfl⟩ : [] = key ∧ cs = rest := by simpa using h
        simp_all
      · simp at h

theorem matchAt?_eq_some {d : Delimiters} {cs key rest : List Char}
    (h : matchAt? d cs = some (key, rest)) :
    cs = d.tokenChars key ++ rest ∧ isKeyText key = true := by
  unfold matchAt? at h
  split at h
  · rename_i o c cs
    split at h
    · rename_i hoc
      obtain ⟨found, hfound, heq⟩ := Option.map_eq_some_iff.1 h
      obtain ⟨rfl, rfl⟩ : c :: found.1 = key ∧ found.2 = rest := by simpa using heq
      obtain ⟨hcs, hall⟩ := longest?_eq_some hfound
      refine ⟨?_, by simp [isKeyText, hoc.2, hall]⟩
      rw [hcs, hoc.1]
      simp [Delimiters.tokenChars]
    · simp at h
  · simp at h

/-- The text between the delimiters is a key. -/
theorem isKeyText_of_matchAt? {d : Delimiters} {cs key rest : List Char}
    (h : matchAt? d cs = some (key, rest)) : isKeyText key = true :=
  (matchAt?_eq_some h).2

theorem length_matchAt?_lt {d : Delimiters} {cs key rest : List Char}
    (h : matchAt? d cs = some (key, rest)) : rest.length < cs.length := by
  rw [(matchAt?_eq_some h).1, Delimiters.tokenChars]
  simp
  omega

/-! ### One after the other -/

/-- The key of the first placeholder, and what comes after it. -/
def nextMatch? (d : Delimiters) : List Char → Option (List Char × List Char)
  | [] => none
  | c :: cs =>
    match matchAt? d (c :: cs) with
    | some found => some found
    | none => nextMatch? d cs

theorem length_nextMatch?_lt {d : Delimiters} {cs key rest : List Char}
    (h : nextMatch? d cs = some (key, rest)) : rest.length < cs.length := by
  induction cs with
  | nil => simp [nextMatch?] at h
  | cons c cs ih =>
    unfold nextMatch? at h
    split at h
    · rename_i found hfound
      rw [Option.some.inj h] at hfound
      exact length_matchAt?_lt hfound
    · exact Nat.lt_trans (ih h) (Nat.lt_succ_self _)

/-- The keys of all placeholders, in their order. -/
def keyChars (d : Delimiters) (cs : List Char) : List (List Char) :=
  match _h : nextMatch? d cs with
  | none => []
  | some (key, rest) => key :: keyChars d rest
termination_by cs.length
decreasing_by exact length_nextMatch?_lt _h

theorem keyChars_of_nextMatch?_none {d : Delimiters} {cs : List Char}
    (h : nextMatch? d cs = none) : keyChars d cs = [] := by
  rw [keyChars]
  split
  · rfl
  · simp_all

theorem keyChars_of_nextMatch? {d : Delimiters} {cs key rest : List Char}
    (h : nextMatch? d cs = some (key, rest)) : keyChars d cs = key :: keyChars d rest := by
  rw [keyChars]
  split
  · simp_all
  · simp_all

/-! ### Putting texts in -/

/-- Every placeholder is exchanged for the text of its key, and everything else is copied. -/
def substituteChars (d : Delimiters) (textOf : List Char → List Char) (cs : List Char) :
    List Char :=
  match cs with
  | [] => []
  | c :: cs =>
    match _h : matchAt? d (c :: cs) with
    | some (key, rest) => textOf key ++ substituteChars d textOf rest
    | none => c :: substituteChars d textOf cs
termination_by cs.length
decreasing_by
  · exact length_matchAt?_lt _h
  · simp

theorem substituteChars_nil (d : Delimiters) (textOf : List Char → List Char) :
    substituteChars d textOf [] = [] := by
  rw [substituteChars]

theorem substituteChars_of_matchAt? {d : Delimiters} {textOf : List Char → List Char}
    {cs key rest : List Char} (h : matchAt? d cs = some (key, rest)) :
    substituteChars d textOf cs = textOf key ++ substituteChars d textOf rest := by
  cases cs with
  | nil => simp [matchAt?] at h
  | cons c cs =>
    rw [substituteChars]
    split <;> simp_all

theorem substituteChars_of_matchAt?_none {d : Delimiters} {textOf : List Char → List Char}
    {c : Char} {cs : List Char} (h : matchAt? d (c :: cs) = none) :
    substituteChars d textOf (c :: cs) = c :: substituteChars d textOf cs := by
  rw [substituteChars]
  split <;> simp_all

end Template

/-! ### Templates as texts -/

/-- A reading of the placeholders of a text: what is still to be read. -/
structure Placeholders where
  delimiters : Delimiters
  unread : List Char
  deriving DecidableEq, Repr

namespace Placeholders

/-- The key of the next placeholder, and the reading after it. -/
def next? (p : Placeholders) : Option (String × Placeholders) :=
  (Template.nextMatch? p.delimiters p.unread).map fun found =>
    (String.ofList found.1, ⟨p.delimiters, found.2⟩)

/-- The keys that are still to come. -/
def toList (p : Placeholders) : List String :=
  (Template.keyChars p.delimiters p.unread).map String.ofList

end Placeholders

namespace Delimiters

/-- A reading of the placeholders of a text from its start. -/
def extract (d : Delimiters) (text : String) : Placeholders :=
  ⟨d, text.toList⟩

/-- The keys of the placeholders of several texts, each where it first occurs. -/
def distinctKeys (d : Delimiters) (texts : List String) : List String :=
  (texts.flatMap fun text => (d.extract text).toList).eraseDups

/-- The text of a key, or its placeholder as written if it has none. -/
def textOf (d : Delimiters) (results : Fragment) (key : List Char) : List Char :=
  match results.named? (String.ofList key) with
  | some text => text.toList
  | none => d.tokenChars key

/-- The template with every placeholder exchanged for the text of its key. Placeholders without a
text stay as they are. -/
def substitute (d : Delimiters) (text : String) (results : Fragment) : String :=
  String.ofList (Template.substituteChars d (d.textOf results) text.toList)

end Delimiters

end Courier
