import Courier.Text.Basic

/-!
# Reading the strings of a document

A reader takes something from the start of a text and leaves the rest, which is always shorter than the
text, so that readers that go on with the rest come to an end.

A string has four written forms: in double quotes, with escapes, or in single quotes, as it stands; each
on one line, or with the quotes tripled on several. Line ends inside a string are kept as they are
written.
-/

namespace Courier.Toml

/-! ### Readings -/

/-- Something read from the start of `cs`, and the rest. -/
structure Reading (α : Type) (cs : List Char) where
  value : α
  rest : List Char
  shorter : rest.length < cs.length

namespace Reading

variable {α β : Type} {cs ds : List Char}

/-- The reading with its value changed. -/
def map (f : α → β) (r : Reading α cs) : Reading β cs :=
  ⟨f r.value, r.rest, r.shorter⟩

theorem noLonger (r : Reading α cs) : r.rest.length ≤ cs.length :=
  Nat.le_of_lt r.shorter

/-- The reading seen from a text that is no shorter. -/
def widen (r : Reading α cs) (h : cs.length ≤ ds.length) : Reading α ds :=
  ⟨r.value, r.rest, Nat.lt_of_lt_of_le r.shorter h⟩

end Reading

/-- The rest of `cs` after something that may have been empty. -/
structure Remainder (cs : List Char) where
  rest : List Char
  noLonger : rest.length ≤ cs.length

/-- What comes behind one more character is shorter. -/
theorem Remainder.length_lt {cs rest : List Char} {c : Char} (r : Remainder cs)
    (h : r.rest = c :: rest) : rest.length < cs.length := by
  have := r.noLonger
  rw [h, List.length_cons] at this
  exact this

/-- The rest behind all leading characters that pass a test. -/
def skip (p : Char → Bool) (cs : List Char) : Remainder cs :=
  ⟨cs.dropWhile p, (List.dropWhile_sublist p).length_le⟩

/-- The leading characters that pass a test, if there are any. -/
def run? (p : Char → Bool) : (cs : List Char) → Option (Reading (List Char) cs)
  | [] => none
  | c :: cs =>
    if p c then
      some ⟨c :: cs.takeWhile p, cs.dropWhile p,
        Nat.lt_succ_of_le (List.dropWhile_sublist p).length_le⟩
    else none

/-! ### Characters -/

/-- A character that may stand in comments and strings: no control other than the tab. -/
def isPrintable (c : Char) : Bool :=
  c == '\t' || (' ' ≤ c && c != '\x7f')

/-- A blank within a line. -/
def isBlank (c : Char) : Bool :=
  c == ' ' || c == '\t'

/-- The rest behind a line end. -/
def lineEnd? : (cs : List Char) → Option (Reading Unit cs)
  | '\n' :: cs => some ⟨(), cs, by simp⟩
  | '\r' :: '\n' :: cs => some ⟨(), cs, Nat.lt_add_of_pos_right (by decide : 0 < 2)⟩
  | _ => none

/-! ### Escapes -/

/-- The character of a code point in so many hexadecimal digits. -/
def codePoint? (count : Nat) (cs : List Char) : Option (Char × Remainder cs) :=
  let digits := cs.take count
  let n := Text.number 16 digits
  if digits.length = count ∧ digits.all Text.isHexDigit ∧ n.isValidChar then
    some (Char.ofNat n, ⟨cs.drop count, (List.drop_sublist count cs).length_le⟩)
  else none

/-- The characters with an escape of one letter. -/
def letterEscapes : List (Char × Char) :=
  [('b', '\x08'), ('t', '\t'), ('n', '\n'), ('f', '\x0c'), ('r', '\r'), ('e', '\x1b'), ('"', '"'),
    ('\\', '\\')]

/-- The numbers of digits of the escapes that give a code point. -/
def codeEscapes : List (Char × Nat) :=
  [('x', 2), ('u', 4), ('U', 8)]

/-- The character that an escape stands for, read behind its backslash. -/
def escape? : (cs : List Char) → Option (Reading Char cs)
  | [] => none
  | c :: cs =>
    match letterEscapes.lookup c with
    | some d => some ⟨d, cs, by simp⟩
    | none => do
      let digits ← codeEscapes.lookup c
      let (d, r) ← codePoint? digits cs
      some ⟨d, r.rest, Nat.lt_succ_of_le r.noLonger⟩

/-- The rest behind the white space and line ends at the start of a text. -/
def skipLines (cs : List Char) : Remainder cs :=
  match _h : (skip isBlank cs).rest with
  | '\n' :: rest =>
    have hlt : rest.length < cs.length := (skip isBlank cs).length_lt _h
    let r := skipLines rest
    ⟨r.rest, by have := r.noLonger; omega⟩
  | '\r' :: '\n' :: rest =>
    have hlt : rest.length < cs.length := Nat.lt_of_succ_lt ((skip isBlank cs).length_lt _h)
    let r := skipLines rest
    ⟨r.rest, by have := r.noLonger; omega⟩
  | _ => skip isBlank cs
termination_by cs.length

/-- The rest behind a line end that a backslash has cut off, with the blanks before it and all white
space behind it. -/
def joinedLine? (cs : List Char) : Option (Remainder cs) :=
  let blanks := skip isBlank cs
  (lineEnd? blanks.rest).map fun r =>
    let s := skipLines r.rest
    ⟨s.rest, by have := s.noLonger; have := r.shorter; have := blanks.noLonger; omega⟩

/-! ### The four forms, each read behind its opening quotes -/

/-- On one line in double quotes. -/
def basic? (cs : List Char) : Option (Reading (List Char) cs) :=
  match cs with
  | [] => none
  | '"' :: rest => some ⟨[], rest, by simp⟩
  | '\\' :: rest => do
    let e ← escape? rest
    have := e.shorter
    let r ← basic? e.rest
    some ⟨e.value :: r.value, r.rest, by have := r.shorter; rw [List.length_cons]; omega⟩
  | c :: rest =>
    if isPrintable c then
      (basic? rest).map fun r => (r.map (c :: ·)).widen (by simp)
    else none
termination_by cs.length

/-- On one line in single quotes. -/
def literal? : (cs : List Char) → Option (Reading (List Char) cs)
  | [] => none
  | '\'' :: rest => some ⟨[], rest, by simp⟩
  | c :: rest =>
    if isPrintable c then
      (literal? rest).map fun r => (r.map (c :: ·)).widen (by simp)
    else none

/-- Behind the closing quotes of several lines: up to two quotes before them belong to the string. -/
def closing? (quote : Char) (cs : List Char) : Option (Reading (List Char) cs) :=
  let quotes := cs.takeWhile (· = quote)
  let n := min 5 quotes.length
  if _h : 3 ≤ n then
    some ⟨List.replicate (n - 3) quote, cs.drop n, by
      have : quotes.length ≤ cs.length := (List.takeWhile_sublist _).length_le
      simp only [List.length_drop]
      omega⟩
  else none

/-- On several lines in tripled double quotes. -/
def basicLines? (cs : List Char) : Option (Reading (List Char) cs) :=
  match closing? '"' cs with
  | some r => some r
  | none =>
    match cs with
    | [] => none
    | '\\' :: rest =>
      match joinedLine? rest with
      | some j => (basicLines? j.rest).map fun r =>
          r.widen (by have := j.noLonger; rw [List.length_cons]; omega)
      | none => do
        let e ← escape? rest
        have := e.shorter
        let r ← basicLines? e.rest
        some ⟨e.value :: r.value, r.rest, by have := r.shorter; rw [List.length_cons]; omega⟩
    | '\r' :: '\n' :: rest =>
      (basicLines? rest).map fun r => (r.map (['\r', '\n'] ++ ·)).widen (Nat.le_add_right _ 2)
    | c :: rest =>
      if isPrintable c ∨ c = '\n' then
        (basicLines? rest).map fun r => (r.map (c :: ·)).widen (by simp)
      else none
termination_by cs.length
decreasing_by
  · have := j.noLonger
    simp
    omega
  all_goals simp; try omega

/-- On several lines in tripled single quotes. -/
def literalLines? (cs : List Char) : Option (Reading (List Char) cs) :=
  match closing? '\'' cs with
  | some r => some r
  | none =>
    match cs with
    | [] => none
    | '\r' :: '\n' :: rest =>
      (literalLines? rest).map fun r => (r.map (['\r', '\n'] ++ ·)).widen (Nat.le_add_right _ 2)
    | c :: rest =>
      if isPrintable c ∨ c = '\n' then
        (literalLines? rest).map fun r => (r.map (c :: ·)).widen (by simp)
      else none
termination_by cs.length

/-- The line end right behind opening quotes does not belong to the string. -/
def lines? (body : (cs : List Char) → Option (Reading (List Char) cs)) (cs : List Char) :
    Option (Reading (List Char) cs) :=
  match lineEnd? cs with
  | some r => (body r.rest).map fun s => s.widen r.noLonger
  | none => body cs

/-- A string on one line, with its quotes. -/
def line? : (cs : List Char) → Option (Reading String cs)
  | '"' :: cs => (basic? cs).map fun r => (r.map String.ofList).widen (by simp)
  | '\'' :: cs => (literal? cs).map fun r => (r.map String.ofList).widen (by simp)
  | _ => none

/-- A string in any of the four forms, with its quotes. -/
def string? : (cs : List Char) → Option (Reading String cs)
  | '"' :: '"' :: '"' :: cs =>
    (lines? basicLines? cs).map fun r => (r.map String.ofList).widen (Nat.le_add_right _ 3)
  | '\'' :: '\'' :: '\'' :: cs =>
    (lines? literalLines? cs).map fun r => (r.map String.ofList).widen (Nat.le_add_right _ 3)
  | cs => line? cs

end Courier.Toml
