import Courier.Toml.Scalar
import Courier.Toml.Text

/-!
# Documents

A document is read line by line: headers say which table the lines below them belong to, and each of
the other lines assigns a value to a key, which may be dotted. The whole document is refused as soon
as one line is wrong.

Arrays and inline tables may go over several lines and end in a comma. They nest to a limited depth.
-/

namespace Courier.Toml

/-! ### Blanks and comments -/

/-- The rest behind a comment, from its sign to before the line end. -/
def comment? (cs : List Char) : Option (Remainder cs) :=
  let r := skip isPrintable cs
  match r.rest with
  | [] => some r
  | rest => if (lineEnd? rest).isSome then some r else none

/-- The rest behind blanks, line ends and comments. -/
def skipGaps (cs : List Char) : Option (Remainder cs) :=
  let blanks := skip isBlank cs
  match _h : blanks.rest with
  | [] => some blanks
  | '#' :: rest =>
    have hlt : rest.length < cs.length := blanks.length_lt _h
    match comment? rest with
    | none => none
    | some c =>
      have := c.noLonger
      (skipGaps c.rest).map fun r => ⟨r.rest, by have := r.noLonger; omega⟩
  | c :: rest =>
    have hle : (c :: rest).length ≤ cs.length := blanks.length_lt _h
    match lineEnd? (c :: rest) with
    | none => some blanks
    | some e =>
      have := e.shorter
      (skipGaps e.rest).map fun r => ⟨r.rest, by have := r.noLonger; omega⟩
termination_by cs.length

/-- The rest behind a line end, or nothing at the end of the document. -/
def ended? (cs : List Char) : Option (Remainder cs) :=
  match cs with
  | [] => some ⟨[], Nat.zero_le _⟩
  | cs => (lineEnd? cs).map fun e => ⟨e.rest, e.noLonger⟩

/-- The rest behind the end of a line: blanks, perhaps a comment, and a line end or the end of the
document. -/
def endOfLine? (cs : List Char) : Option (Remainder cs) :=
  let blanks := skip isBlank cs
  match _h : blanks.rest with
  | '#' :: rest => do
    let comment ← comment? rest
    let e ← ended? comment.rest
    some ⟨e.rest, by
      have := blanks.length_lt _h; have := comment.noLonger; have := e.noLonger; omega⟩
  | _ => (ended? blanks.rest).map fun e => ⟨e.rest, Nat.le_trans e.noLonger blanks.noLonger⟩

/-! ### Keys -/

/-- A character of a key without quotes. -/
def isBareKeyChar (c : Char) : Bool :=
  c.isAlphanum || c == '_' || c == '-'

/-- One name of a key, bare or in quotes. -/
def name? (cs : List Char) : Option (Reading String cs) :=
  match run? isBareKeyChar cs with
  | some r => some (r.map String.ofList)
  | none => line? cs

/-- How deep arrays and inline tables nest, and how many names a key has, at most. -/
def nesting : Nat := 80

/-- Names with dots between them. The last one stands by itself. -/
def names? (cs : List Char) : Option (Reading (List String × String) cs) := do
  let first ← name? cs
  match _h : (skip isBlank first.rest).rest with
  | '.' :: rest =>
    have hlt : rest.length < cs.length :=
      Nat.lt_trans ((skip isBlank first.rest).length_lt _h) first.shorter
    have := (skip isBlank rest).noLonger
    let others ← names? (skip isBlank rest).rest
    some ⟨(first.value :: others.value.1, others.value.2), others.rest, by
      have := others.shorter; omega⟩
  | _ => some (first.map fun name => ([], name))
termination_by cs.length

/-- A key: not too many names with dots between them. -/
def key? (cs : List Char) : Option (Reading (List String × String) cs) :=
  (names? cs).filter fun names => names.value.1.length < nesting

/-- The rest behind a character that may stand after blanks. -/
def sign? (c : Char) (cs : List Char) : Option (Reading Unit cs) :=
  let blanks := skip isBlank cs
  match _h : blanks.rest with
  | d :: rest =>
    if d = c then some ⟨(), rest, blanks.length_lt _h⟩ else none
  | [] => none

/-! ### Values -/

/-- A value without brackets. A time may follow its date after a blank. -/
def plain? (cs : List Char) : Option (Reading Value cs) :=
  match string? cs with
  | some r => some (r.map .text)
  | none => do
    let first ← run? isScalarChar cs
    match first.rest with
    | ' ' :: d :: rest =>
      if isDate first.value ∧ d.isDigit then
        let second ← run? isScalarChar (d :: rest)
        let v ← scalar? (first.value ++ ' ' :: second.value)
        if _h : second.rest.length < cs.length then some ⟨v, second.rest, _h⟩ else none
      else (scalar? first.value).map fun v => first.map fun _ => v
    | _ => (scalar? first.value).map fun v => first.map fun _ => v

mutual

/-- A value, with brackets nested at most so deep. -/
def value? (depth : Nat) (cs : List Char) : Option (Reading Value cs) :=
  match cs with
  | '[' :: rest =>
    match depth with
    | 0 => none
    | depth + 1 =>
      (items? depth rest).map fun r => (r.map (Value.array false)).widen (by simp)
  | '\x7b' :: rest =>
    match depth with
    | 0 => none
    | depth + 1 =>
      (entries? depth [] rest).map fun r => (r.map (Value.table .inline)).widen (by simp)
  | cs => plain? cs
termination_by 2 * cs.length

/-- The items of an array, read behind its opening bracket or a comma. -/
def items? (depth : Nat) (cs : List Char) : Option (Reading (List Value) cs) := do
  let gap ← skipGaps cs
  match _h : gap.rest with
  | ']' :: rest => some ⟨[], rest, gap.length_lt _h⟩
  | start =>
    have hstart : start.length ≤ cs.length := _h ▸ gap.noLonger
    let item ← value? depth start
    have hitem : item.rest.length < cs.length := Nat.lt_of_lt_of_le item.shorter hstart
    let gap ← skipGaps item.rest
    match _h : gap.rest with
    | ']' :: rest => some ⟨[item.value], rest, Nat.lt_trans (gap.length_lt _h) hitem⟩
    | ',' :: rest =>
      have : rest.length < cs.length := Nat.lt_trans (gap.length_lt _h) hitem
      let others ← items? depth rest
      some ⟨item.value :: others.value, others.rest, by have := others.shorter; omega⟩
    | _ => none
termination_by 2 * cs.length + 1

/-- The entries of an inline table, read behind its opening brace or a comma, on top of those that
came before. Lines may end around each of their signs. -/
def entries? (depth : Nat) (before : Entries) (cs : List Char) :
    Option (Reading Entries cs) := do
  let gap ← skipGaps cs
  match _h : gap.rest with
  | '\x7d' :: rest => some ⟨before, rest, gap.length_lt _h⟩
  | start =>
    have hstart : start.length ≤ cs.length := _h ▸ gap.noLonger
    let key ← key? start
    have := key.shorter
    let gap ← skipGaps key.rest
    have := gap.noLonger
    let equals ← sign? '=' gap.rest
    have := equals.shorter
    let gap ← skipGaps equals.rest
    have := gap.noLonger
    let v ← value? depth gap.rest
    have hv : v.rest.length < cs.length := by have := v.shorter; omega
    let now ← before.assign key.value.1 key.value.2 v.value
    let gap ← skipGaps v.rest
    match _h : gap.rest with
    | '\x7d' :: rest => some ⟨now, rest, Nat.lt_trans (gap.length_lt _h) hv⟩
    | ',' :: rest =>
      have : rest.length < cs.length := Nat.lt_trans (gap.length_lt _h) hv
      let all ← entries? depth now rest
      some ⟨all.value, all.rest, by have := all.shorter; omega⟩
    | _ => none
termination_by 2 * cs.length + 1

end

/-! ### Lines -/

/-- What a line of a document does. -/
inductive Statement where
  /-- The lines below belong to a table. -/
  | header (path : List String) (name : String)
  /-- The lines below belong to one more table of an array. -/
  | itemHeader (path : List String) (name : String)
  | assignment (path : List String) (name : String) (v : Value)

/-- A header, read behind its first opening bracket. -/
def header? (cs : List Char) : Option (Reading Statement cs) :=
  let bracketed (cs : List Char) : Option (Reading (List String × String) cs) := do
    let blanks := skip isBlank cs
    let key ← key? blanks.rest
    let close ← sign? ']' key.rest
    some ⟨key.value, close.rest, by
      have := blanks.noLonger; have := key.shorter; have := close.shorter; omega⟩
  match cs with
  | '[' :: rest => do
    let r ← bracketed rest
    match _h : r.rest with
    | ']' :: behind => some ⟨.itemHeader r.value.1 r.value.2, behind, by
        have := r.shorter
        rw [_h, List.length_cons] at this
        rw [List.length_cons]
        omega⟩
    | _ => none
  | cs => (bracketed cs).map fun r => r.map fun key => .header key.1 key.2

/-- A key and its value. -/
def assignment? (cs : List Char) : Option (Reading Statement cs) := do
  let key ← key? cs
  let equals ← sign? '=' key.rest
  let blanks := skip isBlank equals.rest
  let v ← value? nesting blanks.rest
  some ⟨.assignment key.value.1 key.value.2 v.value, v.rest, by
    have := key.shorter; have := equals.shorter; have := blanks.noLonger; have := v.shorter; omega⟩

/-- A statement at the start of its line. -/
def statement? : (cs : List Char) → Option (Reading Statement cs)
  | '[' :: rest => (header? rest).map fun r => r.widen (by simp)
  | cs => assignment? cs

/-- All statements of a document. -/
def statements? (cs : List Char) : Option (List Statement) := do
  let gap ← skipGaps cs
  match _h : gap.rest with
  | [] => some []
  | start =>
    have : start.length ≤ cs.length := _h ▸ gap.noLonger
    let first ← statement? start
    have := first.shorter
    let line ← endOfLine? first.rest
    have := line.noLonger
    let others ← statements? line.rest
    some (first.value :: others)
termination_by cs.length

/-! ### The document -/

/-- A document in the making: its table, and where the latest header has led. -/
structure Draft where
  entries : Entries
  header : List String

/-- The draft after one more line. -/
def Draft.then? (d : Draft) : Statement → Option Draft
  | .header path name => (d.entries.declare path name).map fun es => ⟨es, path ++ [name]⟩
  | .itemHeader path name => (d.entries.declareItem path name).map fun es => ⟨es, path ++ [name]⟩
  | .assignment path name v =>
    (d.entries.assignBelow d.header path name v).map fun es => ⟨es, d.header⟩

/-- The table that a document describes. A byte order mark in front of it is passed over. -/
def read? (document : String) : Option Entries := do
  let cs := match document.toList with
    | '\ufeff' :: cs => cs
    | cs => cs
  let lines ← statements? cs
  let draft ← lines.foldlM Draft.then? ⟨[], []⟩
  return draft.entries

/-- A table is open to dotted keys as long as only headers below it have named it. -/
example :
    (read? "[x.y.z]\n[x]\ny.w = 1").isSome = true ∧ (read? "[x.y]\n[x]\ny.w = 1").isSome = false ∧
      (read? "[x.y.z]\n[x]\ny.w = 1\n[x.y]").isSome = false := by
  decide +kernel

end Courier.Toml
