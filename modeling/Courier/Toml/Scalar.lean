import Courier.Text.Basic
import Courier.Toml.Value

/-!
# Plain values of a document

The values that are written without quotes or brackets: booleans, integers, floats, dates and times
of day. All of them are runs of the same characters, so a run is taken first and understood as a
whole; what is none of them is refused.

A number is refused by its spelling alone. One that is too large stays in the document, where it
does no harm as long as nobody looks at it.
-/

namespace Courier.Toml

/-- A character that plain values are made of: any but blanks, line ends and the signs that a
document is made of. -/
def isScalarChar (c : Char) : Bool :=
  c ∉ [' ', '\t', '\r', '\n', '#', '=', ',', '[', ']', '\x7b', '\x7d']

/-! ### Digits in groups -/

/-- Whether underscores in a number only stand between its groups: what follows one starts with a
digit, and what one follows ends with a digit. -/
def isGrouped (isDigit : Char → Bool) (cs : List Char) : Bool :=
  let groups := cs.splitOn '_'
  groups.tail.all (fun g => g.head?.any isDigit) &&
    groups.dropLast.all fun g => g.getLast?.any isDigit

/-- A number without the underscores between its groups. -/
def ungrouped (cs : List Char) : List Char :=
  cs.filter (· ≠ '_')

/-- Whether a character belongs to a group of digits. -/
def isDigitOrUnderscore (c : Char) : Bool :=
  c.isDigit || c == '_'

/-- Whether digits are written as a whole number is: a zero in front is not filled up. -/
def isWhole : List Char → Bool
  | '0' :: _ :: _ => false
  | cs => !cs.isEmpty

/-- A sign in front of a number, and what comes after it. -/
def signed : List Char → Bool × List Char
  | '+' :: cs => (false, cs)
  | '-' :: cs => (true, cs)
  | cs => (false, cs)

/-! ### Integers -/

/-- Integers have at most a hundred and twenty-eight bits. -/
def isHeld (n : Int) : Bool :=
  -(Nat.pow 2 127 : Int) ≤ n && n < (Nat.pow 2 128 : Int)

/-- Whether digits of a base, with or without a minus, stand for an integer that is held. -/
def isHeldInteger (base : Nat) (isDigit : Char → Bool) (negative : Bool) (digits : List Char) :
    Bool :=
  let n := Text.number base digits
  !digits.isEmpty && digits.all isDigit && isHeld (if negative then -n else n)

/-- Whether the digits of a base stand for an integer that is held, if they are digits at all. -/
def based? (base : Nat) (isDigit : Char → Bool) (cs : List Char) : Option Bool :=
  if cs.all (fun c => isDigit c || c == '_') ∧ isGrouped isDigit cs then
    some (isHeldInteger base isDigit false (ungrouped cs))
  else none

/-- Whether a run in decimal is an integer that is held, if it is an integer at all. Behind its
first underscore an integer may have any characters but those of floats; it is then not held. -/
def decimal? (run : List Char) : Option Bool :=
  let (negative, cs) := signed run
  let behind := cs.dropWhile Char.isDigit
  if isWhole cs ∧ behind.head?.all (· = '_') ∧ behind.all (· ∉ ['.', 'e', 'E']) ∧
      isGrouped Text.isHexDigit run then
    some (isHeldInteger 10 Char.isDigit negative (ungrouped cs))
  else none

/-- Whether a run is an integer that is held, if it is an integer at all: in decimal digits, perhaps
with a sign, or in one of three other bases without. -/
def integer? : List Char → Option Bool
  | '0' :: 'x' :: cs => based? 16 Text.isHexDigit cs
  | '0' :: 'o' :: cs => based? 8 (fun c => '0' ≤ c && c ≤ '7') cs
  | '0' :: 'b' :: cs => based? 2 (fun c => c == '0' || c == '1') cs
  | run => decimal? run

/-! ### Floats -/

/-- Whether a decimal is so large that it rounds to infinity in binary floating point. -/
def overflows (digits : List Char) (exponent : Int) : Bool :=
  let m := Text.number 10 digits
  let size := (Nat.toDigits 10 m).length + exponent
  if m = 0 then false
  else if 310 < size then true
  else if size < 300 then false
  else Nat.pow 2 1024 - Nat.pow 2 970 ≤ m * Nat.pow 10 exponent.toNat / Nat.pow 10 (-exponent).toNat

/-- The digits of a part of a float, of which there is at least one. -/
def floatDigits? (cs : List Char) : Option (List Char) :=
  let digits := ungrouped cs
  if digits ≠ [] ∧ digits.all Char.isDigit then some digits else none

/-- Whether a run is a float that is held, if it is a float at all: a whole part, and decimal places
or an exponent, or both, or one of the two floats with a name. -/
def float? (run : List Char) : Option Bool := do
  let cs := (signed run).2
  if cs = ['i', 'n', 'f'] ∨ cs = ['n', 'a', 'n'] then
    return true
  guard (isGrouped Char.isDigit run)
  let whole ← floatDigits? (cs.takeWhile isDigitOrUnderscore)
  guard (cs.head? ≠ some '0' ∨ whole.length = 1)
  let behind := cs.dropWhile isDigitOrUnderscore
  let (places, tail) ← match behind with
    | [] => none
    | '.' :: cs => do
      let places ← floatDigits? (cs.takeWhile isDigitOrUnderscore)
      some (places, cs.dropWhile isDigitOrUnderscore)
    | cs => some ([], cs)
  let exponent ← match tail with
    | [] => some 0
    | c :: cs => do
      guard (c = 'e' ∨ c = 'E')
      let (negative, cs) := signed cs
      let digits ← floatDigits? cs
      some (if negative then -(Text.number 10 digits : Int) else Text.number 10 digits)
  return !overflows (whole ++ places) (exponent - places.length)

/-! ### Dates and times of day -/

/-- The number that a fixed count of decimal digits at the start of a text stands for. -/
def fixed? (count : Nat) (cs : List Char) : Option (Nat × List Char) :=
  let ds := cs.take count
  if ds.length = count ∧ ds.all Char.isDigit then some (Text.number 10 ds, cs.drop count) else none

def daysOfMonth (year month : Nat) : Nat :=
  if month = 2 then
    if year % 4 = 0 ∧ (year % 100 ≠ 0 ∨ year % 400 = 0) then 29 else 28
  else if month ∈ [4, 6, 9, 11] then 30
  else 31

/-- The text behind a date of the calendar, which takes ten characters. -/
def date? (cs : List Char) : Option (List Char) := do
  let (year, cs) ← fixed? 4 cs
  let '-' :: cs := cs | none
  let (month, cs) ← fixed? 2 cs
  let '-' :: cs := cs | none
  let (day, cs) ← fixed? 2 cs
  guard (1 ≤ month ∧ month ≤ 12 ∧ 1 ≤ day ∧ day ≤ daysOfMonth year month)
  return cs

/-- The text behind hours and minutes, which take five characters. -/
def minutes? (cs : List Char) : Option (List Char) := do
  let (hour, cs) ← fixed? 2 cs
  let ':' :: cs := cs | none
  let (minute, cs) ← fixed? 2 cs
  guard (hour ≤ 23 ∧ minute ≤ 59)
  return cs

/-- The fraction of a second in its shortest form: nanoseconds at the finest, without zeros at the
end, but with one digit at least. -/
def fraction (digits : List Char) : List Char :=
  match ((digits.take 9).reverse.dropWhile (· = '0')).reverse with
  | [] => ['0']
  | ds => ds

/-- A time of day, which may have seconds, and those a fraction. It comes in normal form, with the
text behind it. -/
def time? (cs : List Char) : Option (List Char × List Char) := do
  let minutes := cs.take 5
  match ← minutes? cs with
  | ':' :: cs => do
    let seconds := minutes ++ ':' :: cs.take 2
    let (second, cs) ← fixed? 2 cs
    guard (second ≤ 60)
    match cs with
    | '.' :: cs =>
      let digits := cs.takeWhile Char.isDigit
      guard (digits ≠ [])
      return (seconds ++ '.' :: fraction digits, cs.dropWhile Char.isDigit)
    | cs => return (seconds, cs)
  | cs => return (minutes, cs)

/-- The normal form of a distance from universal time, or of nothing. No distance is positive. -/
def offset? : List Char → Option (List Char)
  | [] => some []
  | c :: cs =>
    if c.toUpper = 'Z' ∧ cs = [] then some ['Z']
    else if (c = '+' ∨ c = '-') ∧ minutes? cs = some [] then
      some (if cs = ['0', '0', ':', '0', '0'] then '+' :: cs else c :: cs)
    else none

/-- The normal form of a run that is a date, a time of day, or a date and a time with a letter or a
blank between them, perhaps with a distance from universal time. -/
def moment? (run : List Char) : Option (List Char) :=
  match date? run with
  | some [] => some run
  | some (c :: cs) => do
    guard (c.toUpper = 'T' ∨ c = ' ')
    let (time, cs) ← time? cs
    let offset ← offset? cs
    return run.take 10 ++ 'T' :: time ++ offset
  | none => do
    let (time, []) ← time? run | none
    return time

/-- Whether a run is a date alone, which a time may follow after a blank. -/
def isDate (cs : List Char) : Bool :=
  date? cs == some []

/-! ### Runs -/

/-- The value that a run stands for. -/
def scalar? (run : List Char) : Option Value :=
  if run = ['t', 'r', 'u', 'e'] then some (.boolean true)
  else if run = ['f', 'a', 'l', 's', 'e'] then some (.boolean false)
  else
    match integer? run <|> float? run with
    | some isHeld => some (.number (String.ofList run) isHeld)
    | none => (moment? run).map fun normal => .moment (String.ofList normal)

end Courier.Toml
