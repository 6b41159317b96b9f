/-!
# Blank texts and digits

The characters with the Unicode property `White_Space`, texts that hold nothing else, and texts with
such characters taken off both ends. Then numbers written in digits of a base of at most sixteen, and
read from them.

## Main statements

* `trim_eq_empty_iff`: a text trims to nothing exactly when it is blank.
* `nonBlank?_eq_none_iff`: the trimmed text is refused exactly for blank texts.
-/

namespace Courier.Text

/-! ### White space -/

/-- The characters with the property `White_Space`. -/
def isSpace (c : Char) : Bool :=
  (9 ≤ c.toNat && c.toNat ≤ 13) || c.toNat == 0x20 || c.toNat == 0x85 || c.toNat == 0xa0 ||
    c.toNat == 0x1680 || (0x2000 ≤ c.toNat && c.toNat ≤ 0x200a) || c.toNat == 0x2028 ||
    c.toNat == 0x2029 || c.toNat == 0x202f || c.toNat == 0x205f || c.toNat == 0x3000

/-- Nothing but white space, or nothing at all. -/
def isBlank (s : String) : Bool :=
  s.toList.all isSpace

/-- The characters without the white space at both ends. -/
def trimChars (cs : List Char) : List Char :=
  ((cs.dropWhile isSpace).reverse.dropWhile isSpace).reverse

/-- The text without the white space at both ends. -/
def trim (s : String) : String :=
  String.ofList (trimChars s.toList)

/-- The trimmed text, unless it is blank. -/
def nonBlank? (s : String) : Option String :=
  if isBlank s then none else some (trim s)

/-- White space is dropped to the end exactly when there is nothing else. -/
theorem dropWhile_isSpace_eq_nil_iff (cs : List Char) :
    cs.dropWhile isSpace = [] ↔ cs.all isSpace = true := by
  induction cs with
  | nil => simp
  | cons c cs ih => by_cases h : isSpace c = true <;> simp [h, ih]

/-- What is left of a text starts with a character that is not white space. -/
theorem head_dropWhile_isSpace {cs ds : List Char} {d : Char}
    (h : cs.dropWhile isSpace = d :: ds) : isSpace d = false := by
  induction cs with
  | nil => simp at h
  | cons c cs ih =>
    by_cases hc : isSpace c = true
    · exact ih (by simpa [List.dropWhile_cons, hc] using h)
    · have hd : c = d := by simpa [List.dropWhile_cons, hc] using congrArg List.head? h
      simpa [← hd] using hc

theorem trimChars_eq_nil_iff (cs : List Char) : trimChars cs = [] ↔ cs.all isSpace = true := by
  rw [trimChars, List.reverse_eq_nil_iff, dropWhile_isSpace_eq_nil_iff, List.all_reverse]
  constructor
  · intro h
    rw [← dropWhile_isSpace_eq_nil_iff]
    cases hd : cs.dropWhile isSpace with
    | nil => rfl
    | cons d ds =>
      have := head_dropWhile_isSpace hd
      simp [hd, this] at h
  · intro h
    rw [(dropWhile_isSpace_eq_nil_iff cs).2 h]
    rfl

/-- A text trims to nothing exactly when it is blank. -/
theorem trim_eq_empty_iff (s : String) : trim s = "" ↔ isBlank s = true := by
  rw [trim, String.ofList_eq_empty_iff, trimChars_eq_nil_iff, isBlank]

theorem nonBlank?_eq_none_iff (s : String) : nonBlank? s = none ↔ isBlank s = true := by
  unfold nonBlank?
  split <;> simp_all

/-- The ASCII blanks that core knows are white space here. -/
theorem isSpace_of_isWhitespace {c : Char} (h : c.isWhitespace = true) : isSpace c = true := by
  simp only [Char.isWhitespace, Bool.or_eq_true, decide_eq_true_eq] at h
  rcases h with ((rfl | rfl) | rfl) | rfl <;> decide

example : isBlank " \t\u00a0\u3000" = true ∧ isBlank "\u200b" = false := by
  constructor <;> decide +kernel

/-! ### Digits -/

/-- The value of a digit, decimal or hexadecimal. -/
def digit? (c : Char) : Option Nat :=
  if c.isDigit then some (c.toNat - '0'.toNat)
  else if 'a' ≤ c ∧ c ≤ 'f' then some (c.toNat - 'a'.toNat + 10)
  else if 'A' ≤ c ∧ c ≤ 'F' then some (c.toNat - 'A'.toNat + 10)
  else none

/-- Whether a character is a hexadecimal digit. -/
def isHexDigit (c : Char) : Bool := (digit? c).isSome

/-- The number that digits stand for, the first of them weighing most. -/
def number (base : Nat) (digits : List Char) : Nat :=
  digits.foldl (fun n c => base * n + (digit? c).getD 0) 0

/-- The digits of a number, with zeros in front up to a width. -/
def padded (base width n : Nat) : List Char :=
  let digits := Nat.toDigits base n
  List.replicate (width - digits.length) '0' ++ digits

example : number 16 (padded 16 4 0x2f) = 0x2f ∧ padded 16 4 0x2f = ['0', '0', '2', 'f'] := by decide

end Courier.Text
