import Courier.Number.Binary64

/-!
# Decimal texts of floating-point numbers

The fewest decimal digits that read back as the same binary number, and of those the nearest to it.

A binary number stands for all the reals that round to it, an interval around its value that holds
its ends when the significand is even. A decimal grid holds the multiples of a power of ten; if a
point of the grid lies in the interval, so does one of the two around the value. The grids are tried
from the coarsest on, and the first with such a point gives the digits.

The digits are laid out with all places written, or with an exponent. The plain layout is for readers of
messages and never has an exponent; the diagnostic one shows that a number is a floating-point number,
and is short for very large and very small ones.
-/

namespace Courier

/-! ### Shortest decimals -/

/-- A positive decimal: its digits, the first of which is not zero, stand behind a point that is
moved to the right by `point` places. -/
structure Decimal where
  digits : List Char
  point : Int
  deriving DecidableEq, Repr

namespace Decimal

/-- An interval of reals around a value, all three in one unit. -/
structure Interval where
  low : Nat
  value : Nat
  high : Nat
  /-- Whether the ends belong to it. -/
  closed : Bool

namespace Interval

/-- Whether a real belongs to the interval. -/
def holds (i : Interval) (x : Nat) : Bool :=
  if i.closed then i.low ≤ x && x ≤ i.high else i.low < x && x < i.high

/-- The multiple of the grid in the interval that is nearest to the value, a tie going up, as the
number of steps of the grid. -/
def nearest? (i : Interval) (grid : Nat) : Option Nat :=
  let d := i.value / grid
  match i.holds (d * grid), i.holds ((d + 1) * grid) with
  | true, true => some (if i.value - d * grid < (d + 1) * grid - i.value then d else d + 1)
  | true, false => some d
  | false, true => some (d + 1)
  | false, false => none

end Interval

/-- One unit is cut into this many parts, so that all grids in use are whole numbers of parts. -/
def cut : Nat := 400

/-- The reals that round to a number of `units` whose neighbours are `spacing` units away. The
neighbour below a power of two is only half as far. -/
def rounding (units spacing : Nat) : Interval :=
  let part := Nat.pow 10 cut
  { low :=
      if units = Binary64.hiddenBit * spacing ∧ 1 < spacing then (4 * units - spacing) * part
      else (4 * units - 2 * spacing) * part
    value := 4 * units * part
    high := (4 * units + 2 * spacing) * part
    closed := units / spacing % 2 = 0 }

/-- The decimal exponent of the first digit of a value. -/
def magnitude (units : Nat) : Int :=
  ((Nat.toDigits 10 (units * Nat.pow 10 cut / Binary64.one)).length : Int) - 1 - cut

/-- The grid of the multiples of a power of ten, in the parts of `rounding`. -/
def grid (exponent : Int) : Nat :=
  Nat.pow 10 (exponent + cut).toNat * (4 * Binary64.one)

/-- The shortest decimal of a positive number of units. -/
def shortest (units spacing : Nat) : Decimal :=
  let interval := rounding units spacing
  let first := magnitude units
  let found := (List.range 17).findSome? fun (n : Nat) =>
    (interval.nearest? (grid (first - n))).map fun d => (d, first - (n : Int))
  let (steps, exponent) := found.getD (interval.value / grid (first - 16), first - 16)
  let digits := Nat.toDigits 10 steps
  ⟨(digits.reverse.dropWhile (· = '0')).reverse, exponent + digits.length⟩

end Decimal

/-- The shortest decimal of a number that is neither zero nor without a finite value. -/
def Binary64.shortest (x : Binary64) : Decimal :=
  Decimal.shortest x.units x.spacing

/-! ### Layouts -/

/-- The choices in which layouts differ. -/
structure Layout where
  /-- Whether a whole number is written with a zero behind the point. -/
  keepsPoint : Bool
  /-- The exponents of the first digit for which all places are written. -/
  positional : Int → Bool

namespace Layout

/-- All places are written, and a whole number has no point. -/
def plain : Layout := ⟨false, fun _ => true⟩

/-- All places are written from a ten-thousandth up to below ten to the sixteenth, and a whole number
keeps its point. -/
def diagnostic : Layout := ⟨true, fun e => -4 ≤ e && e < 16⟩

/-- The digits with all places written. -/
def positionalChars (l : Layout) (d : Decimal) : List Char :=
  let whole := if d.point ≤ 0 then ['0']
    else d.digits.take d.point.toNat ++ List.replicate (d.point.toNat - d.digits.length) '0'
  let places := if d.point ≤ 0 then List.replicate (-d.point).toNat '0' ++ d.digits
    else d.digits.drop d.point.toNat
  match places with
  | [] => if l.keepsPoint then whole ++ ['.', '0'] else whole
  | places => whole ++ '.' :: places

/-- One digit before the point, and the exponent of that digit. -/
def exponentChars (d : Decimal) : List Char :=
  let significand := match d.digits with
    | [] => ['0']
    | [c] => [c]
    | c :: cs => c :: '.' :: cs
  significand ++ 'e' :: (toString (d.point - 1)).toList

/-- The digits in the layout that their size asks for. -/
def decimalChars (l : Layout) (d : Decimal) : List Char :=
  if l.positional (d.point - 1) then l.positionalChars d else exponentChars d

/-- The text of a number. -/
def text (l : Layout) (x : Binary64) : String :=
  let signed (negative : Bool) (cs : List Char) := String.ofList (if negative then '-' :: cs else cs)
  match x.decode with
  | .notANumber => "NaN"
  | .infinite negative => signed negative ['i', 'n', 'f']
  | .finite negative 0 => signed negative (if l.keepsPoint then ['0', '.', '0'] else ['0'])
  | .finite negative _ => signed negative (l.decimalChars x.shortest)

example : plain.text ⟨0x3fb999999999999a#64⟩ = "0.1" ∧
    diagnostic.text ⟨0x4341c37937e08000#64⟩ = "1e16" := by
  constructor <;> decide +kernel

end Layout

end Courier
