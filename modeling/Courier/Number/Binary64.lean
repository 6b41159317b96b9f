/-!
# Binary floating point

Sixty-four bits read as a sign, an exponent of eleven bits and a fraction of fifty-two. Every finite
value is a whole number of *units*, the unit being the smallest positive value, 2⁻¹⁰⁷⁴; so all
questions about such values are questions about natural numbers.

## Main statements

* `decode_eq_finite_iff`: which patterns are finite, and how many units they hold.
* `truncate`: the value without its fractional part, held inside a range of sixty-four bits.
-/

namespace Courier

/-- The least integer of sixty-four bits with a sign, -2⁶³. -/
def minInt64 : Int := -9223372036854775808

/-- The greatest integer of sixty-four bits with a sign, 2⁶³ - 1. -/
def maxInt64 : Int := 9223372036854775807

/-- The nearest integer of sixty-four bits with a sign. -/
def clampInt64 (n : Int) : Int :=
  max minInt64 (min maxInt64 n)

/-- A floating-point number, as its sixty-four bits. -/
structure Binary64 where
  bits : BitVec 64
  deriving DecidableEq, Repr

namespace Binary64

/-- What a pattern of bits stands for. -/
inductive Meaning where
  /-- A whole number of units, with a sign. -/
  | finite (negative : Bool) (units : Nat)
  | infinite (negative : Bool)
  | notANumber
  deriving DecidableEq, Repr

def negative (x : Binary64) : Bool := x.bits.msb

/-- The biased exponent. -/
def exponent (x : Binary64) : Nat := (x.bits.extractLsb' 52 11).toNat

def fraction (x : Binary64) : Nat := (x.bits.extractLsb' 0 52).toNat

/-- The exponent of patterns without a finite meaning, which has all of its bits set. -/
def topExponent : Nat := 2047

/-- The bit in front of the fraction that is not written down, 2⁵². -/
def hiddenBit : Nat := 4503599627370496

/-- How many units make one: the unit is 2⁻¹⁰⁷⁴. -/
def one : Nat := Nat.pow 2 1074

/-- The distance to the next pattern away from zero, in units. -/
def spacing (x : Binary64) : Nat := Nat.pow 2 (x.exponent - 1)

/-- The size of a pattern with a finite meaning, in units. -/
def units (x : Binary64) : Nat :=
  if x.exponent = 0 then x.fraction else (hiddenBit + x.fraction) * x.spacing

/-- The meaning of the bits. -/
def decode (x : Binary64) : Meaning :=
  if x.exponent = topExponent then
    if x.fraction = 0 then .infinite x.negative else .notANumber
  else .finite x.negative x.units

theorem decode_eq_finite_iff (x : Binary64) (n : Bool) (u : Nat) :
    x.decode = .finite n u ↔ x.exponent ≠ topExponent ∧ n = x.negative ∧ u = x.units := by
  unfold decode
  split
  · split <;> simp_all
  · simp_all [eq_comm]

/-- The integer part, in sixty-four bits: larger values are held at the ends of the range, and what
is not a number counts as zero. -/
def truncate (x : Binary64) : Int :=
  match x.decode with
  | .finite false u => clampInt64 (u / one : Nat)
  | .finite true u => clampInt64 (-(u / one : Nat))
  | .infinite false => maxInt64
  | .infinite true => minInt64
  | .notANumber => 0

/-- The pattern with the given fields. -/
def ofFields (negative : Bool) (exponent fraction : Nat) : Binary64 :=
  ⟨BitVec.ofBool negative ++ BitVec.ofNat 11 exponent ++ BitVec.ofNat 52 fraction⟩

/-- The same number as a pattern of thirty-two bits: a sign, an exponent of eight bits and a fraction
of twenty-three, which gets twenty-nine zeros. The exponents differ by 896 in their bias. A number
without a hidden bit gets one here, its highest bit. -/
def ofBinary32 (bits : BitVec 32) : Binary64 :=
  let negative := bits.msb
  let exponent := (bits.extractLsb' 23 8).toNat
  let fraction := (bits.extractLsb' 0 23).toNat
  if exponent = 255 then ofFields negative topExponent (fraction <<< 29)
  else if exponent = 0 then
    if fraction = 0 then ofFields negative 0 0
    else
      let top := fraction.log2
      ofFields negative (top + 874) ((fraction - 1 <<< top) <<< (52 - top))
  else ofFields negative (exponent + 896) (fraction <<< 29)

example : truncate ⟨0xbff8000000000000#64⟩ = -1 := by decide +kernel

example : ofBinary32 1#32 = ⟨0x36a0000000000000#64⟩ := by decide +kernel

end Binary64

end Courier
