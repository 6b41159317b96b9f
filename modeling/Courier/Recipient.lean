import Courier.Number.Binary64
import Courier.Table
import Courier.Text.Basic

/-!
# Recipients

Whoever can be sent a message. Only the name is certain: the console, for one, is nowhere and has no
identifier, and so cannot be told apart by one.

An identifier has a hundred and twenty-eight bits, and is written as thirty-two hexadecimal digits in
groups of 8, 4, 4, 4 and 12. A recipient who is somewhere has a location, a point that may belong to a
world. It is shown by its block, the whole numbers towards zero. A world is known by its raw name; what
readers see instead is up to a namer.
-/

namespace Courier

/-! ### Identifiers -/

/-- An identifier of a hundred and twenty-eight bits. -/
structure Uuid where
  bits : BitVec 128
  deriving DecidableEq, Repr

namespace Uuid

/-- Identifiers are ordered as numbers. -/
instance : Ord Uuid := ⟨fun a b => compare a.bits.toNat b.bits.toNat⟩

instance : Std.TransOrd Uuid where
  eq_swap {a b} := Std.OrientedOrd.eq_swap (a := a.bits.toNat) (b := b.bits.toNat)
  isLE_trans {_ _ _} h₁ h₂ := Std.TransOrd.isLE_trans (α := Nat) h₁ h₂

instance : Std.LawfulEqOrd Uuid where
  compare_self {a} := Std.ReflOrd.compare_self (a := a.bits.toNat)
  eq_of_compare {a b} h := by
    obtain ⟨x⟩ := a
    obtain ⟨y⟩ := b
    have : x.toNat = y.toNat := Std.LawfulEqOrd.compare_eq_iff_eq.1 h
    rw [BitVec.eq_of_toNat_eq this]

/-- The sizes of the groups of digits. -/
def groups : List Nat := [8, 4, 4, 4, 12]

/-- The identifier with the given written form, with or without the hyphens. -/
def ofString? (s : String) : Option Uuid := do
  let parts := s.toList.splitOn '-'
  guard (parts.map List.length = groups ∨ parts.map List.length = [32])
  guard (parts.flatten.all Text.isHexDigit)
  return ⟨BitVec.ofNat 128 (Text.number 16 parts.flatten)⟩

/-- The list cut into pieces of the given sizes. -/
def cut : List Nat → List Char → List (List Char)
  | [], _ => []
  | n :: ns, cs => cs.take n :: cut ns (cs.drop n)

/-- The written form of an identifier. -/
def text (u : Uuid) : String :=
  String.ofList (List.intercalate ['-'] (cut groups (Text.padded 16 32 u.bits.toNat)))

instance : ToString Uuid := ⟨text⟩

example : (ofString? "00000000-0000-4000-8000-0000000000Af").map text =
    some "00000000-0000-4000-8000-0000000000af" := by decide +kernel

end Uuid

/-! ### Worlds and locations -/

/-- A world, by its raw name. -/
structure World where
  name : String
  deriving DecidableEq, Repr

/-- A point, perhaps in a world. -/
structure Location where
  world? : Option World
  x : Binary64
  y : Binary64
  z : Binary64
  deriving DecidableEq, Repr

/-- The coordinates without their fractions. -/
def Location.block (l : Location) : Int × Int × Int :=
  (l.x.truncate, l.y.truncate, l.z.truncate)

/-- The name of a world that readers see, if there is a usable one. -/
abbrev Namer := World → Option String

namespace Namer

/-- The raw name without surrounding white space, unless it is blank. -/
def plain : Namer := fun w => Text.nonBlank? w.name

/-- The alias of the raw name if it is not blank, else the raw name. -/
def aliases (table : Table String String) : Namer := fun w =>
  ((table.get? w.name).bind Text.nonBlank?).or (plain w)

end Namer

/-! ### Recipients -/

/-- Whoever can be sent a message. -/
structure Recipient where
  name : String
  displayName : String
  id? : Option Uuid
  locale? : Option String
  location? : Option Location
  /-- Whether titles are shown as such; if not, their lines go to chat. -/
  showsTitles : Bool
  deriving DecidableEq, Repr

/-- A recipient of whom only the name is known. -/
def Recipient.named (name : String) : Recipient :=
  { name, displayName := name, id? := none, locale? := none, location? := none,
    showsTitles := false }

end Courier
