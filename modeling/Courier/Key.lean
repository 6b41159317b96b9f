import Courier.Table
import Courier.Text.Basic
import Courier.Text.Quoted

/-!
# Keys

A key names a message or a placeholder: a letter, then letters, digits, underscores and dots, all of
them ASCII. Dots part a key into segments, and each key but the shortest has a parent, the key before
its last dot.

Bindings and resolved texts are kept under keys, and asked for both by key and by the text of a key. A
text that is no key has no value.

## Main statements

* `ofString?_eq_some_iff`: a text becomes a key exactly when it fits the grammar, and stays itself.
* `length_parent?_lt`: parents get shorter, so the chain of ancestors ends.
-/

namespace Courier

/-- A character that can stand in a key after the first place. -/
def isKeyChar (c : Char) : Bool :=
  c.isAlphanum || c == '_' || c == '.'

/-- A letter, then any number of key characters. -/
def isKeyText : List Char → Bool
  | [] => false
  | c :: cs => c.isAlpha && cs.all isKeyChar

/-- A text that fits the grammar of keys. -/
structure Key where
  text : String
  valid : isKeyText text.toList = true
  deriving DecidableEq

/-- Why a text is not a key. -/
inductive KeyError where
  /-- What was given as the argument of this name is blank. -/
  | blank {argument : String}
  /-- The text is not blank and does not fit the grammar. -/
  | invalid (text : String)
  deriving DecidableEq, Repr

/-- The message for a text that is not a key. -/
def KeyError.message : KeyError → String
  | @blank argument => "Argument cannot be blank: " ++ argument
  | invalid text => "Invalid macro key: " ++ Text.quoted text

/-- The key is blank: the failure of a blank text that should have been one. -/
def KeyError.blankKey : KeyError := @blank "key"

namespace Key

instance : ToString Key := ⟨Key.text⟩

/-! ### Order -/

/-- Keys are ordered as their texts are, by code points. -/
instance : Ord Key := ⟨fun a b => compare a.text b.text⟩

instance : Std.TransOrd Key where
  eq_swap {a b} := Std.OrientedOrd.eq_swap (a := a.text) (b := b.text)
  isLE_trans {_ _ _} h₁ h₂ := Std.TransOrd.isLE_trans (α := String) h₁ h₂

instance : Std.LawfulEqOrd Key where
  compare_self {a} := Std.ReflOrd.compare_self (a := a.text)
  eq_of_compare {a b} h := by
    obtain ⟨s, hs⟩ := a
    obtain ⟨t, ht⟩ := b
    have : s = t := Std.LawfulEqOrd.compare_eq_iff_eq.1 h
    subst this
    rfl

/-! ### Reading -/

/-- The key with the given text, if the text fits the grammar. -/
def ofString? (s : String) : Option Key :=
  if h : isKeyText s.toList = true then some ⟨s, h⟩ else none

/-- The key with the given text, or the reason why there is none. -/
def parse (s : String) : Except KeyError Key :=
  match ofString? s with
  | some k => .ok k
  | none => .error (if Text.isBlank s then .blankKey else .invalid s)

theorem ofString?_eq_some_iff {s : String} {k : Key} : ofString? s = some k ↔ k.text = s := by
  unfold ofString?
  constructor
  · intro h
    split at h
    · simp_all [← Option.some.inj h]
    · simp at h
  · rintro rfl
    simp [k.valid]

@[simp] theorem ofString?_text (k : Key) : ofString? k.text = some k :=
  ofString?_eq_some_iff.2 rfl

theorem ofString?_eq_none_iff {s : String} :
    ofString? s = none ↔ isKeyText s.toList = false := by
  unfold ofString?
  split <;> simp_all

/-! ### The hierarchy -/

/-- The parts between the dots, of which some may be empty. -/
def segments (k : Key) : List String :=
  (k.text.toList.splitOn '.').map String.ofList

/-- How deep a key stands: the number of its segments. -/
def depth (k : Key) : Nat :=
  (k.text.toList.splitOn '.').length

/-- The characters before the last dot, if there is a dot. -/
def beforeLastDot? (cs : List Char) : Option (List Char) :=
  match cs.reverse.dropWhile (· ≠ '.') with
  | [] => none
  | _ :: r => some r.reverse

theorem length_beforeLastDot?_lt {cs ds : List Char} (h : beforeLastDot? cs = some ds) :
    ds.length < cs.length := by
  unfold beforeLastDot? at h
  split at h
  · simp at h
  · rename_i d r hr
    have h1 : (cs.reverse.dropWhile (· ≠ '.')).length ≤ cs.reverse.length :=
      (List.dropWhile_sublist _).length_le
    rw [hr] at h1
    simp only [List.length_cons, List.length_reverse] at h1
    have := Option.some.inj h
    simp only [← this, List.length_reverse]
    omega

/-- The key before the last dot. -/
def parent? (k : Key) : Option Key :=
  (beforeLastDot? k.text.toList).bind fun cs => ofString? (String.ofList cs)

/-- Parents get shorter. -/
theorem length_parent?_lt {k p : Key} (h : k.parent? = some p) :
    p.text.toList.length < k.text.toList.length := by
  obtain ⟨cs, hcs, hp⟩ := Option.bind_eq_some_iff.1 h
  have := length_beforeLastDot?_lt hcs
  rw [ofString?_eq_some_iff.1 hp, String.toList_ofList]
  exact this

/-- The parent, its parent and so on. -/
def ancestors (k : Key) : List Key :=
  match _h : k.parent? with
  | none => []
  | some p => p :: p.ancestors
termination_by k.text.toList.length
decreasing_by exact length_parent?_lt _h

/-- The key and its ancestors, the nearest first. -/
def lineage (k : Key) : List Key :=
  k :: k.ancestors

/-- The key with one more segment, which must not be empty. -/
def child? (k : Key) (segment : String) : Option Key :=
  if segment.isEmpty then none else ofString? (k.text ++ "." ++ segment)

end Key

/-! ### Tables under keys -/

/-- Values under keys. -/
abbrev KeyTable (ν : Type) := Table Key ν

/-- The texts that a binding gives, under its own key and the keys below it. -/
abbrev Fragment := KeyTable String

namespace Table

variable {ν : Type}

/-- The value under the key with the given text. -/
def named? (t : KeyTable ν) (name : String) : Option ν :=
  (Key.ofString? name).bind t.get?

/-- Whether there is a value under the key with the given text. -/
def hasNamed (t : KeyTable ν) (name : String) : Bool :=
  (t.named? name).isSome

/-- The table without the key of the given text. -/
def eraseNamed (t : KeyTable ν) (name : String) : KeyTable ν :=
  match Key.ofString? name with
  | some k => t.erase k
  | none => t

@[simp] theorem named?_text (t : KeyTable ν) (k : Key) : t.named? k.text = t.get? k := by
  simp [named?]

end Table

end Courier
