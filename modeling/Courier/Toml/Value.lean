/-!
# Values of a document

The tree that a TOML document describes, and how it grows. Every table remembers what brought it
about, because that decides what may still be added to it: a table has at most one header of its
own, dotted keys add only to tables that have none and never will, and what is written in braces or
brackets is complete. A table that so far was only on the way to others has no header yet: a dotted key
may add to it, and takes it over.

## Main statements

* `find?_assign`: a value that is assigned under a plain name is found there.
* `assign_of_implied`, `assign_of_declared`: whether a dotted key may add to a table.
-/

namespace Courier.Toml

/-- What brought a table about. -/
inductive Origin where
  /-- A header of its own, or the document itself. -/
  | declared
  /-- A header of a table below it. -/
  | implied
  /-- A dotted key, or headers below it and then a dotted key. -/
  | dotted
  /-- Braces. -/
  | inline
  deriving DecidableEq, Repr

/-- The origin of a table to which a path has led, where the path makes missing tables with the
origin `making`: what was only on the way to others is as if the path had made it. -/
def Origin.reached (making : Origin) : Origin → Origin
  | .implied => making
  | origin => origin

/-- A value of a document. -/
inductive Value where
  | text (s : String)
  /-- An integer or a float, and whether it is small enough to be held. -/
  | number (written : String) (isHeld : Bool)
  | boolean (b : Bool)
  /-- A date, a time of day, or both, in normal form. -/
  | moment (normal : String)
  /-- Items in brackets, or tables under a common header, which can become more. -/
  | array (growing : Bool) (items : List Value)
  | table (origin : Origin) (entries : List (String × Value))

/-! ### Sound values -/

mutual

/-- Whether all numbers in a value are held. -/
def Value.isSound : Value → Bool
  | .number _ isHeld => isHeld
  | .array _ items => Value.areSound items
  | .table _ es => Entries.isSound es
  | _ => true

/-- Whether all numbers in some items are held. -/
def Value.areSound : List Value → Bool
  | [] => true
  | v :: vs => v.isSound && Value.areSound vs

/-- Whether all numbers in some entries are held. -/
def Entries.isSound : List (String × Value) → Bool
  | [] => true
  | (_, v) :: es => v.isSound && Entries.isSound es

end

/-! ### Entries -/

/-- The named values of a table. -/
abbrev Entries := List (String × Value)

namespace Entries

/-- The value under a name. -/
def find? (name : String) : Entries → Option Value
  | [] => none
  | e :: es => if e.1 = name then some e.2 else find? name es

/-- The entries with a value written under a name. -/
def write (name : String) (v : Value) : Entries → Entries
  | [] => [(name, v)]
  | e :: es => if e.1 = name then (name, v) :: es else e :: write name v es

theorem find?_write (name other : String) (v : Value) (es : Entries) :
    find? other (es.write name v) = if name = other then some v else find? other es := by
  induction es with
  | nil => simp [write, find?]
  | cons e es ih =>
    by_cases h : e.1 = name
    · by_cases h' : name = other <;> simp [write, find?, h, h']
    · by_cases h' : e.1 = other
      · have hn : ¬ name = other := fun h'' => h (h'.trans h''.symm)
        have ho : ¬ other = name := fun h'' => hn h''.symm
        simp [write, find?, h', hn, ho]
      · simp [write, find?, h, h', ih]

/-- Changes the table at the end of a path, with the tables on the way. Missing tables are made with
the given origin; a path of dotted keys may not pass a table that has a header. -/
def change (making : Origin) (edit : Origin → Entries → Option Entries) :
    List String → Origin → Entries → Option Entries
  | [], origin, es => edit origin es
  | name :: path, _, es =>
    match es.find? name with
    | none =>
      (change making edit path making []).map fun sub => es.write name (.table making sub)
    | some (.table .inline _) => none
    | some (.table origin sub) =>
      if making = .dotted ∧ origin = .declared then none
      else
        (change making edit path origin sub).map fun sub =>
          es.write name (.table (making.reached origin) sub)
    | some (.array true items) =>
      match items.getLast? with
      | some (.table origin sub) =>
        (change making edit path origin sub).map fun sub =>
          es.write name (.array true (items.dropLast ++ [.table origin sub]))
      | _ => none
    | some _ => none

/-- A value under a name that has none yet. -/
def add (name : String) (v : Value) (es : Entries) : Option Entries :=
  if (es.find? name).isNone then some (es.write name v) else none

/-- Assigns a value to a dotted key, of which the names before the last one are `path`. A table that was
only on the way to others is passed, or added to, like one that dotted keys have made. -/
def assign (path : List String) (name : String) (v : Value) (es : Entries) : Option Entries :=
  es.change .dotted
    (fun origin es => if path ≠ [] ∧ origin = .declared then none else es.add name v)
    path .declared

theorem find?_assign {name : String} {v : Value} {es es' : Entries}
    (h : es.assign [] name v = some es') : find? name es' = some v := by
  simp only [assign, change, ne_eq, not_true_eq_false, false_and, if_false, add] at h
  split at h
  · rw [← Option.some.inj h, find?_write, if_pos rfl]
  · simp at h

/-- **A dotted key takes over a table that was only on the way to others.** From then on the table can have
no header. -/
theorem assign_of_implied {name last : String} {v : Value} {es sub : Entries}
    (htable : es.find? name = some (.table .implied sub)) (hfree : sub.find? last = none) :
    es.assign [name] last v = some (es.write name (.table .dotted (sub.write last v))) := by
  have hadd : sub.add last v = some (sub.write last v) := by
    rw [add, hfree]
    rfl
  simp [assign, change, htable, hadd, Origin.reached]

/-- **A dotted key does not pass a table with a header.** -/
theorem assign_of_declared {name last : String} {path : List String} {v : Value} {es sub : Entries}
    (htable : es.find? name = some (.table .declared sub)) : es.assign (name :: path) last v = none := by
  simp [assign, change, htable]

/-- The header of a table: a new one, or one that so far was only on the way to others. -/
def declare (path : List String) (name : String) (es : Entries) : Option Entries :=
  es.change .implied
    (fun _ es =>
      match es.find? name with
      | none => some (es.write name (.table .declared []))
      | some (.table .implied sub) => some (es.write name (.table .declared sub))
      | some _ => none)
    path .declared

/-- The header of one more table of an array. -/
def declareItem (path : List String) (name : String) (es : Entries) : Option Entries :=
  es.change .implied
    (fun _ es =>
      match es.find? name with
      | none => some (es.write name (.array true [.table .declared []]))
      | some (.array true items) =>
        some (es.write name (.array true (items ++ [.table .declared []])))
      | some _ => none)
    path .declared

/-- Assigns below the table that the latest header has named. -/
def assignBelow (header path : List String) (name : String) (v : Value) (es : Entries) :
    Option Entries :=
  es.change .implied (fun _ es => es.assign path name v) header .declared

end Entries

end Courier.Toml
