import Courier.Key
import Courier.Value

/-!
# Diagnostic texts

Values as they are shown to those who look after the program: the kind, and inside it every field by
its name, with texts in quotes.
-/

namespace Courier

namespace Diagnostic

/-- A named form around one content. -/
def wrapped (name content : String) : String :=
  name ++ "(" ++ content ++ ")"

/-- A named form with named fields. -/
def record (name : String) (fields : List (String × String)) : String :=
  name ++ " \x7b " ++ String.intercalate ", " (fields.map fun f => f.1 ++ ": " ++ f.2) ++ " \x7d"

/-- A content that may be missing. -/
def optional : Option String → String
  | some content => wrapped "Some" content
  | none => "None"

/-- A number of thousands with their remainder as decimal places, without zeros at the end. -/
def scaled (n scale places : Nat) : String :=
  let whole := toString (n / scale)
  match ((Text.padded 10 places (n % scale)).reverse.dropWhile (· = '0')).reverse with
  | [] => whole
  | decimals => whole ++ "." ++ String.ofList decimals

/-- A duration in the largest of four units that it reaches. -/
def duration (d : Duration) : String :=
  let n := d.nanoseconds
  if 1000000000 ≤ n then scaled n 1000000000 9 ++ "s"
  else if 1000000 ≤ n then scaled n 1000000 6 ++ "ms"
  else if 1000 ≤ n then scaled n 1000 3 ++ "µs"
  else toString n ++ "ns"

def number : Number → String
  | .int n => wrapped "Int" (toString n)
  | .float x => wrapped "Float" (Layout.diagnostic.text x)

def world (w : World) : String :=
  record "World" [("name", Text.quoted w.name)]

def location (l : Location) : String :=
  record "Location"
    [("world", optional (l.world?.map world)), ("x", Layout.diagnostic.text l.x),
      ("y", Layout.diagnostic.text l.y), ("z", Layout.diagnostic.text l.z)]

def item (i : ItemStack) : String :=
  record "ItemStack"
    [("kind", Text.quoted i.kind), ("display_name", optional (i.displayName?.map Text.quoted)),
      ("amount", toString i.amount)]

def identity (i : Identity) : String :=
  record "Identity" [("id", i.id.text), ("name", optional (i.name?.map Text.quoted))]

/-- A key by its text. -/
def key (k : Key) : String :=
  wrapped "RecordKey" (Text.quoted k.text)

/-- A value by its kind and content. Recipients and host objects show a single text. -/
def value : Value → String
  | .recipient r => wrapped "Recipient" (Text.quoted r.name)
  | .identity i => wrapped "Identity" (identity i)
  | .item i => wrapped "Item" (item i)
  | .location l => wrapped "Location" (location l)
  | .world w => wrapped "World" (world w)
  | .duration d => wrapped "Duration" (duration d)
  | .number n => wrapped "Number" (optional (n.map number))
  | .text s => wrapped "Text" (Text.quoted s)
  | .null => "Null"
  | .object o => wrapped "Object" (Text.quoted o.display)

end Diagnostic

end Courier
