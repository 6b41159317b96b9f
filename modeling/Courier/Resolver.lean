import Courier.Config.Basic
import Courier.Context

/-!
# Resolution of values

What a bound value reads as. A value gives a text under its key, and some kinds give further texts
under the keys just below: a location its world and its coordinates, a world its name. A number that
is not there gives nothing at all, while every other gap is filled by a text of the configuration.

## Main statements

* `get?_insertChild`: a text under a child key is found there and changes nothing else.
-/

namespace Courier

/-- The settings of resolution, and how worlds are called. -/
structure Resolver where
  config : Config
  namer : Namer

/-- The fragment with a text under the child of a key, if there is such a child. -/
def Fragment.insertChild (f : Fragment) (k : Key) (segment text : String) : Fragment :=
  match k.child? segment with
  | some child => f.insert child text
  | none => f

theorem Fragment.get?_insertChild (f : Fragment) (k k' : Key) (segment text : String) :
    (f.insertChild k segment text).get? k' =
      if k.child? segment = some k' then some text else f.get? k' := by
  cases h : k.child? segment with
  | none => simp [insertChild, h]
  | some child => simp [insertChild, h, eq_comm]

namespace Resolver

/-- The resolver that calls worlds by the aliases of the configuration. -/
def ofConfig (config : Config) : Resolver :=
  ⟨config, .aliases config.aliases⟩

/-- The name of a world, or the text for what is not known. -/
def worldName (r : Resolver) (w? : Option World) : String :=
  (w?.bind r.namer).getD r.config.unknownText

/-- The last known name of someone, or the text for what is not known. -/
def identityName (r : Resolver) (i : Identity) : String :=
  (i.name?.filter fun name => !Text.isBlank name).getD r.config.unknownText

/-- The name that items have of their own, else the one of their kind. -/
def itemName (i : ItemStack) : String :=
  (i.displayName?.filter fun name => !name.isEmpty).getD i.kind

/-- A location as a whole, and its world and coordinates below it. -/
def locationFragment (r : Resolver) (k : Key) (l : Location) : Fragment :=
  let world := r.worldName l.world?
  let (x, y, z) := l.block
  let whole := world ++ " [" ++ toString x ++ ", " ++ toString y ++ ", " ++ toString z ++ "]"
  let below : List (String × String) :=
    [("WORLD", world), ("X", toString x), ("Y", toString y), ("Z", toString z)]
  below.foldl (fun f e => f.insertChild k e.1 e.2) (.singleton k whole)

/-- A world by its name, which also stands below it. -/
def worldFragment (r : Resolver) (k : Key) (w : World) : Fragment :=
  let name := r.worldName (some w)
  (Fragment.insertChild .empty k "NAME" name).insert k name

/-- The texts of a value that is bound to a key, for a reader. -/
def fragment (r : Resolver) (reader : Recipient) (k : Key) : Value → Fragment
  | .recipient other => .singleton k other.displayName
  | .identity i => .singleton k (r.identityName i)
  | .item i => .singleton k (itemName i)
  | .location l => r.locationFragment k l
  | .world w => r.worldFragment k w
  | .duration d => .singleton k ((r.config.vocabulary reader.locale?).elapsed d)
  | .number (some n) => .singleton k n.text
  | .number none => .empty
  | .text s => .singleton k s
  | .null => .singleton k r.config.nullText
  | .object o => .singleton k o.display

/-- The texts of what is bound to a key in a context; an unbound key is as good as null. -/
def resolve (r : Resolver) (c : Context) (k : Key) : Fragment :=
  r.fragment c.recipient k ((c.get? k).getD .null)

end Resolver

end Courier
