import Courier.Record
import Courier.Resolver
import Courier.Template

/-!
# Composition

From templates and bindings to texts. Before a template is filled, what the recipient and the record
imply is bound, unless the key is bound already. A placeholder is served by the nearest bound key of
its lineage; what the served keys read as is laid together from the shallowest to the deepest, so that
a binding of its own prevails over one derived from a parent.

## Main statements

* `get?_supply`: a supplied binding counts only where nothing is bound.
-/

namespace Courier

/-! ### Implied bindings -/

namespace Key

/-- The recipient. -/
def player : Key := ⟨"PLAYER", by decide +kernel⟩

/-- The display name of the recipient. -/
def playerName : Key := ⟨"PLAYER_NAME", by decide +kernel⟩

/-- Where the recipient is. -/
def location : Key := ⟨"LOCATION", by decide +kernel⟩

/-- The world in which the recipient is. -/
def world : Key := ⟨"WORLD", by decide +kernel⟩

end Key

/-- What is implied by where someone is. -/
def Location.bindings (l : Location) : List (Key × Value) :=
  (l.world?.map fun w => (Key.world, Value.world w)).toList ++ [(Key.location, .location l)]

/-- What is implied by a recipient. -/
def Recipient.bindings (r : Recipient) : List (Key × Value) :=
  [(Key.player, .recipient r), (Key.playerName, .text r.displayName)] ++
    (r.location?.map Location.bindings).getD []

/-- What is implied by a record: its defaults. -/
def Record.bindings (r : Record) : List (Key × Value) :=
  r.defaults.entries.map fun e => (e.1, .text e.2)

namespace Context

/-- The context with bindings for keys that are not bound; of two for one key the first counts. -/
def supply (c : Context) (bindings : List (Key × Value)) : Context :=
  bindings.foldl (fun c b => c.putIfAbsent b.1 b.2) c

/-- The context with all that is implied. -/
def prepared (c : Context) (record? : Option Record) : Context :=
  (c.supply c.recipient.bindings).supply ((record?.map Record.bindings).getD [])

theorem recipient_supply (c : Context) (bindings : List (Key × Value)) :
    (c.supply bindings).recipient = c.recipient := by
  induction bindings generalizing c with
  | nil => rfl
  | cons b bs ih => exact (ih (c.putIfAbsent b.1 b.2)).trans rfl

theorem get?_supply (c : Context) (bindings : List (Key × Value)) (k : Key) :
    (c.supply bindings).get? k =
      (c.get? k).or ((bindings.find? fun b => b.1 = k).map (·.2)) := by
  induction bindings generalizing c with
  | nil => simp [supply]
  | cons b bs ih =>
    have step : c.supply (b :: bs) = (c.putIfAbsent b.1 b.2).supply bs := rfl
    rw [step, ih, get?_putIfAbsent, List.find?_cons]
    by_cases h : k = b.1
    · subst h
      cases c.get? b.1 <;> simp
    · have h' : b.1 ≠ k := fun e => h e.symm
      simp [h, h']

/-- The nearest key of the lineage that is bound. -/
def nearest? (c : Context) (k : Key) : Option Key :=
  k.lineage.find? c.bindings.contains

/-- The bound keys that serve the keys among the given texts, each where it first occurs. -/
def served (c : Context) (names : List String) : List Key :=
  (names.filterMap fun name => (Key.ofString? name).bind c.nearest?).eraseDups

end Context

/-! ### Composers -/

/-- How templates are filled. -/
structure Composer where
  delimiters : Delimiters
  resolver : Resolver
  /-- The adapters for bound host objects, in the order in which they are tried. -/
  adapters : List Adapter

namespace Composer

/-- The composer of a configuration. -/
def ofConfig (config : Config) : Composer :=
  ⟨config.style.delimiters, .ofConfig config, Adapter.standard⟩

/-- What a bound value reads as, after adaptation. -/
def fragment (c : Composer) (context : Context) (k : Key) (v : Value) : Fragment :=
  c.resolver.fragment context.recipient k (Adapter.adapted c.adapters v)

/-- What a key of a context reads as; nothing if it is not bound. -/
def fragmentOf (c : Composer) (context : Context) (k : Key) : Fragment :=
  ((context.get? k).map (c.fragment context k)).getD .empty

/-- The texts for the keys among the given texts. -/
def resolveKeys (c : Composer) (context : Context) (names : List String) : Fragment :=
  let fromShallow := (context.served names).mergeSort fun a b => decide (a.depth ≤ b.depth)
  (fromShallow.map (c.fragmentOf context)).foldl Table.merge .empty

/-- The texts that fill the given templates together. -/
def results (c : Composer) (context : Context) (templates : List String) : Fragment :=
  c.resolveKeys context (c.delimiters.distinctKeys templates)

/-- The template filled from a context in which everything implied is bound. -/
def fill (c : Composer) (context : Context) (template : String) : String :=
  c.delimiters.substitute template (c.results context [template])

/-- The templates of a record filled from a context in which everything implied is bound. -/
def fillRecord (c : Composer) (context : Context) (r : Record) : Rendered :=
  let results := c.results context [r.message, r.title, r.subtitle]
  { message := c.delimiters.substitute r.message results,
    title := c.delimiters.substitute r.title results,
    subtitle := c.delimiters.substitute r.subtitle results }

/-- The filled template, and the context with what was implied. -/
def compose (c : Composer) (context : Context) (template : String) : String × Context :=
  let context := context.prepared none
  (c.fill context template, context)

/-- The filled record, and the context with what was implied. -/
def composeRecord (c : Composer) (context : Context) (r : Record) : Rendered × Context :=
  let context := context.prepared (some r)
  (c.fillRecord context r, context)

end Composer

end Courier
