import Courier.Proofs.Preparation
import Courier.Proofs.Resolution
import Courier.Proofs.Scanning

/-!
# What else a placeholder depends on

All placeholders that are filled together are filled from one table of texts. What stands for a
placeholder could therefore depend on the others, and in one case it does:

* `Composer.Mute`: a key is bound, but to a number that is not there, and so has no text of its own;
* `Composer.Usurped`: such a key gets a text all the same, because its bound parent serves another
  placeholder and derives one for it;
* `placed_eq_alone_iff`: in every other case a placeholder reads as it does alone.

So a text that is filled in is independent of what stands around it exactly where nothing is usurped,
and this goes for the templates of one record as for the placeholders of one template.
-/

namespace Courier

/-! ### Texts of a value under its own key -/

theorem Fragment.get?_singleton_self (k : Key) (own : String) :
    (Table.singleton k own : Fragment).get? k = some own := by
  show ((Table.empty : Fragment).insert k own).get? k = some own
  rw [Table.get?_insert, if_pos rfl]

theorem Fragment.get?_insertChild_ne_none {f : Fragment} {k k' : Key} (h : f.get? k' ≠ none)
    (segment text : String) : (f.insertChild k segment text).get? k' ≠ none := by
  rw [get?_insertChild]
  split
  · exact Option.some_ne_none text
  · exact h

namespace Resolver

/-- A location has a text of its own, which the texts below it leave in place. -/
theorem get?_locationFragment_self (r : Resolver) (k : Key) (l : Location) :
    (r.locationFragment k l).get? k ≠ none := by
  simp only [locationFragment, List.foldl_cons, List.foldl_nil]
  refine Fragment.get?_insertChild_ne_none ?_ _ _
  refine Fragment.get?_insertChild_ne_none ?_ _ _
  refine Fragment.get?_insertChild_ne_none ?_ _ _
  refine Fragment.get?_insertChild_ne_none ?_ _ _
  rw [Fragment.get?_singleton_self]
  exact Option.some_ne_none _

/-- **Only a number that is not there leaves its own key without a text.** -/
theorem get?_fragment_self_eq_none_iff (r : Resolver) (reader : Recipient) (k : Key) (v : Value) :
    (r.fragment reader k v).get? k = none ↔ v = .number none := by
  constructor
  · intro h
    rcases r.fragment_cases reader k v with ⟨l, rfl⟩ | ⟨w, rfl⟩ | hnone | ⟨own, hown⟩
    · exact absurd h (r.get?_locationFragment_self k l)
    · rw [show r.fragment reader k (.world w) = r.worldFragment k w from rfl] at h
      rw [worldFragment, Table.get?_insert, if_pos rfl] at h
      cases h
    · exact hnone
    · rw [hown, Fragment.get?_singleton_self] at h
      cases h
  · rintro rfl
    rfl

end Resolver

/-! ### Serving one key -/

namespace Context

variable {context : Context} {names : List String} {k p b : Key}

theorem contains_eq_isSome (context : Context) (k : Key) :
    context.bindings.contains k = (context.get? k).isSome := rfl

theorem Nearest.unique {b' : Key} (h : context.Nearest k b) (h' : context.Nearest k b') : b = b' := by
  rw [← nearest?_eq_some_iff] at h h'
  rw [h] at h'
  exact Option.some.inj h'

theorem serves_singleton_iff : context.Serves [k.text] b ↔ context.Nearest k b := by
  constructor
  · intro h
    obtain ⟨k', hmem, hnear⟩ := h
    rw [← Key.eq_of_text (List.mem_singleton.1 hmem)]
    exact hnear
  · exact fun hnear => ⟨k, List.mem_singleton.2 rfl, hnear⟩

theorem Serves.bound (h : context.Serves names b) : context.bindings.contains b = true := by
  obtain ⟨_, _, hnear⟩ := h
  exact hnear.bound

/-- A bound parent serves a key that is not bound, whatever else is asked for. -/
theorem serves_parent_iff (hk : k.text ∈ names) (hfree : context.bindings.contains k = false)
    (hparent : k.parent? = some p) :
    context.Serves names p ↔ context.Serves [k.text] p := by
  constructor
  · intro h
    exact serves_singleton_iff.2 (.above hfree hparent (.here h.bound))
  · intro h
    exact ⟨k, hk, serves_singleton_iff.1 h⟩

/-- A key that is bound is served by itself alone. -/
theorem not_serves_parent_alone (hbound : context.bindings.contains k = true)
    (hparent : k.parent? = some p) : ¬ context.Serves [k.text] p := by
  intro h
  exact Key.parent?_ne_self hparent ((Nearest.here hbound).unique (serves_singleton_iff.1 h))

end Context

/-! ### Placeholders alone and together -/

namespace Composer

/-- What stands for the placeholder of a key when the templates are filled together. -/
def placed (c : Composer) (context : Context) (templates : List String) (k : Key) : String :=
  ((c.results context templates).get? k).getD (c.delimiters.token k.text)

/-- A key is bound, but to a number that is not there. -/
def Mute (c : Composer) (context : Context) (k : Key) : Prop :=
  ∃ v, context.get? k = some v ∧ Adapter.adapted c.adapters v = .number none

/-- A mute key is given a text by its parent, which is bound and serves some of the names. -/
def Derived (c : Composer) (context : Context) (names : List String) (k : Key) (text : String) :
    Prop :=
  c.Mute context k ∧
    ∃ p, k.parent? = some p ∧ context.Serves names p ∧ (c.fragmentOf context p).get? k = some text

/-- A mute key is given another text than its token. -/
def Usurped (c : Composer) (context : Context) (templates : List String) (k : Key) : Prop :=
  ∃ text, c.Derived context (c.delimiters.distinctKeys templates) k text ∧
    text ≠ c.delimiters.token k.text

variable {c : Composer} {context : Context} {names : List String} {k : Key}

theorem contains_of_get? {v : Value} (h : context.get? k = some v) :
    context.bindings.contains k = true := by
  rw [Context.contains_eq_isSome, h]
  rfl

theorem mute_iff {v : Value} (h : context.get? k = some v) :
    c.Mute context k ↔ (c.fragmentOf context k).get? k = none := by
  rw [fragmentOf_of_get? h]
  show _ ↔ (c.resolver.fragment context.recipient k (Adapter.adapted c.adapters v)).get? k = none
  rw [Resolver.get?_fragment_self_eq_none_iff]
  constructor
  · intro hmute
    obtain ⟨v', hv', hnone⟩ := hmute
    rw [h] at hv'
    rw [Option.some.inj hv']
    exact hnone
  · exact fun hnone => ⟨v, h, hnone⟩

theorem Mute.get?_fragmentOf (h : c.Mute context k) : (c.fragmentOf context k).get? k = none := by
  obtain ⟨v, hv, hnone⟩ := h
  exact (mute_iff hv).1 ⟨v, hv, hnone⟩

theorem Mute.contains (h : c.Mute context k) : context.bindings.contains k = true := by
  obtain ⟨v, hv, -⟩ := h
  exact contains_of_get? hv

theorem get?_of_derived {text : String} (h : c.Derived context names k text) :
    (c.resolveKeys context names).get? k = some text := by
  obtain ⟨hmute, p, hparent, hp, htext⟩ := h
  rw [get?_resolveKeys_parent (fun _ => hmute.get?_fragmentOf) hparent hp]
  exact htext

/-- Alone, a mute key has no text. -/
theorem Mute.get?_alone (h : c.Mute context k) : (c.resolveKeys context [k.text]).get? k = none :=
  get?_resolveKeys_none (fun _ => h.get?_fragmentOf) fun _ hparent =>
    Context.not_serves_parent_alone h.contains hparent

/-- A bound key alone reads as its binding says. -/
theorem get?_alone_of_bound {v : Value} (h : context.get? k = some v) :
    (c.resolveKeys context [k.text]).get? k = (c.fragmentOf context k).get? k := by
  have hserves : context.Serves [k.text] k :=
    Context.serves_singleton_iff.2 (.here (contains_of_get? h))
  cases hown : (c.fragmentOf context k).get? k with
  | none => exact Mute.get?_alone ((mute_iff h).2 hown)
  | some text => exact get?_resolveKeys_own hserves hown

/-- A key that is not bound has what its parent derives, which is the same parent in any company. -/
theorem get?_eq_alone_of_free (hk : k.text ∈ names) (hfree : context.bindings.contains k = false) :
    (c.resolveKeys context names).get? k = (c.resolveKeys context [k.text]).get? k := by
  have hown : ∀ names' : List String, context.Serves names' k →
      (c.fragmentOf context k).get? k = none := by
    intro names' hserves
    rw [hserves.bound] at hfree
    cases hfree
  rw [get?_resolveKeys_of_own_none (hown names), get?_resolveKeys_of_own_none (hown [k.text])]
  cases hparent : k.parent? with
  | none => rfl
  | some p =>
    have hsame := Context.serves_parent_iff hk hfree hparent
    by_cases hp : context.Serves names p
    · show (if context.Serves names p then _ else none) = if context.Serves [k.text] p then _ else none
      rw [if_pos hp, if_pos (hsame.1 hp)]
    · show (if context.Serves names p then _ else none) = if context.Serves [k.text] p then _ else none
      rw [if_neg hp, if_neg fun h => hp (hsame.2 h)]

/-- A mute key that is given no text has none. -/
theorem Mute.get?_eq_none (hmute : c.Mute context k) (h : ∀ text, ¬ c.Derived context names k text) :
    (c.resolveKeys context names).get? k = none := by
  rw [get?_resolveKeys_of_own_none fun _ => hmute.get?_fragmentOf]
  cases hparent : k.parent? with
  | none => rfl
  | some p =>
    show (if context.Serves names p then (c.fragmentOf context p).get? k else none) = none
    by_cases hp : context.Serves names p
    · rw [if_pos hp]
      cases htext : (c.fragmentOf context p).get? k with
      | none => rfl
      | some text => exact absurd ⟨hmute, p, hparent, hp, htext⟩ (h text)
    · rw [if_neg hp]

/-- **A key that is given no text by its parent reads together with others as it does alone.** -/
theorem get?_eq_alone (hk : k.text ∈ names) (h : ∀ text, ¬ c.Derived context names k text) :
    (c.resolveKeys context names).get? k = (c.resolveKeys context [k.text]).get? k := by
  cases hv : context.get? k with
  | none =>
    refine get?_eq_alone_of_free hk ?_
    rw [Context.contains_eq_isSome, hv]
    rfl
  | some v =>
    rw [get?_alone_of_bound hv]
    cases hown : (c.fragmentOf context k).get? k with
    | some text => exact get?_resolveKeys_own ⟨k, hk, .here (contains_of_get? hv)⟩ hown
    | none => exact ((mute_iff hv).2 hown).get?_eq_none h

/-! ### Filled texts -/

variable {templates : List String} {text : String}

/-- A token alone is filled by what its key reads as alone. -/
theorem fill_token (c : Composer) (context : Context) (k : Key) :
    c.fill context (c.delimiters.token k.text) =
      ((c.resolveKeys context [k.text]).get? k).getD (c.delimiters.token k.text) := by
  show c.delimiters.substitute (c.delimiters.token k.text)
    (c.resolveKeys context (c.delimiters.distinctKeys [c.delimiters.token k.text])) = _
  rw [Delimiters.distinctKeys_token, Delimiters.substitute_token]

/-- **What stands for a placeholder is what its token alone gives, unless the key is usurped.** -/
theorem placed_eq_alone_iff (hk : k.text ∈ c.delimiters.distinctKeys templates) :
    c.placed context templates k = c.fill context (c.delimiters.token k.text) ↔
      ¬ c.Usurped context templates k := by
  rw [fill_token]
  show ((c.resolveKeys context (c.delimiters.distinctKeys templates)).get? k).getD _ = _ ↔ _
  constructor
  · intro hsame h
    obtain ⟨text, hderived, hdiffers⟩ := h
    rw [get?_of_derived hderived, hderived.1.get?_alone] at hsame
    exact hdiffers hsame
  · intro h
    by_cases hderived : ∃ text, c.Derived context (c.delimiters.distinctKeys templates) k text
    · obtain ⟨text, hderived⟩ := hderived
      rw [get?_of_derived hderived, hderived.1.get?_alone]
      exact Decidable.not_not.1 fun hdiffers => h ⟨text, hderived, hdiffers⟩
    · rw [get?_eq_alone hk fun text ht => hderived ⟨text, ht⟩]

/-- A bound key alone stands for the text of its own binding, or for its token if there is none. -/
theorem fill_token_of_bound {v : Value} (h : context.get? k = some v) :
    c.fill context (c.delimiters.token k.text) =
      ((c.fragmentOf context k).get? k).getD (c.delimiters.token k.text) := by
  rw [fill_token, get?_alone_of_bound h]

/-- A key that is usurped in one template is so in the company of others, by the same text. -/
theorem Derived.mono {names' : List String} (h : c.Derived context names k text)
    (hnames : ∀ name ∈ names, name ∈ names') : c.Derived context names' k text := by
  obtain ⟨hmute, p, hparent, ⟨k', hk', hnear⟩, htext⟩ := h
  exact ⟨hmute, p, hparent, ⟨k', hnames _ hk', hnear⟩, htext⟩

/-- Two companies fill a placeholder alike if the smaller one usurps its key whenever the larger does. -/
theorem placed_eq_of_usurped {template : String} (hmem : template ∈ templates)
    (hk : k.text ∈ c.delimiters.distinctKeys [template])
    (h : c.Usurped context templates k → c.Usurped context [template] k) :
    c.placed context templates k = c.placed context [template] k := by
  have hnames : ∀ name ∈ c.delimiters.distinctKeys [template],
      name ∈ c.delimiters.distinctKeys templates := fun name hname =>
    Delimiters.mem_distinctKeys.2 ⟨template, hmem, hname⟩
  by_cases husurped : c.Usurped context templates k
  · obtain ⟨text, hderived, -⟩ := h husurped
    rw [placed, placed, results, results, get?_of_derived hderived,
      get?_of_derived (hderived.mono hnames)]
  · have hsingle : ¬ c.Usurped context [template] k := by
      intro hwithin
      obtain ⟨text, hderived, hdiffers⟩ := hwithin
      exact husurped ⟨text, hderived.mono hnames, hdiffers⟩
    rw [(placed_eq_alone_iff (hnames _ hk)).2 husurped, (placed_eq_alone_iff hk).2 hsingle]

/-- The output is the text with a text for each placeholder, and this is the one that the token alone
gives from the same context, unless the key is usurped. -/
def FilledAsAlone (c : Composer) (context : Context) (templates : List String)
    (text output : String) : Prop :=
  ∃ (pieces : List (List Char × Key)) (last : List Char),
    Template.Scanned c.delimiters text.toList pieces last ∧
    output = String.ofList
      (Template.written (fun k => (c.placed (context.prepared none) templates k).toList) pieces last) ∧
    ∀ k ∈ pieces.map Prod.snd,
      c.placed (context.prepared none) templates k =
          (c.compose context (c.delimiters.token k.text)).1 ↔
        ¬ c.Usurped (context.prepared none) templates k

theorem filledAsAlone_substitute (c : Composer) (context : Context) (hmem : text ∈ templates) :
    c.FilledAsAlone context templates text
      (c.delimiters.substitute text (c.results (context.prepared none) templates)) := by
  obtain ⟨pieces, last, hscanned⟩ := Template.exists_scanned c.delimiters text.toList
  refine ⟨pieces, last, hscanned, Delimiters.substitute_of_scanned hscanned _, fun k hk => ?_⟩
  show _ = c.fill (context.prepared none) (c.delimiters.token k.text) ↔ _
  exact placed_eq_alone_iff (Delimiters.mem_distinctKeys.2
    ⟨text, hmem, (Delimiters.mem_distinctKeys_of_scanned hscanned).2 hk⟩)

end Composer

/-- The templates of a record. -/
def Record.templates (r : Record) : List String := [r.message, r.title, r.subtitle]

/-- A template of a record, and the text that it becomes. -/
structure Target where
  template : Record → String
  filled : Rendered → String

/-- The targets of composition. -/
def Target.all : List Target :=
  [⟨Record.message, Rendered.message⟩, ⟨Record.title, Rendered.title⟩,
    ⟨Record.subtitle, Rendered.subtitle⟩]

theorem Target.template_mem {target : Target} (h : target ∈ all) (r : Record) :
    target.template r ∈ r.templates := by
  simp only [all, List.mem_cons, List.not_mem_nil, or_false] at h
  rcases h with rfl | rfl | rfl
  · exact List.mem_cons_self
  · exact List.mem_cons_of_mem _ List.mem_cons_self
  · exact List.mem_cons_of_mem _ (List.mem_cons_of_mem _ List.mem_cons_self)

namespace Composer

theorem filled_composeRecord {target : Target} (h : target ∈ Target.all) (c : Composer)
    (context : Context) (r : Record) :
    target.filled (c.composeRecord context r).1 = c.delimiters.substitute (target.template r)
      (c.results (context.prepared (some r)) r.templates) := by
  simp only [Target.all, List.mem_cons, List.not_mem_nil, or_false] at h
  rcases h with rfl | rfl | rfl <;> rfl

/-- **Placeholders read as they do alone exactly where they are not usurped:** those of one template,
and those of the three templates of a record, of which each is filled as it is alone if none of its keys
is usurped through the others, so that the message does not depend on the title then. A key with a
binding, alone, reads as that says or stays as it is written. -/
theorem filled_as_alone_unless_usurped (c : Composer) (context : Context) :
    (∀ text : String, c.FilledAsAlone context [text] text (c.compose context text).1) ∧
    (∀ (r : Record), ∀ target ∈ Target.all,
      c.FilledAsAlone (context.prepared (some r)) r.templates (target.template r)
        (target.filled (c.composeRecord context r).1) ∧
      ((∀ k : Key, k.text ∈ c.delimiters.distinctKeys [target.template r] →
          c.Usurped (context.prepared (some r)) r.templates k →
          c.Usurped (context.prepared (some r)) [target.template r] k) →
        target.filled (c.composeRecord context r).1 =
          (c.compose (context.prepared (some r)) (target.template r)).1)) ∧
    (∀ (r : Record) (title subtitle : String),
      (∀ k : Key, k.text ∈ c.delimiters.distinctKeys [r.message] →
        ¬ c.Usurped (context.prepared (some r)) r.templates k ∧
        ¬ c.Usurped (context.prepared (some r)) [r.message, title, subtitle] k) →
      (c.composeRecord context { r with title, subtitle }).1.message =
        (c.composeRecord context r).1.message) ∧
    (∀ k v, (context.prepared none).get? k = some v →
      (c.compose context (c.delimiters.token k.text)).1 =
        ((c.fragmentOf (context.prepared none) k).get? k).getD (c.delimiters.token k.text)) := by
  refine ⟨fun text => ?_, fun r target htarget => ?_, fun r title subtitle h => ?_,
    fun k v hv => fill_token_of_bound hv⟩
  · exact c.filledAsAlone_substitute context (List.mem_singleton.2 rfl)
  · have hmem := Target.template_mem htarget r
    have hagain := context.prepared_prepared (some r)
    rw [filled_composeRecord htarget]
    constructor
    · have hfilled := c.filledAsAlone_substitute (context.prepared (some r)) hmem
      rw [hagain] at hfilled
      exact hfilled
    · intro h
      show _ = c.fill ((context.prepared (some r)).prepared none) (target.template r)
      rw [hagain]
      exact Delimiters.substitute_congr fun k hk => placed_eq_of_usurped hmem hk (h k hk)
  · have hmem : ∀ others : List String, r.message ∈ r.message :: others :=
      fun others => List.mem_cons_self
    show c.delimiters.substitute r.message
        (c.results (context.prepared (some r)) [r.message, title, subtitle]) =
      c.delimiters.substitute r.message (c.results (context.prepared (some r)) r.templates)
    refine Delimiters.substitute_congr fun k hk => ?_
    obtain ⟨hnow, hthen⟩ := h k hk
    exact (placed_eq_of_usurped (hmem _) hk fun hk' => absurd hk' hthen).trans
      (placed_eq_of_usurped (hmem _) hk fun hk' => absurd hk' hnow).symm

/-! ### A text that is not the key's own -/

/-- The key of a home. -/
def home : Key := ⟨"HOME", by decide +kernel⟩

/-- The key of its first coordinate. -/
def homeX : Key := ⟨"HOME.X", by decide +kernel⟩

/-- A home is bound, and for its first coordinate a number that is not there. -/
def lostCoordinate : Context :=
  ((Context.fresh (.named "Alex") ⟨"TEST", by decide +kernel⟩).put home
    (.location ⟨some ⟨"w"⟩, ⟨0x3ff0000000000000#64⟩, ⟨0x4000000000000000#64⟩,
      ⟨0x4008000000000000#64⟩⟩)).put homeX (.number none)

/-- The coordinate reads as the one of the home as soon as the home stands in the template too, and
stays as it is written when it is alone. -/
theorem lost_coordinate_usurped :
    ((ofConfig .standard).compose lostCoordinate "%HOME.X% %HOME%").1 = "1 w [1, 2, 3]" ∧
    ((ofConfig .standard).compose lostCoordinate "%HOME.X%").1 = "%HOME.X%" ∧
    ¬ ∀ (c : Composer) (context : Context) (text : String) (k : Key),
      k.text ∈ c.delimiters.distinctKeys [text] →
        c.placed (context.prepared none) [text] k =
          (c.compose context (c.delimiters.token k.text)).1 := by
  have hkeys : Delimiters.percent.distinctKeys ["%HOME.X% %HOME%"] = ["HOME.X", "HOME"] := by
    decide +kernel
  have hplaced : ∀ k : Key, k.text ∈ Delimiters.percent.distinctKeys ["%HOME.X% %HOME%"] →
      (ofConfig .standard).placed (lostCoordinate.prepared none) ["%HOME.X% %HOME%"] k =
        ((Table.ofList [(homeX, "1"), (home, "w [1, 2, 3]")] : Fragment).get? k).getD
          (Delimiters.percent.token k.text) := by
    intro k hk
    have hcases : k = homeX ∨ k = home := by
      rw [hkeys] at hk
      exact (List.mem_cons.1 hk).imp Key.eq_of_text fun h => Key.eq_of_text (List.mem_singleton.1 h)
    rw [placed, results, get?_resolveKeys]
    rcases hcases with rfl | rfl <;> decide +kernel
  have halone : ((ofConfig .standard).compose lostCoordinate "%HOME.X%").1 = "%HOME.X%" := by
    decide +kernel
  refine ⟨?_, halone, fun hlocal => ?_⟩
  · show Delimiters.percent.substitute "%HOME.X% %HOME%" _ = _
    rw [Delimiters.substitute_congr hplaced]
    decide +kernel
  · have hmem : homeX.text ∈ Delimiters.percent.distinctKeys ["%HOME.X% %HOME%"] := by
      rw [hkeys]
      exact List.mem_cons_self
    have hsame := hlocal (ofConfig .standard) lostCoordinate "%HOME.X% %HOME%" homeX hmem
    rw [hplaced homeX hmem,
      show (ofConfig .standard).delimiters.token homeX.text = "%HOME.X%" from rfl, halone] at hsame
    revert hsame
    decide +kernel

end Composer

end Courier
