import Courier.Proofs.Loading
import Mathlib.Data.List.TakeWhile

/-!
# Texts with references to the environment

A text falls into verbatim text and references in exactly one way: each reference goes from the next
opening to the first closing brace behind it, and the last piece of verbatim text has no reference left.

* `Environment.Asks`: what a reference asks for, its variable and its default;
* `Environment.Referring`: the decomposition of a text, `Referring.unique`: there is no other;
* `Referring.expandChars_eq`: the pieces are put together again with the texts of the references, unless
  one of them has none, and then the first of these is told;
* `Config.references_resolved_in_order`: all of this, and which field of a document is reported.
-/

namespace Courier

namespace Environment

variable {env env' : Environment}

/-! ### Pairs of signs -/

/-- A pair of signs does not start in a text without it, if its second sign does not come next. -/
theorem not_prefix_append {a b c : Char} {gap behind : List Char} (hgap : ¬ [a, b] <:+: c :: gap)
    (hbehind : behind.head? ≠ some b) : ¬ [a, b] <+: c :: (gap ++ behind) := by
  intro hopens
  obtain ⟨rest, hrest⟩ := hopens
  cases gap with
  | nil =>
    obtain ⟨-, rfl⟩ : a = c ∧ b :: rest = behind := by simpa using hrest
    exact hbehind rfl
  | cons g gap =>
    obtain ⟨rfl, rfl, -⟩ : a = c ∧ b = g ∧ rest = gap ++ behind := by simpa using hrest
    exact hgap (List.IsPrefix.isInfix ⟨gap, rfl⟩)

/-! ### What a reference asks for -/

/-- What the inside of a reference asks for. The name of the variable ends before the first `:-`, and the
default is what comes behind that; where no name comes before it, the inside is the name as a whole. -/
inductive Asks : List Char → List Char → Option (List Char) → Prop where
  | withDefault {name default : List Char} : name ≠ [] → ¬ [':', '-'] <:+: name →
      Asks (name ++ ':' :: '-' :: default) name (some default)
  | nameless {default : List Char} : Asks (':' :: '-' :: default) (':' :: '-' :: default) none
  | plain {name : List Char} : ¬ [':', '-'] <:+: name → Asks name name none

theorem cutDefault?_cons {c : Char} {cs : List Char} (h : ¬ [':', '-'] <+: c :: cs) :
    cutDefault? (c :: cs) = (cutDefault? cs).map fun parts => (c :: parts.1, parts.2) := by
  rw [cutDefault?]
  rintro cs' rfl rfl
  exact h ⟨cs', rfl⟩

theorem cutDefault?_append {name default : List Char} (h : ¬ [':', '-'] <:+: name) :
    cutDefault? (name ++ ':' :: '-' :: default) = some (name, default) := by
  induction name with
  | nil => rw [List.nil_append, cutDefault?]
  | cons c name ih =>
    have hname : ¬ [':', '-'] <:+: name := fun hlater => h (List.infix_cons hlater)
    rw [List.cons_append, cutDefault?_cons (not_prefix_append h (by simp)), ih hname]
    rfl

theorem cutDefault?_of_not_infix {cs : List Char} (h : ¬ [':', '-'] <:+: cs) :
    cutDefault? cs = none := by
  induction cs with
  | nil => rfl
  | cons c cs ih =>
    obtain ⟨hopens, hlater⟩ := not_or.1 (mt List.infix_cons_iff.2 h)
    rw [cutDefault?_cons hopens, ih hlater]
    rfl

/-- A text without a `:-`, or with a first one. -/
theorem exists_cut (cs : List Char) :
    ¬ [':', '-'] <:+: cs ∨
      ∃ name default, cs = name ++ ':' :: '-' :: default ∧ ¬ [':', '-'] <:+: name := by
  induction cs with
  | nil => exact .inl (by simp)
  | cons c cs ih =>
    by_cases hopens : [':', '-'] <+: c :: cs
    · obtain ⟨default, hdefault⟩ := hopens
      exact .inr ⟨[], default, hdefault.symm, by simp⟩
    · rcases ih with hnone | ⟨name, default, rfl, hname⟩
      · exact .inl fun h => (List.infix_cons_iff.1 h).elim hopens hnone
      · refine .inr ⟨c :: name, default, rfl, fun h => ?_⟩
        rcases List.infix_cons_iff.1 h with h | h
        · exact hopens (h.trans ⟨':' :: '-' :: default, rfl⟩)
        · exact hname h

theorem Asks.nameAndDefault_eq {inside name : List Char} {default? : Option (List Char)}
    (h : Asks inside name default?) : nameAndDefault inside = (name, default?) := by
  cases h with
  | @withDefault name default hname hfirst =>
    cases name with
    | nil => exact absurd rfl hname
    | cons c name => rw [nameAndDefault, cutDefault?_append hfirst]
  | nameless => rw [nameAndDefault, cutDefault?]
  | plain hnone => rw [nameAndDefault, cutDefault?_of_not_infix hnone]

/-- What is read off the inside of a reference is what it asks for. -/
theorem nameAndDefault_eq_iff {inside name : List Char} {default? : Option (List Char)} :
    nameAndDefault inside = (name, default?) ↔ Asks inside name default? := by
  refine ⟨fun h => ?_, Asks.nameAndDefault_eq⟩
  have hasks : ∃ name' default?', Asks inside name' default?' := by
    rcases exists_cut inside with hnone | ⟨name', default, rfl, hfirst⟩
    · exact ⟨inside, none, .plain hnone⟩
    · cases name' with
      | nil => exact ⟨_, none, .nameless⟩
      | cons c name' => exact ⟨_, some default, .withDefault (List.cons_ne_nil _ _) hfirst⟩
  obtain ⟨name', default?', hasks⟩ := hasks
  rw [hasks.nameAndDefault_eq] at h
  obtain ⟨rfl, rfl⟩ := Prod.mk.inj h
  exact hasks

/-- The variable of a reference. -/
def variableOf (inside : List Char) : String :=
  String.ofList (nameAndDefault inside).1

/-- The text of a reference: the value of its variable, also if that is empty, or else its default. -/
def value? (env : Environment) (inside : List Char) : Option (List Char) :=
  ((env (variableOf inside)).map String.toList).or (nameAndDefault inside).2

theorem resolve_eq (env : Environment) (inside : List Char) :
    env.resolve inside =
      match env.value? inside with
      | some text => .ok text
      | none => .error ⟨variableOf inside⟩ := by
  rw [resolve, value?, variableOf]
  obtain ⟨name, default?⟩ := nameAndDefault inside
  cases hvalue : env (String.ofList name) with
  | some value => simp [hvalue]
  | none =>
    cases default? with
    | some default => simp [hvalue]
    | none => simp [hvalue]

/-! ### Where references stand -/

/-- A reference as it is written around its inside. -/
def referenceChars (inside : List Char) : List Char :=
  '$' :: '\x7b' :: (inside ++ ['\x7d'])

/-- There is no reference that both opens and closes in a text. -/
def HasNoReference (cs : List Char) : Prop :=
  ∀ before inside behind, cs ≠ before ++ (referenceChars inside ++ behind)

theorem ne_closing_of_mem {cs : List Char} (h : '\x7d' ∉ cs) :
    ∀ c ∈ cs, decide (c ≠ '\x7d') = true := by
  intro c hc
  rw [decide_eq_true_iff]
  rintro rfl
  exact h hc

theorem reference?_append {inside rest : List Char} (h : '\x7d' ∉ inside) :
    reference? (referenceChars inside ++ rest) = some (inside, rest) := by
  show reference? ('$' :: '\x7b' :: (inside ++ ['\x7d'] ++ rest)) = _
  rw [reference?, List.append_assoc, List.dropWhile_append_of_pos (ne_closing_of_mem h),
    List.takeWhile_append_of_pos (ne_closing_of_mem h)]
  simp

theorem reference?_of_not_opened {cs : List Char} (h : ¬ ['$', '\x7b'] <+: cs) :
    reference? cs = none := by
  unfold reference?
  split
  · exact absurd ⟨_, rfl⟩ h
  · rfl

theorem reference?_of_not_closed {cs : List Char} (h : '\x7d' ∉ cs) :
    reference? ('$' :: '\x7b' :: cs) = none := by
  rw [reference?, List.dropWhile_eq_nil_iff.2 (ne_closing_of_mem h)]

/-- A text starts with a reference that ends at the first closing brace, or else with none at all. -/
theorem reference?_cases (cs : List Char) :
    (∃ inside rest, '\x7d' ∉ inside ∧ cs = referenceChars inside ++ rest) ∨
      reference? cs = none ∧ ∀ inside rest, cs ≠ referenceChars inside ++ rest := by
  by_cases hopened : ['$', '\x7b'] <+: cs
  · obtain ⟨cs, rfl⟩ := hopened
    by_cases hclosed : '\x7d' ∈ cs
    · obtain ⟨inside, rest, rfl, hfirst⟩ := List.eq_append_cons_of_mem hclosed
      exact .inl ⟨inside, rest, hfirst, by simp [referenceChars]⟩
    · refine .inr ⟨reference?_of_not_closed hclosed, fun inside rest hcs => hclosed ?_⟩
      have hbehind : cs = inside ++ '\x7d' :: rest := by simpa [referenceChars] using hcs
      simp [hbehind]
  · refine .inr ⟨reference?_of_not_opened hopened, fun inside rest hcs => hopened ?_⟩
    exact ⟨inside ++ ['\x7d'] ++ rest, by rw [hcs]; rfl⟩

/-! ### The decomposition -/

/-- A text in pieces, each of them verbatim text and the inside of the reference behind it, and last
verbatim text. A reference goes from the next opening to the first closing brace behind it. -/
inductive Referring : List Char → List (List Char × List Char) → List Char → Prop where
  | verbatim {last : List Char} : HasNoReference last → Referring last [] last
  | reference {gap inside rest last : List Char} {pieces : List (List Char × List Char)} :
      ¬ ['$', '\x7b'] <:+: gap → '\x7d' ∉ inside → Referring rest pieces last →
      Referring (gap ++ (referenceChars inside ++ rest)) ((gap, inside) :: pieces) last

/-- Pieces written one after the other, with a text for each of the references. -/
def written (textOf : List Char → List Char) (pieces : List (List Char × List Char))
    (last : List Char) : List Char :=
  (pieces.flatMap fun piece => piece.1 ++ textOf piece.2) ++ last

theorem written_cons (textOf : List Char → List Char) (piece : List Char × List Char)
    (pieces : List (List Char × List Char)) (last : List Char) :
    written textOf (piece :: pieces) last =
      piece.1 ++ (textOf piece.2 ++ written textOf pieces last) := by
  rw [written, written, List.flatMap_cons, List.append_assoc, List.append_assoc]

/-- What comes next in a text: verbatim text to its end, or up to a reference. -/
theorem exists_gap (cs : List Char) :
    HasNoReference cs ∨ ∃ gap inside rest, cs = gap ++ (referenceChars inside ++ rest) ∧
      ¬ ['$', '\x7b'] <:+: gap ∧ '\x7d' ∉ inside := by
  induction cs with
  | nil => exact .inl fun before inside behind h => by simp [referenceChars] at h
  | cons c cs ih =>
    rcases reference?_cases (c :: cs) with ⟨inside, rest, hfirst, hcs⟩ | ⟨-, hnone⟩
    · exact .inr ⟨[], inside, rest, hcs, by simp, hfirst⟩
    · rcases ih with hverbatim | ⟨gap, inside, rest, rfl, hgap, hfirst⟩
      · refine .inl fun before inside behind hcs => ?_
        cases before with
        | nil => exact hnone inside behind hcs
        | cons b before => exact hverbatim before inside behind (List.cons.inj hcs).2
      · refine .inr ⟨c :: gap, inside, rest, rfl, fun hopened => ?_, hfirst⟩
        rcases List.infix_cons_iff.1 hopened with ⟨seen, hseen⟩ | hopened
        · refine hnone (seen ++ '$' :: '\x7b' :: inside) rest ?_
          show (c :: gap) ++ (referenceChars inside ++ rest) = _
          rw [← hseen]
          simp [referenceChars]
        · exact hgap hopened

/-- Every text has such a decomposition: behind a reference the rest is shorter. -/
theorem exists_referring (cs : List Char) : ∃ pieces last, Referring cs pieces last := by
  rcases exists_gap cs with hverbatim | ⟨gap, inside, rest, hcs, hgap, hfirst⟩
  · exact ⟨[], cs, .verbatim hverbatim⟩
  · have hlength : rest.length < cs.length := by
      rw [hcs, List.length_append, List.length_append, referenceChars, List.length_cons]
      omega
    obtain ⟨pieces, last, hrest⟩ := exists_referring rest
    exact ⟨(gap, inside) :: pieces, last, hcs ▸ .reference hgap hfirst hrest⟩
termination_by cs.length

theorem head?_referenceChars_append (inside rest : List Char) :
    (referenceChars inside ++ rest).head? ≠ some '\x7b' := by
  simp [referenceChars]

/-- Verbatim text without an opening ends before the next reference. -/
theorem gap_eq_nil {gap inside rest inside' rest' : List Char} (hgap : ¬ ['$', '\x7b'] <:+: gap)
    (h : gap ++ (referenceChars inside ++ rest) = referenceChars inside' ++ rest') : gap = [] := by
  cases gap with
  | nil => rfl
  | cons c gap =>
    refine absurd ?_ (not_prefix_append hgap (head?_referenceChars_append inside rest))
    rw [← List.cons_append, h]
    exact ⟨inside' ++ ['\x7d'] ++ rest', rfl⟩

theorem next_reference_unique {gap inside rest gap' inside' rest' : List Char}
    (h : gap ++ (referenceChars inside ++ rest) = gap' ++ (referenceChars inside' ++ rest'))
    (hgap : ¬ ['$', '\x7b'] <:+: gap) (hgap' : ¬ ['$', '\x7b'] <:+: gap')
    (hfirst : '\x7d' ∉ inside) (hfirst' : '\x7d' ∉ inside') :
    gap = gap' ∧ inside = inside' ∧ rest = rest' := by
  induction gap generalizing gap' with
  | nil =>
    obtain rfl := gap_eq_nil hgap' h.symm
    have hread : reference? (referenceChars inside ++ rest) = some (inside, rest) :=
      reference?_append hfirst
    rw [show referenceChars inside ++ rest = referenceChars inside' ++ rest' from h,
      reference?_append hfirst'] at hread
    obtain ⟨rfl, rfl⟩ := Prod.mk.inj (Option.some.inj hread)
    exact ⟨rfl, rfl, rfl⟩
  | cons c gap ih =>
    cases gap' with
    | nil => cases gap_eq_nil hgap h
    | cons c' gap' =>
      obtain ⟨rfl, htail⟩ := List.cons.inj h
      obtain ⟨rfl, hrests⟩ := ih htail (fun hopened => hgap (List.infix_cons hopened))
        fun hopened => hgap' (List.infix_cons hopened)
      exact ⟨rfl, hrests⟩

/-! ### The expansion -/

/-- Verbatim text in front of a reference is copied. -/
theorem expandChars_append {gap behind : List Char} (hgap : ¬ ['$', '\x7b'] <:+: gap)
    (hbehind : behind.head? ≠ some '\x7b') :
    env.expandChars (gap ++ behind) = (gap ++ ·) <$> env.expandChars behind := by
  induction gap with
  | nil =>
    rw [List.nil_append]
    cases env.expandChars behind <;> rfl
  | cons c gap ih =>
    have hplain : reference? (c :: (gap ++ behind)) = none :=
      reference?_of_not_opened (not_prefix_append hgap hbehind)
    rw [List.cons_append, expandChars_of_plain hplain, ih fun h => hgap (List.infix_cons h)]
    cases env.expandChars behind <;> rfl

/-- **One step of the expansion:** verbatim text and a reference, which decides whether it goes on. -/
theorem expandChars_piece (env : Environment) {gap inside : List Char} (rest : List Char)
    (hgap : ¬ ['$', '\x7b'] <:+: gap) (hfirst : '\x7d' ∉ inside) :
    env.expandChars (gap ++ (referenceChars inside ++ rest)) =
      match env.value? inside with
      | some text => (fun others => gap ++ (text ++ others)) <$> env.expandChars rest
      | none => .error ⟨variableOf inside⟩ := by
  rw [expandChars_append hgap (head?_referenceChars_append inside rest),
    expandChars_of_reference (reference?_append hfirst), resolve_eq]
  cases env.value? inside with
  | none => rfl
  | some text => cases env.expandChars rest <;> rfl

theorem HasNoReference.reference?_eq_none {cs : List Char} (h : HasNoReference cs) :
    reference? cs = none := by
  rcases reference?_cases cs with ⟨inside, rest, -, hcs⟩ | ⟨hnone, -⟩
  · exact absurd hcs (h [] inside rest)
  · exact hnone

/-- Text without a reference is copied. -/
theorem HasNoReference.expandChars_eq {cs : List Char} (h : HasNoReference cs) :
    env.expandChars cs = .ok cs := by
  induction cs with
  | nil => exact expandChars_nil env
  | cons c cs ih =>
    have htail : HasNoReference cs := fun before inside behind hcs =>
      h (c :: before) inside behind (congrArg (c :: ·) hcs)
    rw [expandChars_of_plain h.reference?_eq_none, ih htail]
    rfl

namespace Referring

variable {cs last : List Char} {pieces : List (List Char × List Char)}

/-- The pieces with their references make up the text. -/
theorem eq_written (h : Referring cs pieces last) : cs = written referenceChars pieces last := by
  induction h with
  | verbatim _ => rfl
  | reference _ _ _ ih => rw [written_cons, ← ih]

/-- **There is only one decomposition.** -/
theorem unique {pieces' : List (List Char × List Char)} {last' : List Char}
    (h : Referring cs pieces last) (h' : Referring cs pieces' last') :
    pieces' = pieces ∧ last' = last := by
  induction h generalizing pieces' last' with
  | verbatim hnone =>
    cases h' with
    | verbatim => exact ⟨rfl, rfl⟩
    | reference => exact absurd rfl (hnone _ _ _)
  | @reference gap inside rest last pieces hgap hfirst _ ih =>
    generalize hcs : gap ++ (referenceChars inside ++ rest) = cs at h'
    cases h' with
    | verbatim hnone => exact absurd hcs.symm (hnone _ _ _)
    | reference hgap' hfirst' hrest' =>
      obtain ⟨rfl, rfl, rfl⟩ := next_reference_unique hcs hgap hgap' hfirst hfirst'
      obtain ⟨rfl, rfl⟩ := ih hrest'
      exact ⟨rfl, rfl⟩

/-- **The expansion puts the pieces together again,** each reference exchanged for its text, unless a
reference has none; then the first of these decides. -/
theorem expandChars_eq (env : Environment) (h : Referring cs pieces last) :
    env.expandChars cs =
      match pieces.find? fun piece => (env.value? piece.2).isNone with
      | some piece => .error ⟨variableOf piece.2⟩
      | none => .ok (written (fun inside => (env.value? inside).getD []) pieces last) := by
  induction h with
  | verbatim hnone => exact hnone.expandChars_eq
  | @reference gap inside rest last pieces hgap hfirst _ ih =>
    rw [expandChars_piece env rest hgap hfirst, ih, List.find?_cons, written_cons]
    cases env.value? inside with
    | none => rfl
    | some text =>
      cases pieces.find? fun piece => (env.value? piece.2).isNone with
      | some piece => rfl
      | none => rfl

/-- Of the environment only the variables of the references count. -/
theorem expandChars_congr (h : Referring cs pieces last)
    (henv : ∀ piece ∈ pieces, env' (variableOf piece.2) = env (variableOf piece.2)) :
    env'.expandChars cs = env.expandChars cs := by
  induction h with
  | verbatim hnone => rw [hnone.expandChars_eq, hnone.expandChars_eq]
  | @reference gap inside rest last pieces hgap hfirst _ ih =>
    obtain ⟨hhead, htail⟩ := List.forall_mem_cons.1 henv
    rw [expandChars_piece env' rest hgap hfirst, expandChars_piece env rest hgap hfirst, value?, value?,
      hhead, ih htail]

variable {s text : String} {unset : Unset}

theorem expand_eq_ok_iff (h : Referring s.toList pieces last) :
    env.expand s = .ok text ↔ (∀ piece ∈ pieces, env.value? piece.2 ≠ none) ∧
      text = String.ofList (written (fun inside => (env.value? inside).getD []) pieces last) := by
  rw [expand, h.expandChars_eq env]
  cases hfind : pieces.find? fun piece => (env.value? piece.2).isNone with
  | some piece =>
    refine ⟨fun hok => (by cases hok), fun hall => absurd ?_ (hall.1 piece ?_)⟩
    · have hnone := (List.find?_eq_some_iff_append.1 hfind).1
      exact Option.isNone_iff_eq_none.1 hnone
    · exact List.mem_of_find?_eq_some hfind
  | none =>
    constructor
    · intro hok
      refine ⟨fun piece hmem hnone => ?_, (Except.ok.inj hok).symm⟩
      exact List.find?_eq_none.1 hfind piece hmem (Option.isNone_iff_eq_none.2 hnone)
    · intro hall
      rw [hall.2]
      rfl

/-- The first reference without a text. -/
theorem find?_isNone_eq_some_iff {piece : List Char × List Char} :
    (pieces.find? fun piece => (env.value? piece.2).isNone) = some piece ↔
      ∃ before behind, pieces = before ++ piece :: behind ∧
        (∀ p ∈ before, env.value? p.2 ≠ none) ∧ env.value? piece.2 = none := by
  rw [List.find?_eq_some_iff_append, Option.isNone_iff_eq_none]
  have hbefore : ∀ p : List Char × List Char,
      (!(env.value? p.2).isNone) = true ↔ env.value? p.2 ≠ none := by
    intro p
    cases env.value? p.2 <;> simp
  simp only [hbefore]
  constructor
  · intro h
    obtain ⟨hnone, before, behind, hpieces, hall⟩ := h
    exact ⟨before, behind, hpieces, hall, hnone⟩
  · intro h
    obtain ⟨before, behind, hpieces, hall, hnone⟩ := h
    exact ⟨hnone, before, behind, hpieces, hall⟩

theorem expand_eq_error_iff (h : Referring s.toList pieces last) :
    env.expand s = .error unset ↔ ∃ before piece behind, pieces = before ++ piece :: behind ∧
      (∀ p ∈ before, env.value? p.2 ≠ none) ∧ env.value? piece.2 = none ∧
      unset.name = variableOf piece.2 := by
  rw [expand, h.expandChars_eq env]
  cases hfind : pieces.find? fun piece => (env.value? piece.2).isNone with
  | some piece =>
    constructor
    · intro herror
      obtain rfl := Except.error.inj herror
      obtain ⟨before, behind, hpieces, hall, hnone⟩ := find?_isNone_eq_some_iff.1 hfind
      exact ⟨before, piece, behind, hpieces, hall, hnone, rfl⟩
    · rintro ⟨before, piece', behind, hpieces, hall, hnone, hname⟩
      have hfind' := find?_isNone_eq_some_iff.2 ⟨before, behind, hpieces, hall, hnone⟩
      rw [hfind] at hfind'
      rw [Option.some.inj hfind']
      exact congrArg Except.error (congrArg Unset.mk hname.symm)
  | none =>
    refine ⟨fun herror => (by cases herror), ?_⟩
    rintro ⟨before, piece, behind, hpieces, hall, hnone, -⟩
    rw [find?_isNone_eq_some_iff.2 ⟨before, behind, hpieces, hall, hnone⟩] at hfind
    cases hfind

end Referring

end Environment

namespace Config

open Environment

/-- **References are resolved once, from left to right and field by field.** A reference asks for the
variable before the first `:-` of its inside, or else for what comes behind that. A text falls into
verbatim text and references in one way; its expansion copies the one and exchanges the other, or tells
the first variable that is missing, and depends on no variable that is not asked for. A document fails
with the first of its three fields that lacks a variable; where it does not fail these fields have their
expansions, and all others what is written. -/
theorem references_resolved_in_order (env : Environment) :
    (∀ inside, ∃ name default?, Asks inside name default? ∧ variableOf inside = String.ofList name ∧
      env.value? inside = ((env (String.ofList name)).map String.toList).or default?) ∧
    (∀ s : String, ∃ (pieces : List (List Char × List Char)) (last : List Char),
      Referring s.toList pieces last ∧
      (∀ pieces' last', Referring s.toList pieces' last' → pieces' = pieces ∧ last' = last) ∧
      s.toList = (pieces.flatMap fun piece => piece.1 ++ referenceChars piece.2) ++ last ∧
      (∀ text, env.expand s = .ok text ↔ (∀ piece ∈ pieces, env.value? piece.2 ≠ none) ∧
        text = String.ofList
          ((pieces.flatMap fun piece => piece.1 ++ (env.value? piece.2).getD []) ++ last)) ∧
      (∀ unset, env.expand s = .error unset ↔ ∃ before piece behind,
        pieces = before ++ piece :: behind ∧ (∀ p ∈ before, env.value? p.2 ≠ none) ∧
        env.value? piece.2 = none ∧ unset.name = variableOf piece.2) ∧
      ∀ env' : Environment,
        (∀ piece ∈ pieces, env' (variableOf piece.2) = env (variableOf piece.2)) →
          env'.expand s = env.expand s) ∧
    (∀ s : String, HasNoReference s.toList → env.expand s = .ok s) ∧
    (∀ document field name, ofToml env document = .error (.unset field name) ↔
      ∃ d before text behind, draftOf? document = some d ∧
        d.referring = before ++ (field, text) :: behind ∧
        (∀ e ∈ before, ∃ expansion, env.expand e.2 = .ok expansion) ∧
        env.expand text = .error ⟨name⟩) ∧
    ∀ document c, ofToml env document = .ok c →
      ∃ d nullText unknownText defaultLocale, draftOf? document = some d ∧
        env.expand d.nullText = .ok nullText ∧ env.expand d.unknownText = .ok unknownText ∧
        env.expand d.defaultLocale = .ok defaultLocale ∧
        c = d.config nullText unknownText defaultLocale := by
  refine ⟨?_, ?_, ?_, ?_, ?_⟩
  · intro inside
    exact ⟨(nameAndDefault inside).1, (nameAndDefault inside).2, nameAndDefault_eq_iff.1 rfl, rfl, rfl⟩
  · intro s
    obtain ⟨pieces, last, h⟩ := exists_referring s.toList
    refine ⟨pieces, last, h, fun _ _ h' => h.unique h', h.eq_written, fun text => h.expand_eq_ok_iff,
      fun unset => h.expand_eq_error_iff, fun env' henv => ?_⟩
    rw [expand, expand, h.expandChars_congr henv]
  · intro s h
    rw [expand, h.expandChars_eq]
    exact congrArg Except.ok String.ofList_toList
  · intro document field name
    exact ofToml_eq_error_unset_iff
  · intro document c h
    obtain ⟨d, hd, hc⟩ := ofToml_eq_ok_iff.1 h
    obtain ⟨nullText, unknownText, defaultLocale, hnull, hunknown, hlocale, rfl, -⟩ :=
      ofDraft_eq_ok_iff.1 hc
    exact ⟨d, nullText, unknownText, defaultLocale, hd, hnull, hunknown, hlocale, rfl⟩

/-- A reference does not nest: the default ends at the first closing brace, and is not looked at again. -/
example : (Environment.ofEntries [("B", "b")]).expand "$A $\x7bA:-$\x7bB\x7d\x7d" = .ok "$A $\x7bB\x7d" := by
  decide +kernel

/-- Of the two fields here that lack a variable the first one is reported, though it is written last; the
reference before it has a default. -/
example :
    ofToml (.ofEntries [])
      "[resolution]\ndefault_locale = \"$\x7bLANG\x7d\"\nunknown_text = \"$\x7bA:-?\x7d $\x7bB\x7d\"\n" =
        .error (.unset unknownTextField "B") := by
  decide +kernel

end Config

end Courier
