import Courier.Config.Decode

/-!
# How a document becomes a configuration

A document is decoded to a draft. The references in three of its fields are resolved one after the
other, and the configuration that comes out is refused if a text for something missing is blank. This
file says what each of these steps lets through:

* `Config.Visible`, `validate_eq_ok_iff`: nothing that stands for something missing is blank;
* `ofDraft_eq_ok_iff`, `ofToml_eq_ok_iff`: what a configuration has of its draft and its environment;
* `ofToml_eq_error_unset_iff`: which field is reported when a variable has no value.
-/

namespace Courier

/-! ### Steps that may fail -/

instance decidableEqExcept {ε α : Type} [DecidableEq ε] [DecidableEq α] : DecidableEq (Except ε α)
  | .error e, .error e' => decidable_of_iff (e = e') (by rw [Except.error.injEq])
  | .ok a, .ok a' => decidable_of_iff (a = a') (by rw [Except.ok.injEq])
  | .error _, .ok _ => .isFalse (by simp)
  | .ok _, .error _ => .isFalse (by simp)

theorem bind_eq_ok_iff {ε α β : Type} {x : Except ε α} {f : α → Except ε β} {b : β} :
    (x >>= f) = .ok b ↔ ∃ a, x = .ok a ∧ f a = .ok b := by
  cases x with
  | error e => simp [bind, Except.bind]
  | ok a => simp [bind, Except.bind]

theorem bind_eq_error_iff {ε α β : Type} {x : Except ε α} {f : α → Except ε β} {e : ε} :
    (x >>= f) = .error e ↔ x = .error e ∨ ∃ a, x = .ok a ∧ f a = .error e := by
  cases x with
  | error e => simp [bind, Except.bind]
  | ok a => simp [bind, Except.bind]

/-- A list of checks is passed when every one of them is. -/
theorem forM_eq_ok_iff {ε α : Type} {check : α → Except ε Unit} {es : List α} :
    es.forM check = .ok () ↔ ∀ e ∈ es, check e = .ok () := by
  induction es with
  | nil => exact ⟨fun _ _ h => absurd h List.not_mem_nil, fun _ => rfl⟩
  | cons e es ih =>
    rw [List.forall_mem_cons, ← ih]
    exact bind_eq_ok_iff.trans ⟨fun ⟨_, h⟩ => h, fun h => ⟨(), h⟩⟩

/-- A list of checks fails as one of them does. -/
theorem exists_of_forM_eq_error {ε α : Type} {check : α → Except ε Unit} {es : List α} {err : ε}
    (h : es.forM check = .error err) : ∃ e ∈ es, check e = .error err := by
  induction es with
  | nil => cases h
  | cons e es ih =>
    rcases bind_eq_error_iff.1 h with he | ⟨_, -, hes⟩
    · exact ⟨e, List.mem_cons_self, he⟩
    · obtain ⟨e', hmem, he'⟩ := ih hes
      exact ⟨e', List.mem_cons_of_mem _ hmem, he'⟩

namespace Config

variable {env : Environment} {document field name text : String} {c : Config} {d : Draft}

/-! ### Validation -/

/-- The texts that stand for something missing can be seen. -/
structure Visible (c : Config) : Prop where
  nullText : Text.isBlank c.nullText = false
  unknownText : Text.isBlank c.unknownText = false
  defaultLocale : Text.isBlank c.defaultLocale = false
  lessThanSecond : ∀ e ∈ c.locales.entries, Text.isBlank e.2.lessThanSecond = false

theorem requireVisible_eq_ok_iff :
    requireVisible text field = .ok () ↔ Text.isBlank text = false := by
  unfold requireVisible
  split
  · simp_all
  · simp_all

theorem requireVisible_ne_unset {field' : String} :
    requireVisible text field' ≠ .error (.unset field name) := by
  intro h
  unfold requireVisible at h
  split at h
  · cases h
  · cases h

theorem validate_eq_ok_iff : c.validate = .ok () ↔ c.Visible := by
  unfold validate
  simp only [bind_eq_ok_iff, requireVisible_eq_ok_iff, forM_eq_ok_iff]
  constructor
  · intro h
    obtain ⟨_, hnull, _, hunknown, _, hlocale, hlocales⟩ := h
    exact ⟨requireVisible_eq_ok_iff.1 hnull, requireVisible_eq_ok_iff.1 hunknown,
      requireVisible_eq_ok_iff.1 hlocale, hlocales⟩
  · intro h
    exact ⟨(), requireVisible_eq_ok_iff.2 h.nullText, (), requireVisible_eq_ok_iff.2 h.unknownText,
      (), requireVisible_eq_ok_iff.2 h.defaultLocale, h.lessThanSecond⟩

/-- Validation complains of nothing but blank texts. -/
theorem validate_ne_unset : c.validate ≠ .error (.unset field name) := by
  intro h
  unfold validate at h
  rcases bind_eq_error_iff.1 h with h | ⟨_, -, h⟩
  · exact requireVisible_ne_unset h
  rcases bind_eq_error_iff.1 h with h | ⟨_, -, h⟩
  · exact requireVisible_ne_unset h
  rcases bind_eq_error_iff.1 h with h | ⟨_, -, h⟩
  · exact requireVisible_ne_unset h
  · obtain ⟨_, -, he⟩ := exists_of_forM_eq_error h
    exact requireVisible_ne_unset he

/-! ### From a draft to a configuration -/

/-- The fields of a draft with references, in the order in which these are resolved. -/
def Draft.referring (d : Draft) : List (String × String) :=
  [(nullTextField, d.nullText), (unknownTextField, d.unknownText),
    (defaultLocaleField, d.defaultLocale)]

/-- The configuration of a draft with these texts for the fields with references. -/
def Draft.config (d : Draft) (nullText unknownText defaultLocale : String) : Config :=
  { style := d.style, nullText, unknownText, defaultLocale, locales := Locales.ofEntries d.locales,
    aliases := .ofList d.aliases, path? := none }

theorem expanded_of_ok {text' : String} (h : env.expand text = .ok text') :
    expanded env field text = .ok text' := by
  rw [expanded, h]
  rfl

theorem expanded_of_error {unset : Environment.Unset} (h : env.expand text = .error unset) :
    expanded env field text = .error (.unset field unset.name) := by
  rw [expanded, h]
  rfl

theorem expanded_eq_ok_iff {text' : String} :
    expanded env field text = .ok text' ↔ env.expand text = .ok text' := by
  cases h : env.expand text with
  | error unset => simp [expanded_of_error h]
  | ok text => simp [expanded_of_ok h]

/-- A configuration has the resolved texts of its draft, and can be seen. -/
theorem ofDraft_eq_ok_iff :
    ofDraft env d = .ok c ↔ ∃ nullText unknownText defaultLocale,
      env.expand d.nullText = .ok nullText ∧ env.expand d.unknownText = .ok unknownText ∧
      env.expand d.defaultLocale = .ok defaultLocale ∧
      d.config nullText unknownText defaultLocale = c ∧ c.Visible := by
  unfold ofDraft
  simp only [bind_eq_ok_iff, expanded_eq_ok_iff]
  constructor
  · rintro ⟨nullText, hnull, unknownText, hunknown, defaultLocale, hlocale, _, hvalid, hc⟩
    obtain rfl := Except.ok.inj hc
    exact ⟨nullText, unknownText, defaultLocale, hnull, hunknown, hlocale, rfl,
      validate_eq_ok_iff.1 hvalid⟩
  · rintro ⟨nullText, unknownText, defaultLocale, hnull, hunknown, hlocale, rfl, hvisible⟩
    exact ⟨nullText, hnull, unknownText, hunknown, defaultLocale, hlocale, (),
      validate_eq_ok_iff.2 hvisible, rfl⟩

/-- The field of a setting and the first variable that it lacks. -/
def missing? (env : Environment) (setting : String × String) : Option (String × String) :=
  match env.expand setting.2 with
  | .error unset => some (setting.1, unset.name)
  | .ok _ => none

theorem missing?_of_ok {text' : String} (h : env.expand text = .ok text') :
    missing? env (field, text) = none := by
  simp [missing?, h]

theorem missing?_of_error {unset : Environment.Unset} (h : env.expand text = .error unset) :
    missing? env (field, text) = some (field, unset.name) := by
  simp [missing?, h]

theorem missing?_eq_none_iff {setting : String × String} :
    missing? env setting = none ↔ ∃ expansion, env.expand setting.2 = .ok expansion := by
  cases h : env.expand setting.2 with
  | error unset => simp [missing?, h]
  | ok expansion => simp [missing?, h]

theorem missing?_eq_some_iff {setting : String × String} :
    missing? env setting = some (field, name) ↔
      setting.1 = field ∧ env.expand setting.2 = .error ⟨name⟩ := by
  cases h : env.expand setting.2 with
  | error unset =>
    obtain ⟨name'⟩ := unset
    simp [missing?, h]
  | ok expansion => simp [missing?, h]

/-- A field that lacks a variable is reported before all that comes behind it. -/
theorem expanded_bind_eq_unset_iff {field' : String} {next : String → Except ConfigError Config}
    {others : List (String × String)}
    (h : ∀ text', next text' = .error (.unset field name) ↔
      others.findSome? (missing? env) = some (field, name)) :
    (expanded env field' text >>= next) = .error (.unset field name) ↔
      ((field', text) :: others).findSome? (missing? env) = some (field, name) := by
  rw [List.findSome?_cons]
  cases htext : env.expand text with
  | error unset =>
    rw [expanded_of_error htext, missing?_of_error htext]
    simp [bind, Except.bind]
  | ok text' =>
    rw [expanded_of_ok htext, missing?_of_ok htext]
    exact h text'

/-- Of the fields with references the first that lacks a variable is reported, before anything is found
to be blank. -/
theorem ofDraft_eq_error_unset_iff :
    ofDraft env d = .error (.unset field name) ↔
      d.referring.findSome? (missing? env) = some (field, name) := by
  refine expanded_bind_eq_unset_iff fun nullText => ?_
  refine expanded_bind_eq_unset_iff fun unknownText => ?_
  refine expanded_bind_eq_unset_iff fun defaultLocale => ?_
  -- What is left is validation, and no field with references.
  refine ⟨fun h => ?_, fun h => by cases h⟩
  rcases bind_eq_error_iff.1 h with hvalid | ⟨_, -, hreturn⟩
  · exact absurd hvalid validate_ne_unset
  · cases hreturn

/-! ### From a document to a configuration -/

/-- What a document says as a configuration, if it is one. -/
def draftOf? (document : String) : Option Draft :=
  (Toml.read? document).bind draft?

theorem ofToml_of_draftOf? (h : draftOf? document = some d) : ofToml env document = ofDraft env d := by
  unfold draftOf? at h
  rw [ofToml, h]

theorem ofToml_of_none (h : draftOf? document = none) : ofToml env document = .error .malformed := by
  unfold draftOf? at h
  rw [ofToml, h]

theorem ofToml_eq_ok_iff :
    ofToml env document = .ok c ↔ ∃ d, draftOf? document = some d ∧ ofDraft env d = .ok c := by
  cases hd : draftOf? document with
  | none => simp [ofToml_of_none hd]
  | some d => simp [ofToml_of_draftOf? hd]

/-- Which variable a document is told to lack: the first one of the first field that lacks any. -/
theorem ofToml_eq_error_unset_iff :
    ofToml env document = .error (.unset field name) ↔
      ∃ d before text behind, draftOf? document = some d ∧
        d.referring = before ++ (field, text) :: behind ∧
        (∀ e ∈ before, ∃ expansion, env.expand e.2 = .ok expansion) ∧
        env.expand text = .error ⟨name⟩ := by
  cases hd : draftOf? document with
  | none => simp [ofToml_of_none hd]
  | some d =>
    rw [ofToml_of_draftOf? hd, ofDraft_eq_error_unset_iff, List.findSome?_eq_some_iff]
    simp only [missing?_eq_some_iff, missing?_eq_none_iff]
    constructor
    · rintro ⟨before, ⟨_, text⟩, behind, hfields, ⟨rfl, herror⟩, hbefore⟩
      exact ⟨d, before, text, behind, rfl, hfields, hbefore, herror⟩
    · rintro ⟨_, before, text, behind, hsome, hfields, hbefore, herror⟩
      obtain rfl := Option.some.inj hsome
      exact ⟨before, (field, text), behind, hfields, ⟨rfl, herror⟩, hbefore⟩

/-- Nothing that stands for something missing is blank in a configuration that a document makes. -/
theorem visible_of_ofToml (h : ofToml env document = .ok c) : c.Visible := by
  obtain ⟨d, -, hd⟩ := ofToml_eq_ok_iff.1 h
  obtain ⟨_, _, _, -, -, -, -, hvisible⟩ := ofDraft_eq_ok_iff.1 hd
  exact hvisible

end Config

end Courier
