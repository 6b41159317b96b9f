import Courier.Config.Basic
import Courier.Config.Environment
import Courier.Toml.Document

/-!
# Configurations from documents

Which documents are configurations, and the settings they make. A group of settings is a table, or
an array of the settings in their order; what is not given keeps its standard value. Unknown names
of a table are passed over, but no number below them may be too large; what comes in an array after
the settings is not looked at.

References to the environment are resolved first, then locale tags are brought to lower case, and
only what comes out of that is looked at for blank texts.
-/

namespace Courier

namespace Toml.Value

/-- The text of a value, if it is one. -/
def text? : Value → Option String
  | text s => some s
  | _ => none

/-- The entries of a value, if it is a table. A moment is a table with its text under a name of its
own. -/
def entries? : Value → Option Entries
  | table _ es => some es
  | moment normal => some [("$__toml_private_datetime", text normal)]
  | _ => none

/-- Whether a value is a table or an array with nothing in it. -/
def isEmpty : Value → Bool
  | table _ es => es.isEmpty
  | array _ items => items.isEmpty
  | _ => false

/-- The values of a group of settings, in the order of their names. -/
def fields? (names : List String) (v : Value) : Option (List (Option Value)) :=
  match v with
  | array _ items => some ((List.range names.length).map fun i => items[i]?)
  | v => do
    let es ← v.entries?
    guard (Entries.isSound (es.filter fun e => e.1 ∉ names))
    return names.map fun name => es.find? name

end Toml.Value

namespace Config

open Toml (Entries)

/-- What a value that may be missing is decoded to; a missing one keeps its standard. -/
def orStandard {α : Type} (standard : α) (decode : Toml.Value → Option α) :
    Option Toml.Value → Option α
  | none => some standard
  | some v => decode v

/-- The style of placeholders, by name, or as a table with nothing under that name. -/
def style? : Toml.Value → Option Style
  | .text name => named? name
  | .table _ [(name, content)] => if content.isEmpty then named? name else none
  | _ => none
where
  /-- The style with a name. -/
  named? : String → Option Style
    | "percent" => some .percent
    | "braces" => some .braces
    | _ => none

/-- The settings of placeholders. -/
def placeholders? (v : Toml.Value) : Option Style :=
  match v.fields? ["style"] with
  | some [style] => orStandard standard.style style? style
  | _ => none

/-- The settings of resolution: the two texts and the default locale. -/
def resolution? (v : Toml.Value) : Option (String × String × String) :=
  match v.fields? ["null_text", "unknown_text", "default_locale"] with
  | some [null, unknown, locale] => do
    let null ← orStandard standard.nullText Toml.Value.text? null
    let unknown ← orStandard standard.unknownText Toml.Value.text? unknown
    let locale ← orStandard standard.defaultLocale Toml.Value.text? locale
    return (null, unknown, locale)
  | _ => none

/-- A vocabulary; names that are not given are English. -/
def vocabulary? (v : Toml.Value) : Option Vocabulary :=
  let names := ["second", "seconds", "minute", "minutes", "hour", "hours", "day", "days",
    "less_than_second"]
  match v.fields? names with
  | some [second, seconds, minute, minutes, hour, hours, day, days, less] => do
    let english := Vocabulary.english
    let second ← orStandard english.second Toml.Value.text? second
    let seconds ← orStandard english.seconds Toml.Value.text? seconds
    let minute ← orStandard english.minute Toml.Value.text? minute
    let minutes ← orStandard english.minutes Toml.Value.text? minutes
    let hour ← orStandard english.hour Toml.Value.text? hour
    let hours ← orStandard english.hours Toml.Value.text? hours
    let day ← orStandard english.day Toml.Value.text? day
    let days ← orStandard english.days Toml.Value.text? days
    let less ← orStandard english.lessThanSecond Toml.Value.text? less
    return ⟨second, seconds, minute, minutes, hour, hours, day, days, less⟩
  | _ => none

/-- A table with each of its values decoded. -/
def tableOf? {α : Type} (decode : Toml.Value → Option α) (v : Toml.Value) :
    Option (List (String × α)) := do
  let es ← v.entries?
  es.mapM fun e => (decode e.2).map fun a => (e.1, a)

/-- The settings of worlds. -/
def worlds? (v : Toml.Value) : Option (List (String × String)) :=
  match v.fields? ["aliases"] with
  | some [aliases] => orStandard [] (tableOf? Toml.Value.text?) aliases
  | _ => none

/-- What a document says, as it is written. -/
structure Draft where
  style : Style
  nullText : String
  unknownText : String
  defaultLocale : String
  locales : List (String × Vocabulary)
  aliases : List (String × String)
  deriving DecidableEq, Repr

/-- The settings of a document, if it is a configuration. -/
def draft? (es : Entries) : Option Draft :=
  let names := ["placeholders", "resolution", "locales", "worlds"]
  match (Toml.Value.table .declared es).fields? names with
  | some [placeholders, resolution, locales, worlds] => do
    let style ← orStandard standard.style placeholders? placeholders
    let (null, unknown, locale) ←
      orStandard (standard.nullText, standard.unknownText, standard.defaultLocale) resolution?
        resolution
    let locales ← orStandard [] (tableOf? vocabulary?) locales
    let aliases ← orStandard [] worlds? worlds
    return ⟨style, null, unknown, locale, locales, aliases⟩
  | _ => none

/-- A setting with its references resolved. -/
def expanded (env : Environment) (field text : String) : Except ConfigError String :=
  (env.expand text).mapError fun unset => .unset field unset.name

/-- The configuration that a draft makes in an environment. -/
def ofDraft (env : Environment) (d : Draft) : Except ConfigError Config := do
  let nullText ← expanded env nullTextField d.nullText
  let unknownText ← expanded env unknownTextField d.unknownText
  let defaultLocale ← expanded env defaultLocaleField d.defaultLocale
  let config : Config :=
    { style := d.style, nullText, unknownText, defaultLocale,
      locales := Locales.ofEntries d.locales, aliases := .ofList d.aliases, path? := none }
  config.validate
  return config

/-- The configuration of a document in an environment. Which vocabulary it has under a tag is settled by
the document only if no two tags differ only in case (`Locales.ofEntries`). -/
def ofToml (env : Environment) (document : String) : Except ConfigError Config :=
  match (Toml.read? document).bind draft? with
  | some d => ofDraft env d
  | none => .error .malformed

end Config

end Courier
