import Courier.Template
import Courier.Vocabulary

/-!
# Configuration

The settings of message composition: how placeholders look, what stands for a missing value, and the
names of units and worlds. A configuration that was loaded has texts that can be seen wherever one is
put in place of something missing.
-/

namespace Courier

/-- The two ways to write placeholders. -/
inductive Style where
  | percent
  | braces
  deriving DecidableEq, Repr

def Style.delimiters : Style → Delimiters
  | percent => .percent
  | braces => .braces

/-- The settings of message composition. -/
structure Config where
  style : Style
  /-- What stands for an explicit absence. -/
  nullText : String
  /-- What stands for a name that is not known. -/
  unknownText : String
  /-- The locale for readers whose own has no vocabulary. -/
  defaultLocale : String
  locales : Locales
  /-- The names under which worlds are shown. -/
  aliases : Table String String
  /-- The file that the settings were read from. -/
  path? : Option String
  deriving DecidableEq

/-- Why no configuration could be loaded. -/
inductive ConfigError where
  | notFound (path : String)
  /-- The file cannot be read, or is not text. -/
  | unreadable
  /-- The text is no document, or the document is no configuration. -/
  | malformed
  | blank (field : String)
  | unset (field name : String)
  deriving DecidableEq, Repr

/-- The message of a failure, where it does not depend on the surroundings. -/
def ConfigError.message? : ConfigError → Option String
  | notFound path => some ("Configuration file not found: " ++ path)
  | unreadable => none
  | malformed => none
  | blank field => some ("Configuration error: " ++ field ++ " cannot be empty")
  | unset field name =>
    some ("Environment variable error in " ++ field ++ ": $\x7b" ++ name ++
      "\x7d not set (environment variable not found)")

namespace Config

/-- The names of the fields that take part in failures. -/
def nullTextField : String := "resolution.null_text"

def unknownTextField : String := "resolution.unknown_text"

def defaultLocaleField : String := "resolution.default_locale"

def lessThanSecondField (tag : String) : String := "locales." ++ tag ++ ".less_than_second"

/-- The settings when nothing is set. -/
def standard : Config :=
  { style := .percent, nullText := "NULL", unknownText := "???",
    defaultLocale := Locales.fallback, locales := Locales.ofEntries [], aliases := .empty,
    path? := none }

instance : Inhabited Config := ⟨standard⟩

/-- Refuses a blank text. -/
def requireVisible (text field : String) : Except ConfigError Unit :=
  if Text.isBlank text then .error (.blank field) else .ok ()

/-- Refuses settings whose texts for missing things are blank. -/
def validate (c : Config) : Except ConfigError Unit := do
  requireVisible c.nullText nullTextField
  requireVisible c.unknownText unknownTextField
  requireVisible c.defaultLocale defaultLocaleField
  c.locales.entries.forM fun e => requireVisible e.2.lessThanSecond (lessThanSecondField e.1)

/-- The vocabulary for a reader: that of the reader's locale, else that of the default locale, else
English. -/
def vocabulary (c : Config) (locale? : Option String) : Vocabulary :=
  ((locale?.bind c.locales.find?).or (c.locales.find? c.defaultLocale)).getD .english

end Config

end Courier
