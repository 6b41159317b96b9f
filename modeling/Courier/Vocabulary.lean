import Courier.Table
import Courier.Text.Basic
import Courier.Time

/-!
# Vocabularies

How a language names the units of elapsed time, and which of the languages at hand serves a reader.

Elapsed time is told in whole days, hours, minutes and seconds, without the units of which there are
none. Languages go by lower-case tags; the part of a tag before its first underscore or hyphen is the
language without its region.
-/

namespace Courier

/-- The unit names of a language, for one and for many, and what is shorter than a second. -/
structure Vocabulary where
  second : String
  seconds : String
  minute : String
  minutes : String
  hour : String
  hours : String
  day : String
  days : String
  lessThanSecond : String
  deriving DecidableEq, Repr

namespace Vocabulary

/-- The English names. -/
def english : Vocabulary :=
  ⟨"second", "seconds", "minute", "minutes", "hour", "hours", "day", "days",
    "less than one second"⟩

instance : Inhabited Vocabulary := ⟨english⟩

/-- A unit of elapsed time: its length in seconds, and its names for one and for many. -/
structure TimeUnit where
  length : Nat
  one : String
  many : String

/-- The units from the longest to the shortest. -/
def units (v : Vocabulary) : List TimeUnit :=
  [⟨86400, v.day, v.days⟩, ⟨3600, v.hour, v.hours⟩, ⟨60, v.minute, v.minutes⟩,
    ⟨1, v.second, v.seconds⟩]

/-- A count with the name of its unit. -/
def TimeUnit.counted (u : TimeUnit) (count : Nat) : String :=
  toString count ++ " " ++ (if count = 1 then u.one else u.many)

/-- So many seconds in counts of the units, each of what the longer ones have left over. -/
def parts : List TimeUnit → Nat → List String
  | [], _ => []
  | u :: us, n =>
    (if n / u.length = 0 then [] else [u.counted (n / u.length)]) ++ parts us (n % u.length)

/-- The text of a length of time, in whole seconds. -/
def elapsed (v : Vocabulary) (d : Duration) : String :=
  if d.seconds = 0 then v.lessThanSecond
  else String.intercalate " " (parts v.units d.seconds)

end Vocabulary

/-- The vocabularies at hand, under lower-case tags. -/
abbrev Locales := Table String Vocabulary

namespace Locales

/-- The language that serves when no other is set up. -/
def fallback : String := "en"

/-- The lower-case language of a tag, without its region. -/
def language (tag : String) : String :=
  (Text.trim (String.ofList (tag.toList.takeWhile fun c => c ≠ '_' ∧ c ≠ '-'))).toLower

/-- The vocabulary of a tag, else that of its language. -/
def find? (locales : Locales) (tag : String) : Option Vocabulary :=
  (locales.get? (Text.trim tag).toLower).or (locales.get? (language tag))

/-- The vocabularies under the lower-case forms of their tags, and English beside them if it is not
there. Of two tags that differ only in case the last one counts here; where tags come in no particular
order either may, so what is said of tags supposes that no two are so alike. -/
def ofEntries (entries : List (String × Vocabulary)) : Locales :=
  (Table.ofList (entries.map fun e => (e.1.toLower, e.2))).insertIfAbsent fallback .english

end Locales

end Courier
