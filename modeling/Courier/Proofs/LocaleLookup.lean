import Courier.Proofs.Loading
import Courier.Proofs.Overwriting
import Mathlib.Data.List.TakeWhile

/-!
# Which vocabulary serves a reader

Tags are brought to lower case when a configuration is loaded, and what is looked up is trimmed, split
and brought to lower case when it is read. Both meet in the tags that a document writes:

* `Locales.Answers`: the vocabulary for a tag, as a statement about the tags of the document;
* `Answers.find?_eq`, `find?_of_not_answered`: look-ups find it, and nothing else;
* `full_pad`, `full_of_toLower_eq`, `find?_region`: padding, case and regions do not matter;
* `ofEntries_eq_of_perm`: nor do the case and the order of the tags of the document;
* `Config.vocabulary_follows_tags`: the same for readers and for the default locale.
-/

namespace Courier

namespace Text

/-! ### Trimming -/

theorem dropWhile_isSpace_append {before : List Char} (h : before.all isSpace = true)
    (cs : List Char) : (before ++ cs).dropWhile isSpace = cs.dropWhile isSpace :=
  List.dropWhile_append_of_pos (List.all_eq_true.1 h)

/-- Trimming takes nothing but white space off both ends. -/
theorem exists_pad (cs : List Char) : ∃ before behind, before.all isSpace = true ∧
    behind.all isSpace = true ∧ cs = before ++ trimChars cs ++ behind := by
  refine ⟨cs.takeWhile isSpace, ((cs.dropWhile isSpace).reverse.takeWhile isSpace).reverse,
    List.all_takeWhile, ?_, ?_⟩
  · rw [List.all_reverse]
    exact List.all_takeWhile
  · rw [trimChars, List.append_assoc, ← List.reverse_append, List.takeWhile_append_dropWhile,
      List.reverse_reverse, List.takeWhile_append_dropWhile]

/-- White space around a text is not seen behind trimming. -/
theorem trimChars_pad {before behind : List Char} (hbefore : before.all isSpace = true)
    (hbehind : behind.all isSpace = true) (cs : List Char) :
    trimChars (before ++ cs ++ behind) = trimChars cs := by
  rw [trimChars, trimChars, List.append_assoc, dropWhile_isSpace_append hbefore, List.dropWhile_append]
  split
  · rename_i hempty
    rw [List.isEmpty_iff.1 hempty, (dropWhile_isSpace_eq_nil_iff behind).2 hbehind]
  · rw [List.reverse_append, dropWhile_isSpace_append (by rw [List.all_reverse]; exact hbehind)]

/-! ### Lower case -/

theorem toList_toLower (s : String) : s.toLower.toList = s.toList.map Char.toLower :=
  String.toList_map

/-- A capital letter becomes the small one, and nothing else changes. -/
theorem toLower_cases (c : Char) : c.toLower = c ∨
    (65 ≤ c.toNat ∧ c.toNat ≤ 90) ∧ c.toLower.toNat = c.toNat + 32 := by
  unfold Char.toLower
  split
  · rename_i h
    right
    have hrange : 65 ≤ c.toNat ∧ c.toNat ≤ 90 := by
      simpa [UInt32.le_iff_toNat_le] using h
    have hsmall : c.val.toNat ≤ 90 := hrange.2
    refine ⟨hrange, ?_⟩
    show (c.val + 32).toNat = c.val.toNat + 32
    rw [UInt32.toNat_add]
    show (c.val.toNat + 32) % 4294967296 = _
    omega
  · exact .inl rfl

theorem isSpace_toLower (c : Char) : isSpace c.toLower = isSpace c := by
  rcases toLower_cases c with h | ⟨hrange, h⟩
  · rw [h]
  · have hc : isSpace c = false := by
      simp [isSpace]
      omega
    rw [hc]
    simp [isSpace, h]
    omega

theorem trimChars_map_toLower (cs : List Char) :
    trimChars (cs.map Char.toLower) = (trimChars cs).map Char.toLower := by
  have hspace : isSpace ∘ Char.toLower = isSpace := funext isSpace_toLower
  rw [trimChars, trimChars, List.dropWhile_map, hspace, ← List.map_reverse, List.dropWhile_map, hspace,
    List.map_reverse]

end Text

namespace Locales

open Text (isSpace isBlank trimChars)

variable {entries entries' : List (String × Vocabulary)} {tag tag' name : String} {v : Vocabulary}

/-! ### What is looked up for a tag -/

/-- The lower-case form of a tag as a whole. -/
def full (tag : String) : String :=
  (Text.trim tag).toLower

/-- A character that does not end the language of a tag. -/
def isInLanguage (c : Char) : Bool :=
  decide (c ≠ '_' ∧ c ≠ '-')

theorem toList_full (tag : String) :
    (full tag).toList = (trimChars tag.toList).map Char.toLower := by
  rw [full, Text.toList_toLower, Text.trim, String.toList_ofList]

theorem toList_language (tag : String) :
    (language tag).toList = (trimChars (tag.toList.takeWhile isInLanguage)).map Char.toLower := by
  rw [language, Text.toList_toLower, Text.trim, String.toList_ofList, String.toList_ofList]
  rfl

theorem isInLanguage_iff {c : Char} : isInLanguage c = true ↔ c.toNat ≠ 95 ∧ c.toNat ≠ 45 := by
  rw [isInLanguage, decide_eq_true_iff, ne_eq, ne_eq, ← Char.toNat_inj, ← Char.toNat_inj]
  rfl

theorem isInLanguage_of_isSpace {c : Char} (h : isSpace c = true) : isInLanguage c = true := by
  rw [isInLanguage_iff]
  simp [isSpace] at h
  omega

theorem isInLanguage_toLower (c : Char) : isInLanguage c.toLower = isInLanguage c := by
  rw [Bool.eq_iff_iff, isInLanguage_iff, isInLanguage_iff]
  rcases Text.toLower_cases c with h | ⟨hrange, h⟩
  · rw [h]
  · omega

/-- White space around a tag stays around its language, or is cut off with the rest. -/
theorem exists_takeWhile_pad {before behind : List Char} (hbefore : before.all isSpace = true)
    (hbehind : behind.all isSpace = true) (cs : List Char) :
    ∃ behind', behind'.all isSpace = true ∧
      (before ++ cs ++ behind).takeWhile isInLanguage =
        before ++ cs.takeWhile isInLanguage ++ behind' := by
  have hin : ∀ pad : List Char, pad.all isSpace = true → ∀ c ∈ pad, isInLanguage c = true :=
    fun pad hpad c hc => isInLanguage_of_isSpace (List.all_eq_true.1 hpad c hc)
  rw [List.append_assoc, List.takeWhile_append_of_pos (hin before hbefore), List.takeWhile_append]
  split
  · rename_i hall
    refine ⟨behind, hbehind, ?_⟩
    rw [List.takeWhile_eq_self_iff.2 (hin behind hbehind),
      (List.takeWhile_prefix isInLanguage).eq_of_length hall, List.append_assoc]
  · exact ⟨[], rfl, by rw [List.append_nil]⟩

/-! ### Padding, case and regions -/

theorem full_pad {before behind : String} (hbefore : isBlank before = true)
    (hbehind : isBlank behind = true) (tag : String) : full (before ++ tag ++ behind) = full tag := by
  rw [← String.toList_inj, toList_full, toList_full, String.toList_append, String.toList_append,
    Text.trimChars_pad hbefore hbehind]

theorem language_pad {before behind : String} (hbefore : isBlank before = true)
    (hbehind : isBlank behind = true) (tag : String) :
    language (before ++ tag ++ behind) = language tag := by
  rw [← String.toList_inj, toList_language, toList_language, String.toList_append,
    String.toList_append]
  obtain ⟨behind', hbehind', htake⟩ := exists_takeWhile_pad hbefore hbehind tag.toList
  rw [htake, Text.trimChars_pad hbefore hbehind']

theorem full_of_toLower_eq (h : tag.toLower = tag'.toLower) : full tag = full tag' := by
  have hlower := congrArg String.toList h
  rw [Text.toList_toLower, Text.toList_toLower] at hlower
  rw [← String.toList_inj, toList_full, toList_full, ← Text.trimChars_map_toLower,
    ← Text.trimChars_map_toLower, hlower]

theorem takeWhile_map_toLower (cs : List Char) :
    (cs.map Char.toLower).takeWhile isInLanguage = (cs.takeWhile isInLanguage).map Char.toLower := by
  rw [List.takeWhile_map, show isInLanguage ∘ Char.toLower = isInLanguage from
    funext isInLanguage_toLower]

theorem language_of_toLower_eq (h : tag.toLower = tag'.toLower) : language tag = language tag' := by
  have hlower := congrArg String.toList h
  rw [Text.toList_toLower, Text.toList_toLower] at hlower
  rw [← String.toList_inj, toList_language, toList_language, ← Text.trimChars_map_toLower,
    ← Text.trimChars_map_toLower, ← takeWhile_map_toLower, ← takeWhile_map_toLower, hlower]

/-- A tag without a region is its own language. -/
theorem language_eq_full (h : ∀ c ∈ tag.toList, isInLanguage c = true) : language tag = full tag := by
  rw [← String.toList_inj, toList_language, toList_full, List.takeWhile_eq_self_iff.2 h]

theorem language_eq_of_full_eq_fallback (h : full tag = fallback) : language tag = fallback := by
  rw [language_eq_full, h]
  intro c hc
  obtain ⟨before, behind, hbefore, hbehind, htag⟩ := Text.exists_pad tag.toList
  rw [htag, List.mem_append, List.mem_append] at hc
  rcases hc with (hc | hc) | hc
  · exact isInLanguage_of_isSpace (List.all_eq_true.1 hbefore c hc)
  · have hlower : c.toLower ∈ fallback.toList := by
      rw [← h, toList_full]
      exact List.mem_map_of_mem hc
    have hfallback : fallback.toList.all isInLanguage = true := by decide
    rw [← isInLanguage_toLower]
    exact List.all_eq_true.1 hfallback _ hlower
  · exact isInLanguage_of_isSpace (List.all_eq_true.1 hbehind c hc)

/-- The region of a tag is not part of its language. -/
theorem language_region {lang : String} (hlang : ∀ c ∈ lang.toList, isInLanguage c = true) {sep : Char}
    (hsep : isInLanguage sep = false) (suffix : String) :
    language (lang ++ String.singleton sep ++ suffix) = full lang := by
  rw [← String.toList_inj, toList_language, toList_full, String.toList_append, String.toList_append,
    String.toList_singleton, List.append_assoc, List.takeWhile_append_of_pos hlang]
  simp [hsep]

/-! ### Tags as they are written -/

/-- The lower-case forms of the tags of entries. -/
def tags (entries : List (String × Vocabulary)) : List String :=
  entries.map fun e => e.1.toLower

/-- A vocabulary is written under a tag with the given lower-case form. -/
def Written (entries : List (String × Vocabulary)) (name : String) (v : Vocabulary) : Prop :=
  ∃ tag, (tag, v) ∈ entries ∧ tag.toLower = name

/-- An entry with its tag in lower case. -/
def lowered (e : String × Vocabulary) : String × Vocabulary :=
  (e.1.toLower, e.2)

theorem written_iff : Written entries name v ↔ (name, v) ∈ entries.map lowered := by
  rw [List.mem_map]
  constructor
  · rintro ⟨tag, hmem, rfl⟩
    exact ⟨(tag, v), hmem, rfl⟩
  · rintro ⟨⟨tag, v'⟩, hmem, heq⟩
    obtain ⟨rfl, rfl⟩ := Prod.mk.inj heq
    exact ⟨tag, hmem, rfl⟩

theorem mem_tags_iff : name ∈ tags entries ↔ ∃ v, Written entries name v := by
  rw [tags, List.mem_map]
  constructor
  · rintro ⟨⟨tag, v⟩, hmem, rfl⟩
    exact ⟨v, tag, hmem, rfl⟩
  · rintro ⟨v, tag, hmem, rfl⟩
    exact ⟨(tag, v), hmem, rfl⟩

theorem map_fst_lowered (entries : List (String × Vocabulary)) :
    (entries.map lowered).map Prod.fst = tags entries :=
  List.map_map

theorem get?_ofList_lowered_of_written (hdistinct : (tags entries).Nodup)
    (h : Written entries name v) : (Table.ofList (entries.map lowered)).get? name = some v := by
  rw [← map_fst_lowered] at hdistinct
  exact Table.get?_ofList_eq_some_iff.2 (lastWrite_of_mem hdistinct (written_iff.1 h))

theorem get?_ofList_lowered_of_not_mem (h : name ∉ tags entries) :
    (Table.ofList (entries.map lowered)).get? name = none := by
  rw [← map_fst_lowered] at h
  exact Table.get?_ofList_eq_none_iff.2 h

theorem get?_ofEntries (entries : List (String × Vocabulary)) (name : String) :
    (ofEntries entries).get? name =
      if name = fallback then
        some (((Table.ofList (entries.map lowered)).get? fallback).getD .english)
      else (Table.ofList (entries.map lowered)).get? name :=
  Table.get?_insertIfAbsent _ _ _ _

/-- What is written is found under the lower-case form of its tag. -/
theorem get?_ofEntries_of_written (hdistinct : (tags entries).Nodup) (h : Written entries name v) :
    (ofEntries entries).get? name = some v := by
  have hget := get?_ofList_lowered_of_written hdistinct h
  rw [get?_ofEntries]
  split
  · rename_i hname
    rw [← hname, hget]
    rfl
  · exact hget

/-- What is not written is not found, except for English. -/
theorem get?_ofEntries_of_not_mem (h : name ∉ tags entries) :
    (ofEntries entries).get? name = if name = fallback then some .english else none := by
  have hget := get?_ofList_lowered_of_not_mem h
  rw [get?_ofEntries]
  split
  · rename_i hname
    rw [← hname, hget]
    rfl
  · exact hget

/-! ### The vocabulary for a tag -/

/-- The vocabulary for a tag: the one that is written under it, else the one that is written under its
language, else the built-in one for English. -/
inductive Answers (entries : List (String × Vocabulary)) (tag : String) : Vocabulary → Prop where
  | whole {v : Vocabulary} : Written entries (full tag) v → Answers entries tag v
  | byLanguage {v : Vocabulary} : full tag ∉ tags entries → Written entries (language tag) v →
      Answers entries tag v
  | builtIn : full tag ∉ tags entries → language tag ∉ tags entries →
      full tag = fallback ∨ language tag = fallback → Answers entries tag .english

/-- A tag that is not written as a whole is looked up by its language. -/
theorem find?_of_not_mem (h : full tag ∉ tags entries) :
    (ofEntries entries).find? tag = (ofEntries entries).get? (language tag) := by
  show ((ofEntries entries).get? (full tag)).or _ = _
  rw [get?_ofEntries_of_not_mem h]
  split
  · rename_i hfull
    rw [hfull] at h
    rw [language_eq_of_full_eq_fallback hfull, get?_ofEntries_of_not_mem h]
    rfl
  · rfl

/-- **A look-up finds the vocabulary for a tag.** -/
theorem Answers.find?_eq (hdistinct : (tags entries).Nodup) (h : Answers entries tag v) :
    (ofEntries entries).find? tag = some v := by
  cases h with
  | whole hwhole =>
    show ((ofEntries entries).get? (full tag)).or _ = _
    rw [get?_ofEntries_of_written hdistinct hwhole]
    rfl
  | byLanguage hwhole hlanguage =>
    rw [find?_of_not_mem hwhole, get?_ofEntries_of_written hdistinct hlanguage]
  | builtIn hwhole hlanguage henglish =>
    have hfallback : language tag = fallback :=
      henglish.elim language_eq_of_full_eq_fallback id
    rw [find?_of_not_mem hwhole, get?_ofEntries_of_not_mem hlanguage, if_pos hfallback]

/-- **A look-up finds nothing else.** -/
theorem find?_of_not_answered (h : ∀ v, ¬ Answers entries tag v) :
    (ofEntries entries).find? tag = none := by
  have hwhole : full tag ∉ tags entries := fun hmem => by
    obtain ⟨v, hv⟩ := mem_tags_iff.1 hmem
    exact h v (.whole hv)
  have hlanguage : language tag ∉ tags entries := fun hmem => by
    obtain ⟨v, hv⟩ := mem_tags_iff.1 hmem
    exact h v (.byLanguage hwhole hv)
  have hfallback : language tag ≠ fallback := fun henglish =>
    h .english (.builtIn hwhole hlanguage (.inr henglish))
  rw [find?_of_not_mem hwhole, get?_ofEntries_of_not_mem hlanguage, if_neg hfallback]

/-- Tags alike but for their case make the same table, in any order. -/
theorem ofEntries_eq_of_perm (hdistinct : (tags entries).Nodup)
    (h : (entries'.map lowered).Perm (entries.map lowered)) : ofEntries entries' = ofEntries entries := by
  rw [← map_fst_lowered] at hdistinct
  have hlocales : Table.ofList (entries'.map lowered) = Table.ofList (entries.map lowered) :=
    (Table.insertMany_perm h.symm hdistinct .empty).symm
  show (Table.ofList (entries'.map lowered)).insertIfAbsent fallback .english = _
  rw [hlocales]
  rfl

theorem find?_eq_of_forms {locales : Locales} (hfull : full tag = full tag')
    (hlanguage : language tag = language tag') : locales.find? tag = locales.find? tag' := by
  show (locales.get? (full tag)).or _ = (locales.get? (full tag')).or _
  rw [hfull, hlanguage]

/-- With a region that is not written a tag is looked up like its language. -/
theorem find?_region {lang suffix : String} (hlang : ∀ c ∈ lang.toList, isInLanguage c = true)
    {sep : Char} (hsep : isInLanguage sep = false)
    (h : full (lang ++ String.singleton sep ++ suffix) ∉ tags entries) :
    (ofEntries entries).find? (lang ++ String.singleton sep ++ suffix) =
      (ofEntries entries).find? lang := by
  rw [find?_of_not_mem h, language_region hlang hsep]
  show _ = ((ofEntries entries).get? (full lang)).or ((ofEntries entries).get? (language lang))
  rw [language_eq_full hlang, Option.or_self]

end Locales

namespace Config

open Locales (Answers)

variable {env : Environment} {document : String} {c : Config} {d d' : Draft}

theorem vocabulary_none (c : Config) :
    c.vocabulary none = (c.locales.find? c.defaultLocale).getD .english := rfl

/-- A reader whose locale has no vocabulary is served like one without a locale. -/
theorem vocabulary_some (c : Config) (tag : String) :
    c.vocabulary (some tag) = (c.locales.find? tag).getD (c.vocabulary none) := by
  rw [vocabulary_none, vocabulary, Option.bind_some]
  cases c.locales.find? tag with
  | none => rfl
  | some v => rfl

/-- Drafts that are alike but for the case and the order of their tags. -/
def Draft.SameButTags (d' d : Draft) : Prop :=
  d' = { d with locales := d'.locales } ∧
    (d'.locales.map Locales.lowered).Perm (d.locales.map Locales.lowered)

theorem Draft.SameButTags.ofDraft_eq (h : d'.SameButTags d) (hdistinct : (Locales.tags d.locales).Nodup)
    (env : Environment) : ofDraft env d' = ofDraft env d := by
  obtain ⟨hfields, hperm⟩ := h
  have hlocales := Locales.ofEntries_eq_of_perm hdistinct hperm
  rw [hfields, ofDraft, ofDraft]
  simp only [hlocales]

/-- **Which vocabulary serves a reader.** It is the one that the document has for the reader's locale:
written under the whole tag, else under its language, else the built-in one for English; and where there
is none it is that of the default locale, found the same way, and English in the end. So neither the case
of a locale nor white space around it matters, nor a region that is not written, and the case and the
order of the tags of a document make no difference at all. -/
theorem vocabulary_follows_tags (hdraft : draftOf? document = some d)
    (hload : ofToml env document = .ok c) (hdistinct : (Locales.tags d.locales).Nodup) :
    (∀ tag, (∀ v, Answers d.locales tag v → c.vocabulary (some tag) = v) ∧
      ((∀ v, ¬ Answers d.locales tag v) → c.vocabulary (some tag) = c.vocabulary none)) ∧
    (∃ defaultTag, env.expand d.defaultLocale = .ok defaultTag ∧
      (∀ v, Answers d.locales defaultTag v → c.vocabulary none = v) ∧
      ((∀ v, ¬ Answers d.locales defaultTag v) → c.vocabulary none = .english)) ∧
    (∀ tag tag' : String, tag.toLower = tag'.toLower →
      c.vocabulary (some tag) = c.vocabulary (some tag')) ∧
    (∀ before tag behind : String, Text.isBlank before = true → Text.isBlank behind = true →
      c.vocabulary (some (before ++ tag ++ behind)) = c.vocabulary (some tag)) ∧
    (∀ document' d', draftOf? document' = some d' → d'.SameButTags d →
      ofToml env document' = .ok c) ∧
    ∀ (lang : String) (sep : Char) (suffix : String), '_' ∉ lang.toList → '-' ∉ lang.toList →
      (sep = '_' ∨ sep = '-') →
      Locales.full (lang ++ String.singleton sep ++ suffix) ∉ Locales.tags d.locales →
      c.vocabulary (some (lang ++ String.singleton sep ++ suffix)) = c.vocabulary (some lang) := by
  rw [ofToml_of_draftOf? hdraft] at hload
  obtain ⟨nullText, unknownText, defaultTag, -, -, hdefault, rfl, -⟩ := ofDraft_eq_ok_iff.1 hload
  have hlocales : (d.config nullText unknownText defaultTag).locales = .ofEntries d.locales := rfl
  refine ⟨?_, ?_, ?_, ?_, ?_, ?_⟩
  · intro tag
    rw [vocabulary_some, hlocales]
    constructor
    · intro v hv
      rw [hv.find?_eq hdistinct]
      rfl
    · intro hnone
      rw [Locales.find?_of_not_answered hnone]
      rfl
  · refine ⟨defaultTag, hdefault, ?_, ?_⟩
    · intro v hv
      exact congrArg (Option.getD · .english) (hv.find?_eq hdistinct)
    · intro hnone
      exact congrArg (Option.getD · .english) (Locales.find?_of_not_answered hnone)
  · intro tag tag' hlower
    rw [vocabulary_some, vocabulary_some, Locales.find?_eq_of_forms (Locales.full_of_toLower_eq hlower)
      (Locales.language_of_toLower_eq hlower)]
  · intro before tag behind hbefore hbehind
    rw [vocabulary_some, vocabulary_some, Locales.find?_eq_of_forms
      (Locales.full_pad hbefore hbehind tag) (Locales.language_pad hbefore hbehind tag)]
  · intro document' d' hdraft' hsame
    rw [ofToml_of_draftOf? hdraft', hsame.ofDraft_eq hdistinct, hload]
  · intro lang sep suffix hunderscore hhyphen hsep hregion
    have hlang : ∀ ch ∈ lang.toList, Locales.isInLanguage ch = true := by
      intro ch hmem
      rw [Locales.isInLanguage, decide_eq_true_iff]
      exact ⟨fun h => hunderscore (h ▸ hmem), fun h => hhyphen (h ▸ hmem)⟩
    have hends : Locales.isInLanguage sep = false := by
      rcases hsep with rfl | rfl <;> decide
    rw [vocabulary_some, vocabulary_some, hlocales, Locales.find?_region hlang hends hregion]

/-- A document whose tags are written in mixed case. -/
def taggedDocument : String :=
  "[resolution]\ndefault_locale = \"pt_BR\"\n[locales.PT]\nseconds = \"segundos\"\n" ++
  "[locales.De]\nseconds = \"Sekunden\"\n"

def portuguese : Vocabulary := { Vocabulary.english with seconds := "segundos" }

def german : Vocabulary := { Vocabulary.english with seconds := "Sekunden" }

def taggedDraft : Draft :=
  { style := standard.style, nullText := standard.nullText, unknownText := standard.unknownText,
    defaultLocale := "pt_BR", locales := [("PT", portuguese), ("De", german)], aliases := [] }

/-- The configuration that `taggedDocument` makes. -/
def taggedConfig : Config :=
  taggedDraft.config standard.nullText standard.unknownText "pt_BR"

theorem mixed_case_tags_followed :
    draftOf? taggedDocument = some taggedDraft ∧
    ofToml (.ofEntries []) taggedDocument = .ok taggedConfig ∧
    (Locales.tags taggedDraft.locales).Nodup ∧
    taggedConfig.vocabulary (some " DE-at ") = german ∧
    taggedConfig.vocabulary (some "en_GB") = .english ∧
    taggedConfig.vocabulary (some "ja") = portuguese := by
  have hdraft : draftOf? taggedDocument = some taggedDraft := by decide +kernel
  have hload : ofToml (.ofEntries []) taggedDocument = .ok taggedConfig := by
    rw [ofToml_of_draftOf? hdraft]
    decide +kernel
  have hdistinct : (Locales.tags taggedDraft.locales).Nodup := by decide +kernel
  obtain ⟨hreader, ⟨defaultTag, hexpand, hdefault, -⟩, -⟩ :=
    vocabulary_follows_tags hdraft hload hdistinct
  have hplain : (Environment.ofEntries []).expand taggedDraft.defaultLocale = .ok "pt_BR" := by
    decide +kernel
  rw [hplain, Except.ok.injEq] at hexpand
  subst hexpand
  have hgerman : Answers taggedDraft.locales " DE-at " german := by
    refine .byLanguage (by decide +kernel) ⟨"De", List.mem_cons_of_mem _ List.mem_cons_self, ?_⟩
    rw [← String.toList_inj, Locales.toList_language]
    decide +kernel
  have henglish : Answers taggedDraft.locales "en_GB" .english :=
    .builtIn (by decide +kernel) (by decide +kernel) (.inr (by decide +kernel))
  have hportuguese : Answers taggedDraft.locales "pt_BR" portuguese := by
    refine .byLanguage (by decide +kernel) ⟨"PT", List.mem_cons_self, ?_⟩
    rw [← String.toList_inj, Locales.toList_language]
    decide +kernel
  have hjapanese : ∀ v, ¬ Answers taggedDraft.locales "ja" v := by
    intro v hv
    cases hv with
    | whole h => exact absurd (Locales.mem_tags_iff.2 ⟨_, h⟩) (by decide +kernel)
    | byLanguage _ h => exact absurd (Locales.mem_tags_iff.2 ⟨_, h⟩) (by decide +kernel)
    | builtIn _ _ h => exact absurd h (by decide +kernel)
  exact ⟨hdraft, hload, hdistinct, (hreader _).1 _ hgerman, (hreader _).1 _ henglish,
    ((hreader _).2 hjapanese).trans (hdefault _ hportuguese)⟩

end Config

end Courier
