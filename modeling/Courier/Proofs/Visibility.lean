import Courier.Proofs.ElapsedTime
import Courier.Proofs.Loading
import Courier.Proofs.Locality

/-!
# Nothing is filled with a blank

Where a value has a gap, a text of the configuration stands in its place, and a message that comes out
blank is not sent. With a configuration that was loaded from a document no such gap is filled with a
blank text:

* `Text.Visible`: a text with a character that is not white space;
* `Config.Visible.vocabulary`: every vocabulary that a reader can get has a visible phrase for times
  shorter than a second, the built-in one included;
* `Vocabulary.visible_elapsed`, `Namer.visible_of_aliases`: what the texts come to, kind by kind;
* `Resolver.visible_fragment`: a value that is filled from the configuration gives visible texts only;
* `Config.filled_texts_visible`: so it is for every configuration that a document makes.
-/

namespace Courier

/-! ### Visible texts -/

namespace Text

/-- Some character of a text is not white space. -/
def Visible (s : String) : Prop :=
  ∃ c ∈ s.toList, isSpace c = false

theorem visible_iff {s : String} : Visible s ↔ isBlank s = false := by
  unfold Visible isBlank
  rw [List.all_eq_false]
  simp

theorem Visible.append_right {t : String} (h : Visible t) (s : String) : Visible (s ++ t) := by
  obtain ⟨c, hmem, hc⟩ := h
  exact ⟨c, by rw [String.toList_append]; exact List.mem_append_right _ hmem, hc⟩

/-- A text that is not blank ends in a visible character once it is trimmed. -/
theorem visible_of_nonBlank? {s t : String} (h : nonBlank? s = some t) : Visible t := by
  unfold nonBlank? at h
  split at h
  · cases h
  · rename_i hblank
    obtain rfl := Option.some.inj h
    have hne : trimChars s.toList ≠ [] := fun hnil => hblank ((trimChars_eq_nil_iff _).1 hnil)
    unfold trimChars at hne
    cases hlast : (s.toList.dropWhile isSpace).reverse.dropWhile isSpace with
    | nil => simp [hlast] at hne
    | cons c cs =>
      refine ⟨c, ?_, head_dropWhile_isSpace hlast⟩
      rw [trim, trimChars, hlast, String.toList_ofList]
      simp

theorem isSpace_of_isDigit {c : Char} (h : c.isDigit = true) : isSpace c = false := by
  have hrange : 48 ≤ c.toNat ∧ c.toNat ≤ 57 := by
    simpa [Char.isDigit, UInt32.le_iff_toNat_le] using h
  simp [isSpace]
  omega

theorem visible_natText (n : Nat) : Visible (toString n) := by
  obtain ⟨c, hmem⟩ := List.exists_mem_of_ne_nil _ (natText_ne_nil n)
  exact ⟨c, hmem, isSpace_of_isDigit (isDigit_of_mem_natText hmem)⟩

theorem visible_intText (i : Int) : Visible (toString i) := by
  cases i with
  | ofNat n => exact visible_natText n
  | negSucc n => exact (visible_natText (n + 1)).append_right "-"

end Text

open Text (Visible)

/-! ### Elapsed time -/

/-- **Elapsed time is visible** if what is shorter than a second is, whatever the units are called: any
other length starts with a digit. -/
theorem Vocabulary.visible_elapsed {v : Vocabulary} (h : Visible v.lessThanSecond) (d : Duration) :
    Visible (v.elapsed d) := by
  rw [elapsed_eq]
  split
  · exact h
  · rename_i hseconds
    obtain ⟨c, hhead, hdigit⟩ := v.exists_head?_tell (Grain.breakdown_of_ne_zero hseconds).nonempty
    exact ⟨c, List.mem_of_head? hhead, Text.isSpace_of_isDigit hdigit⟩

/-! ### Vocabularies of a configuration -/

theorem Locales.exists_mem_of_find? {locales : Locales} {tag : String} {v : Vocabulary}
    (h : locales.find? tag = some v) : ∃ e ∈ locales.entries, e.2 = v := by
  rcases Option.or_eq_some_iff.1 h with h | ⟨-, h⟩
  · exact ⟨_, Table.mem_entries_of_get? h, rfl⟩
  · exact ⟨_, Table.mem_entries_of_get? h, rfl⟩

/-- Whatever locale a reader has, the vocabulary is validated or the built-in one. -/
theorem Config.Visible.vocabulary {c : Config} (h : c.Visible) (locale? : Option String) :
    Text.Visible (c.vocabulary locale?).lessThanSecond := by
  unfold Config.vocabulary
  cases hfound : (locale?.bind c.locales.find?).or (c.locales.find? c.defaultLocale) with
  | none => exact Text.visible_iff.2 (by decide +kernel)
  | some v =>
    have hsome : ∃ tag, c.locales.find? tag = some v := by
      rcases Option.or_eq_some_iff.1 hfound with hv | ⟨-, hv⟩
      · obtain ⟨tag, -, htag⟩ := Option.bind_eq_some_iff.1 hv
        exact ⟨tag, htag⟩
      · exact ⟨_, hv⟩
    obtain ⟨tag, htag⟩ := hsome
    obtain ⟨e, hmem, rfl⟩ := Locales.exists_mem_of_find? htag
    exact Text.visible_iff.2 (h.lessThanSecond e hmem)

/-! ### Names -/

namespace Namer

theorem visible_of_plain {w : World} {name : String} (h : plain w = some name) : Visible name :=
  Text.visible_of_nonBlank? h

/-- A blank alias gives way to the raw name. -/
theorem visible_of_aliases {table : Table String String} {w : World} {name : String}
    (h : aliases table w = some name) : Visible name := by
  rcases Option.or_eq_some_iff.1 h with h | ⟨-, h⟩
  · obtain ⟨_, -, h⟩ := Option.bind_eq_some_iff.1 h
    exact Text.visible_of_nonBlank? h
  · exact visible_of_plain h

end Namer

/-! ### Fragments -/

/-- All texts of a fragment are visible. -/
def Fragment.Visible (f : Fragment) : Prop :=
  ∀ k text, f.get? k = some text → Text.Visible text

namespace Fragment

theorem visible_empty : Visible .empty := by
  intro k text h
  rw [Table.get?_empty] at h
  cases h

theorem Visible.insert {f : Fragment} (hf : f.Visible) (k : Key) {own : String}
    (hown : Text.Visible own) : Visible (f.insert k own) := by
  intro k' text h
  rw [Table.get?_insert] at h
  split at h
  · exact Option.some.inj h ▸ hown
  · exact hf k' text h

theorem visible_singleton (k : Key) {own : String} (hown : Text.Visible own) :
    Visible (.singleton k own) :=
  visible_empty.insert k hown

theorem Visible.insertChild {f : Fragment} (hf : f.Visible) (k : Key) (segment : String)
    {below : String} (hbelow : Text.Visible below) : (f.insertChild k segment below).Visible := by
  intro k' text h
  rw [get?_insertChild] at h
  split at h
  · exact Option.some.inj h ▸ hbelow
  · exact hf k' text h

end Fragment

/-- The kinds of values whose gaps are filled from the configuration. -/
def Value.isFilled : Value → Bool
  | .null | .identity _ | .world _ | .location _ | .duration _ => true
  | _ => false

namespace Resolver

variable {r : Resolver}

theorem visible_worldName (hunknown : Visible r.config.unknownText)
    (hnamer : ∀ w name, r.namer w = some name → Visible name) (w? : Option World) :
    Visible (r.worldName w?) := by
  unfold worldName
  cases hname : w?.bind r.namer with
  | none => exact hunknown
  | some name =>
    obtain ⟨w, -, hw⟩ := Option.bind_eq_some_iff.1 hname
    exact hnamer w name hw

theorem visible_identityName (hunknown : Visible r.config.unknownText) (i : Identity) :
    Visible (r.identityName i) := by
  unfold identityName
  cases hname : i.name?.filter fun name => !Text.isBlank name with
  | none => exact hunknown
  | some name =>
    have hvisible := (Option.filter_eq_some_iff.1 hname).2
    exact Text.visible_iff.2 (by simpa using hvisible)

theorem visible_locationFragment (hworld : ∀ w?, Visible (r.worldName w?)) (k : Key) (l : Location) :
    (r.locationFragment k l).Visible := by
  simp only [locationFragment, List.foldl_cons, List.foldl_nil]
  refine Fragment.Visible.insertChild ?_ k "Z" (Text.visible_intText _)
  refine Fragment.Visible.insertChild ?_ k "Y" (Text.visible_intText _)
  refine Fragment.Visible.insertChild ?_ k "X" (Text.visible_intText _)
  refine Fragment.Visible.insertChild ?_ k "WORLD" (hworld _)
  refine Fragment.visible_singleton k (Text.Visible.append_right ?_ _)
  exact ⟨']', by simp, by decide⟩

theorem visible_worldFragment (hworld : ∀ w?, Visible (r.worldName w?)) (k : Key) (w : World) :
    (r.worldFragment k w).Visible :=
  (Fragment.visible_empty.insertChild k "NAME" (hworld _)).insert k (hworld _)

/-- What a configuration fills is visible if its texts are, and the names of worlds. -/
theorem visible_fragment (hconfig : r.config.Visible)
    (hnamer : ∀ w name, r.namer w = some name → Visible name) (reader : Recipient) (k : Key) {v : Value}
    (hv : v.isFilled = true) : (r.fragment reader k v).Visible := by
  have hunknown : Visible r.config.unknownText := Text.visible_iff.2 hconfig.unknownText
  have hworld : ∀ w?, Visible (r.worldName w?) := visible_worldName hunknown hnamer
  cases v with
  | null => exact Fragment.visible_singleton k (Text.visible_iff.2 hconfig.nullText)
  | identity i => exact Fragment.visible_singleton k (visible_identityName hunknown i)
  | world w => exact visible_worldFragment hworld k w
  | location l => exact visible_locationFragment hworld k l
  | duration d =>
    exact Fragment.visible_singleton k
      (Vocabulary.visible_elapsed (hconfig.vocabulary reader.locale?) d)
  | recipient _ => cases hv
  | item _ => cases hv
  | number _ => cases hv
  | text _ => cases hv
  | object _ => cases hv

end Resolver

namespace Config

/-- **What a loaded configuration fills is never blank.** Every text of a null, of someone's name, of a
world, of a location or of a length of time has a character that is not white space, under its own key
and below it, whatever the environment, the reader's locale and the aliases of worlds are. -/
theorem filled_texts_visible {env : Environment} {document : String} {c : Config}
    (hload : ofToml env document = .ok c) {namer : Namer}
    (hnamer : namer = .plain ∨ ∃ table, namer = .aliases table) (reader : Recipient) (k : Key)
    {v : Value} (hv : v.isFilled = true) :
    (∀ k' text, ((⟨c, namer⟩ : Resolver).fragment reader k v).get? k' = some text →
      ∃ ch ∈ text.toList, Text.isSpace ch = false) ∧
    ∃ text, ((⟨c, namer⟩ : Resolver).fragment reader k v).get? k = some text := by
  have hnames : ∀ w name, namer w = some name → Text.Visible name := by
    intro w name hname
    rcases hnamer with rfl | ⟨table, rfl⟩
    · exact Namer.visible_of_plain hname
    · exact Namer.visible_of_aliases hname
  refine ⟨Resolver.visible_fragment (visible_of_ofToml hload) hnames reader k hv, ?_⟩
  rw [← Option.ne_none_iff_exists']
  intro hnone
  rw [(Resolver.get?_fragment_self_eq_none_iff _ reader k v).1 hnone] at hv
  cases hv

/-- A document whose text for what is not known comes from the environment. -/
def gapDocument : String := "[resolution]\nunknown_text = \"$\x7bGAP:-?\x7d\"\n"

def gapEnvironment : Environment := .ofEntries [("GAP", " -- ")]

/-- A location in a world without a name. -/
def nowhere : Location := ⟨some ⟨"\t"⟩, ⟨0⟩, ⟨0⟩, ⟨0⟩⟩

theorem nowhere_visible :
    ofToml gapEnvironment gapDocument = .ok { standard with unknownText := " -- " } ∧
    (Value.location nowhere).isFilled = true ∧
    ((⟨{ standard with unknownText := " -- " }, .aliases (.singleton "\t" " ")⟩ :
      Resolver).fragment (.named "Alex") ⟨"HOME", by decide⟩ (.location nowhere)).get?
        ⟨"HOME", by decide⟩ = some " --  [0, 0, 0]" ∧
    ∃ ch ∈ " --  [0, 0, 0]".toList, Text.isSpace ch = false := by
  have hload : ofToml gapEnvironment gapDocument =
      .ok { standard with unknownText := " -- " } := by decide +kernel
  obtain ⟨hvisible, -⟩ := filled_texts_visible hload (.inr ⟨.singleton "\t" " ", rfl⟩) (.named "Alex")
    ⟨"HOME", by decide⟩ (show (Value.location nowhere).isFilled = true from rfl)
  have htext : ((⟨{ standard with unknownText := " -- " }, .aliases (.singleton "\t" " ")⟩ :
      Resolver).fragment (.named "Alex") ⟨"HOME", by decide⟩ (.location nowhere)).get?
        ⟨"HOME", by decide⟩ = some " --  [0, 0, 0]" := by decide +kernel
  exact ⟨hload, rfl, htext, hvisible _ _ htext⟩

end Config

end Courier
