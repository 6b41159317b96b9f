import Courier.Proofs.KeyHierarchy
import Courier.Template

/-!
# The one decomposition of a template

Placeholders are read in two ways, by an iterator that goes on behind the last match and by a loop that
copies what it does not exchange. Both see the same decomposition of the text into gaps and tokens, for
any two delimiters, also equal ones and ones that keys are made of:

* `Template.MatchesAt`: the pattern, an opening delimiter, a key and a closing delimiter;
* `matchAt?_eq_some_iff`: the match at a place is the longest of those that the pattern allows there;
* `Template.Scanned`: the decomposition, with gaps in which no match starts and tokens that are the
  longest matches at their places;
* `Scanned.substituteChars_eq`, `Scanned.after`: both readings follow it;
* `Scanned.unique`: there is no other.
-/

namespace Courier

namespace Template

variable {d : Delimiters}

/-! ### The pattern -/

/-- A match of the pattern at the start of a text, with what comes after it. -/
def MatchesAt (d : Delimiters) (cs key rest : List Char) : Prop :=
  isKeyText key = true ∧ cs = d.tokenChars key ++ rest

/-- A match that no match at the same place exceeds. -/
def LongestAt (d : Delimiters) (cs key rest : List Char) : Prop :=
  MatchesAt d cs key rest ∧
    ∀ key' rest', MatchesAt d cs key' rest' → key'.length ≤ key.length

/-- Behind key characters and a closing delimiter the search does not come back with less. It gives up
characters only where nothing longer is followed by a closing delimiter. -/
theorem exists_longest? {closing : Char} {cs key rest : List Char} (hkey : key.all isKeyChar = true)
    (hcs : cs = key ++ closing :: rest) :
    ∃ key' rest', longest? closing cs = some (key', rest') ∧ key.length ≤ key'.length := by
  induction cs generalizing key with
  | nil =>
    cases key <;> cases hcs
  | cons c cs ih =>
    cases key with
    | nil =>
      obtain ⟨rfl, rfl⟩ : c = closing ∧ cs = rest := by simpa using hcs
      unfold longest?
      split
      · rename_i key' rest' _
        exact ⟨c :: key', rest', rfl, Nat.zero_le _⟩
      · rw [if_pos rfl]
        exact ⟨[], cs, rfl, Nat.le_refl _⟩
    | cons k ks =>
      obtain ⟨rfl, htail⟩ : c = k ∧ cs = ks ++ closing :: rest := by simpa using hcs
      rw [List.all_cons, Bool.and_eq_true] at hkey
      obtain ⟨key', rest', hfound, hlength⟩ := ih hkey.2 htail
      refine ⟨c :: key', rest', ?_, by simpa using hlength⟩
      rw [longest?, if_pos hkey.1, hfound]

theorem exists_matchAt? {cs key rest : List Char} (h : MatchesAt d cs key rest) :
    ∃ key' rest', matchAt? d cs = some (key', rest') ∧ key.length ≤ key'.length := by
  obtain ⟨hkey, rfl⟩ := h
  cases key with
  | nil => simp [isKeyText] at hkey
  | cons c ks =>
    simp only [isKeyText, Bool.and_eq_true] at hkey
    obtain ⟨key', rest', hfound, hlength⟩ :=
      exists_longest? hkey.2 (show ks ++ d.closing :: rest = ks ++ d.closing :: rest from rfl)
    refine ⟨c :: key', rest', ?_, by simpa using hlength⟩
    show (if d.opening = d.opening ∧ c.isAlpha = true then
      (longest? d.closing (ks ++ [d.closing] ++ rest)).map fun found => (c :: found.1, found.2)
      else none) = some (c :: key', rest')
    rw [if_pos ⟨rfl, hkey.1⟩, List.append_assoc, List.singleton_append, hfound]
    rfl

theorem matchesAt_of_matchAt? {cs key rest : List Char} (h : matchAt? d cs = some (key, rest)) :
    MatchesAt d cs key rest :=
  ⟨(matchAt?_eq_some h).2, (matchAt?_eq_some h).1⟩

/-- Matches at one place with keys of one length are equal. -/
theorem MatchesAt.eq_of_length {cs key rest key' rest' : List Char} (h : MatchesAt d cs key rest)
    (h' : MatchesAt d cs key' rest') (hlength : key.length = key'.length) :
    key = key' ∧ rest = rest' := by
  have heq : d.tokenChars key ++ rest = d.tokenChars key' ++ rest' := h.2.symm.trans h'.2
  simp only [Delimiters.tokenChars, List.cons_append, List.append_assoc, List.cons.injEq,
    true_and] at heq
  obtain ⟨hkey, hrest⟩ := List.append_inj heq hlength
  exact ⟨hkey, by simpa using hrest⟩

/-- **The match at a place is the longest one there.** -/
theorem matchAt?_eq_some_iff {cs key rest : List Char} :
    matchAt? d cs = some (key, rest) ↔ LongestAt d cs key rest := by
  constructor
  · intro h
    refine ⟨matchesAt_of_matchAt? h, fun key' rest' h' => ?_⟩
    obtain ⟨key₁, rest₁, hfound, hlength⟩ := exists_matchAt? h'
    rw [h] at hfound
    obtain ⟨rfl, -⟩ := Prod.mk.inj (Option.some.inj hfound)
    exact hlength
  · intro h
    obtain ⟨h, hlongest⟩ := h
    obtain ⟨key', rest', hfound, hlength⟩ := exists_matchAt? h
    have h' := matchesAt_of_matchAt? hfound
    obtain ⟨rfl, rfl⟩ := h.eq_of_length h' (Nat.le_antisymm hlength (hlongest key' rest' h'))
    exact hfound

theorem matchAt?_eq_none_iff {cs : List Char} :
    matchAt? d cs = none ↔ ∀ key rest, ¬ MatchesAt d cs key rest := by
  constructor
  · intro h key rest hmatch
    obtain ⟨key', rest', hfound, -⟩ := exists_matchAt? hmatch
    rw [h] at hfound
    cases hfound
  · intro h
    cases hfound : matchAt? d cs with
    | none => rfl
    | some found => exact absurd (matchesAt_of_matchAt? hfound) (h found.1 found.2)

/-! ### Gaps -/

/-- No match starts at any place of a gap, with all that comes behind the gap in view. -/
def NoMatchIn (d : Delimiters) (gap behind : List Char) : Prop :=
  ∀ skipped seen, gap = skipped ++ seen → seen ≠ [] →
    ∀ key rest, ¬ MatchesAt d (seen ++ behind) key rest

theorem noMatchIn_nil (d : Delimiters) (behind : List Char) : NoMatchIn d [] behind := by
  intro skipped seen hgap hseen
  exact absurd (List.append_eq_nil_iff.1 hgap.symm).2 hseen

theorem noMatchIn_cons_iff {c : Char} {gap behind : List Char} :
    NoMatchIn d (c :: gap) behind ↔
      matchAt? d (c :: (gap ++ behind)) = none ∧ NoMatchIn d gap behind := by
  rw [matchAt?_eq_none_iff]
  constructor
  · intro h
    refine ⟨h [] (c :: gap) rfl (List.cons_ne_nil _ _), ?_⟩
    intro skipped seen hgap hseen
    exact h (c :: skipped) seen (by rw [hgap]; rfl) hseen
  · intro h skipped seen hgap hseen
    obtain ⟨hhere, hlater⟩ := h
    cases skipped with
    | nil =>
      rw [← show c :: gap = seen from hgap]
      exact hhere
    | cons s skipped => exact hlater skipped seen (List.cons.inj hgap).2 hseen

theorem nextMatch?_cons_of_none {c : Char} {cs : List Char} (h : matchAt? d (c :: cs) = none) :
    nextMatch? d (c :: cs) = nextMatch? d cs := by
  rw [nextMatch?]
  split
  · simp_all
  · rfl

theorem nextMatch?_of_matchAt? {cs key rest : List Char} (h : matchAt? d cs = some (key, rest)) :
    nextMatch? d cs = some (key, rest) := by
  cases cs with
  | nil => simp [matchAt?] at h
  | cons c cs =>
    rw [nextMatch?]
    split <;> simp_all

/-- The search for the next match passes over a gap. -/
theorem NoMatchIn.nextMatch?_append {gap behind : List Char} (h : NoMatchIn d gap behind) :
    nextMatch? d (gap ++ behind) = nextMatch? d behind := by
  induction gap with
  | nil => rfl
  | cons c gap ih =>
    obtain ⟨hhere, hlater⟩ := noMatchIn_cons_iff.1 h
    rw [List.cons_append, nextMatch?_cons_of_none hhere]
    exact ih hlater

/-- A gap is copied as it stands. -/
theorem NoMatchIn.substituteChars_append {gap behind : List Char} (h : NoMatchIn d gap behind)
    (textOf : List Char → List Char) :
    substituteChars d textOf (gap ++ behind) = gap ++ substituteChars d textOf behind := by
  induction gap with
  | nil => rfl
  | cons c gap ih =>
    obtain ⟨hhere, hlater⟩ := noMatchIn_cons_iff.1 h
    rw [List.cons_append, substituteChars_of_matchAt?_none hhere, ih hlater]
    rfl

/-- Every text starts with a gap, which reaches to the first match or to the end. -/
theorem exists_gap (d : Delimiters) (cs : List Char) :
    NoMatchIn d cs [] ∨ ∃ gap behind key rest, cs = gap ++ behind ∧ NoMatchIn d gap behind ∧
      matchAt? d behind = some (key, rest) := by
  induction cs with
  | nil => exact .inl (noMatchIn_nil d [])
  | cons c cs ih =>
    cases hhere : matchAt? d (c :: cs) with
    | some found => exact .inr ⟨[], c :: cs, found.1, found.2, rfl, noMatchIn_nil d _, hhere⟩
    | none =>
      rcases ih with hnone | ⟨gap, behind, key, rest, rfl, hgap, hmatch⟩
      · refine .inl (noMatchIn_cons_iff.2 ⟨?_, hnone⟩)
        rw [List.append_nil]
        exact hhere
      · exact .inr ⟨c :: gap, behind, key, rest, rfl, noMatchIn_cons_iff.2 ⟨hhere, hgap⟩, hmatch⟩

/-! ### The decomposition -/

/-- A text in pieces, each of them a gap and the key of the token behind it, and a last gap. No match
starts inside a gap, and each token is the longest match at its place. -/
inductive Scanned (d : Delimiters) : List Char → List (List Char × Key) → List Char → Prop where
  | gap {last : List Char} : NoMatchIn d last [] → Scanned d last [] last
  | token {gap rest last : List Char} {k : Key} {pieces : List (List Char × Key)} :
      NoMatchIn d gap (d.tokenChars k.text.toList ++ rest) →
      LongestAt d (d.tokenChars k.text.toList ++ rest) k.text.toList rest →
      Scanned d rest pieces last →
      Scanned d (gap ++ (d.tokenChars k.text.toList ++ rest)) ((gap, k) :: pieces) last

/-- Pieces written one after the other, with a text for each of the keys. -/
def written (textOf : Key → List Char) (pieces : List (List Char × Key)) (last : List Char) :
    List Char :=
  (pieces.flatMap fun piece => piece.1 ++ textOf piece.2) ++ last

theorem written_cons (textOf : Key → List Char) (piece : List Char × Key)
    (pieces : List (List Char × Key)) (last : List Char) :
    written textOf (piece :: pieces) last =
      piece.1 ++ (textOf piece.2 ++ written textOf pieces last) := by
  rw [written, written, List.flatMap_cons, List.append_assoc, List.append_assoc]

theorem written_congr {textOf textOf' : Key → List Char} {pieces : List (List Char × Key)}
    {last : List Char} (h : ∀ k ∈ pieces.map Prod.snd, textOf k = textOf' k) :
    written textOf pieces last = written textOf' pieces last := by
  induction pieces with
  | nil => rfl
  | cons piece pieces ih =>
    obtain ⟨hhead, htail⟩ := List.forall_mem_cons.1 h
    rw [written_cons, written_cons, hhead, ih htail]

theorem exists_key_toList {key : List Char} (h : isKeyText key = true) :
    ∃ k : Key, k.text.toList = key :=
  ⟨⟨String.ofList key, by rwa [String.toList_ofList]⟩, String.toList_ofList⟩

/-- Every text has such a decomposition: after the first match the rest is shorter. -/
theorem exists_scanned (d : Delimiters) (cs : List Char) : ∃ pieces last, Scanned d cs pieces last := by
  rcases exists_gap d cs with hnone | ⟨gap, behind, key, rest, hcs, hgap, hmatch⟩
  · exact ⟨[], cs, .gap hnone⟩
  · have hlength : rest.length < cs.length := by
      have := length_matchAt?_lt hmatch
      rw [hcs, List.length_append]
      omega
    obtain ⟨pieces, last, hrest⟩ := exists_scanned d rest
    have hlongest := matchAt?_eq_some_iff.1 hmatch
    have hbehind := hlongest.1.2
    obtain ⟨k, rfl⟩ := exists_key_toList hlongest.1.1
    refine ⟨(gap, k) :: pieces, last, ?_⟩
    rw [hcs, hbehind]
    rw [hbehind] at hgap hlongest
    exact .token hgap hlongest hrest
termination_by cs.length

namespace Scanned

variable {cs last : List Char} {pieces : List (List Char × Key)}

/-- The pieces with their tokens make up the text. -/
theorem eq_written (h : Scanned d cs pieces last) :
    cs = written (fun k => d.tokenChars k.text.toList) pieces last := by
  induction h with
  | gap _ => rfl
  | token _ _ _ ih => rw [written_cons, ← ih]

theorem nextMatch?_nil (h : Scanned d cs [] last) : nextMatch? d cs = none := by
  cases h with
  | gap hgap =>
    have hnext := hgap.nextMatch?_append
    rw [List.append_nil] at hnext
    rw [hnext]
    rfl

theorem nextMatch?_cons {piece : List Char × Key} (h : Scanned d cs (piece :: pieces) last) :
    ∃ rest, nextMatch? d cs = some (piece.2.text.toList, rest) ∧ Scanned d rest pieces last := by
  cases h with
  | token hgap hlongest hrest =>
    refine ⟨_, ?_, hrest⟩
    rw [hgap.nextMatch?_append]
    exact nextMatch?_of_matchAt? (matchAt?_eq_some_iff.2 hlongest)

/-- The keys of the tokens are the keys that are read. -/
theorem keyChars_eq (h : Scanned d cs pieces last) :
    keyChars d cs = pieces.map fun piece => piece.2.text.toList := by
  induction pieces generalizing cs with
  | nil => exact keyChars_of_nextMatch?_none h.nextMatch?_nil
  | cons piece pieces ih =>
    obtain ⟨rest, hnext, hrest⟩ := h.nextMatch?_cons
    rw [keyChars_of_nextMatch? hnext, ih hrest]
    rfl

/-- **Substitution exchanges the tokens and copies the gaps.** -/
theorem substituteChars_eq (h : Scanned d cs pieces last) (textOf : List Char → List Char) :
    substituteChars d textOf cs = written (fun k => textOf k.text.toList) pieces last := by
  induction h with
  | @gap last hgap =>
    have hcopy := hgap.substituteChars_append textOf
    rw [List.append_nil, substituteChars_nil, List.append_nil] at hcopy
    exact hcopy
  | token hgap hlongest _ ih =>
    rw [hgap.substituteChars_append, substituteChars_of_matchAt? (matchAt?_eq_some_iff.2 hlongest),
      ih, written_cons]

/-- **There is only one decomposition.** Its keys are determined by the search, and each gap by what is
left of the text. -/
theorem unique {pieces' : List (List Char × Key)} {last' : List Char} (h : Scanned d cs pieces last)
    (h' : Scanned d cs pieces' last') : pieces' = pieces ∧ last' = last := by
  induction h generalizing pieces' last' with
  | @gap last hgap =>
    cases pieces' with
    | nil =>
      cases h'
      exact ⟨rfl, rfl⟩
    | cons piece pieces' =>
      obtain ⟨rest, hnext, -⟩ := h'.nextMatch?_cons
      rw [(Scanned.gap hgap).nextMatch?_nil] at hnext
      cases hnext
  | @token gap rest last k pieces hgap hlongest hrest ih =>
    have h₁ := Scanned.token hgap hlongest hrest
    generalize hcs : gap ++ (d.tokenChars k.text.toList ++ rest) = cs at h' h₁
    cases h' with
    | gap hgap' =>
      obtain ⟨_, hnext, -⟩ := h₁.nextMatch?_cons
      rw [(Scanned.gap hgap').nextMatch?_nil] at hnext
      cases hnext
    | @token gap' rest' last' k' pieces' hgap' hlongest' hrest' =>
      have hfound := hgap.nextMatch?_append
      rw [hcs, hgap'.nextMatch?_append, nextMatch?_of_matchAt? (matchAt?_eq_some_iff.2 hlongest'),
        nextMatch?_of_matchAt? (matchAt?_eq_some_iff.2 hlongest)] at hfound
      obtain ⟨hkey, hrests⟩ := Prod.mk.inj (Option.some.inj hfound)
      subst hrests
      rw [hkey] at hcs
      have hgaps : gap = gap' := List.append_cancel_right hcs
      have hk : k' = k := Key.eq_of_text (String.toList_inj.1 hkey)
      obtain ⟨rfl, rfl⟩ := ih hrest'
      exact ⟨by rw [hgaps, hk], rfl⟩

end Scanned

end Template

/-! ### Reading one key after the other -/

namespace Placeholders

open Template

/-- The reading after so many requests for a key. A request without an answer changes nothing. -/
def after (p : Placeholders) : Nat → Placeholders
  | 0 => p
  | n + 1 =>
    match p.next? with
    | some found => found.2.after n
    | none => p

variable {d : Delimiters} {cs last : List Char} {pieces : List (List Char × Key)}

/-- Each request takes one piece off the decomposition. -/
theorem after_of_scanned (h : Scanned d cs pieces last) (n : Nat) :
    ∃ rest, after ⟨d, cs⟩ n = ⟨d, rest⟩ ∧ Scanned d rest (pieces.drop n) last := by
  induction n generalizing cs pieces with
  | zero => exact ⟨cs, rfl, h⟩
  | succ n ih =>
    cases pieces with
    | nil =>
      refine ⟨cs, ?_, h⟩
      unfold after next?
      rw [h.nextMatch?_nil]
      rfl
    | cons piece pieces =>
      obtain ⟨rest, hnext, hrest⟩ := h.nextMatch?_cons
      obtain ⟨rest', hafter, hrest'⟩ := ih hrest
      refine ⟨rest', ?_, hrest'⟩
      unfold after next?
      rw [hnext]
      exact hafter

theorem next?_of_scanned (h : Scanned d cs pieces last) :
    ((⟨d, cs⟩ : Placeholders).next?).map Prod.fst = (pieces.map fun piece => piece.2.text).head? := by
  unfold next?
  cases pieces with
  | nil =>
    rw [h.nextMatch?_nil]
    rfl
  | cons piece pieces =>
    obtain ⟨rest, hnext, -⟩ := h.nextMatch?_cons
    rw [hnext]
    show some (String.ofList piece.2.text.toList) = some piece.2.text
    rw [String.ofList_toList]

theorem toList_of_scanned (h : Scanned d cs pieces last) :
    (⟨d, cs⟩ : Placeholders).toList = pieces.map fun piece => piece.2.text := by
  rw [toList, h.keyChars_eq, List.map_map]
  exact List.map_congr_left fun piece _ => String.ofList_toList

end Placeholders

namespace Delimiters

open Template

theorem textOf_key (d : Delimiters) (results : Fragment) (k : Key) :
    d.textOf results k.text.toList = ((results.get? k).getD (d.token k.text)).toList := by
  rw [textOf, String.ofList_toList, Table.named?_text]
  cases results.get? k with
  | none => exact String.toList_ofList.symm
  | some text => rfl

variable {d : Delimiters} {text : String} {pieces : List (List Char × Key)} {last : List Char}

/-- Substitution writes the gaps as they are, and for each key its text or else its token. -/
theorem substitute_of_scanned (h : Scanned d text.toList pieces last) (results : Fragment) :
    d.substitute text results = String.ofList
      (written (fun k => ((results.get? k).getD (d.token k.text)).toList) pieces last) := by
  show String.ofList (substituteChars d (d.textOf results) text.toList) = _
  rw [h.substituteChars_eq]
  simp only [textOf_key]

/-- The keys of a text are those of its tokens. -/
theorem mem_distinctKeys_of_scanned (h : Scanned d text.toList pieces last) {k : Key} :
    k.text ∈ d.distinctKeys [text] ↔ k ∈ pieces.map Prod.snd := by
  show k.text ∈ (((d.extract text).toList ++ []).eraseDups) ↔ _
  rw [List.append_nil, List.mem_eraseDups]
  show k.text ∈ (⟨d, text.toList⟩ : Placeholders).toList ↔ _
  rw [Placeholders.toList_of_scanned h, List.mem_map, List.mem_map]
  constructor
  · intro h
    obtain ⟨piece, hmem, htext⟩ := h
    exact ⟨piece, hmem, Key.eq_of_text htext⟩
  · intro h
    obtain ⟨piece, hmem, rfl⟩ := h
    exact ⟨piece, hmem, rfl⟩

/-- The keys of several texts are those of any of them. -/
theorem mem_distinctKeys {texts : List String} {name : String} :
    name ∈ d.distinctKeys texts ↔ ∃ text ∈ texts, name ∈ d.distinctKeys [text] := by
  unfold distinctKeys
  simp only [List.mem_eraseDups, List.mem_flatMap, List.mem_singleton, exists_eq_left]

/-- A token alone is one piece: no key that could be read in it is longer than its own. -/
theorem scanned_token (d : Delimiters) (k : Key) : Scanned d (d.token k.text).toList [([], k)] [] := by
  have hmatch : MatchesAt d (d.tokenChars k.text.toList ++ []) k.text.toList [] := ⟨k.valid, rfl⟩
  have hlongest : LongestAt d (d.tokenChars k.text.toList ++ []) k.text.toList [] := by
    refine ⟨hmatch, fun key' rest' h' => ?_⟩
    have hlength := congrArg List.length h'.2
    simp only [tokenChars, List.length_append, List.length_cons, List.length_nil] at hlength
    omega
  have hscanned := Scanned.token (noMatchIn_nil d _) hlongest (.gap (noMatchIn_nil d []))
  rw [List.nil_append, List.append_nil] at hscanned
  rw [token, String.toList_ofList]
  exact hscanned

theorem distinctKeys_token (d : Delimiters) (k : Key) : d.distinctKeys [d.token k.text] = [k.text] := by
  show ((⟨d, (d.token k.text).toList⟩ : Placeholders).toList ++ []).eraseDups = [k.text]
  rw [Placeholders.toList_of_scanned (scanned_token d k)]
  rfl

theorem substitute_token (d : Delimiters) (k : Key) (results : Fragment) :
    d.substitute (d.token k.text) results = (results.get? k).getD (d.token k.text) := by
  rw [substitute_of_scanned (scanned_token d k), written_cons]
  show String.ofList ([] ++ (((results.get? k).getD (d.token k.text)).toList ++ [])) = _
  rw [List.nil_append, List.append_nil, String.ofList_toList]

/-- Of the results only what stands for the keys of the text counts. -/
theorem substitute_congr {results results' : Fragment}
    (h : ∀ k : Key, k.text ∈ d.distinctKeys [text] →
      (results.get? k).getD (d.token k.text) = (results'.get? k).getD (d.token k.text)) :
    d.substitute text results = d.substitute text results' := by
  obtain ⟨pieces, last, hscanned⟩ := exists_scanned d text.toList
  rw [substitute_of_scanned hscanned, substitute_of_scanned hscanned]
  refine congrArg String.ofList (written_congr fun k hmem => ?_)
  rw [h k ((mem_distinctKeys_of_scanned hscanned).2 hmem)]

/-- **Both readings of a text follow its one decomposition.** The gaps hold no start of a match and the
tokens are the longest matches at their places; the iterator, at any time and also in a copy, has the
keys of the tokens still ahead of it and then nothing for ever; and substitution writes the gaps as they
are and a text or the token for each key. -/
theorem readings_follow_decomposition (d : Delimiters) (text : String) :
    ∃ (pieces : List (List Char × Key)) (last : List Char),
      Scanned d text.toList pieces last ∧
      (∀ pieces' last', Scanned d text.toList pieces' last' → pieces' = pieces ∧ last' = last) ∧
      text.toList =
        (pieces.flatMap fun piece => piece.1 ++ d.tokenChars piece.2.text.toList) ++ last ∧
      (∀ j n, ((((d.extract text).after j).after n).next?).map Prod.fst =
        ((pieces.map fun piece => piece.2.text).drop j)[n]?) ∧
      (∀ j, ((d.extract text).after j).toList = (pieces.map fun piece => piece.2.text).drop j) ∧
      ∀ results : Fragment, d.substitute text results = String.ofList
        ((pieces.flatMap fun piece =>
          piece.1 ++ ((results.get? piece.2).getD (d.token piece.2.text)).toList) ++ last) := by
  obtain ⟨pieces, last, hscanned⟩ := exists_scanned d text.toList
  refine ⟨pieces, last, hscanned, fun _ _ h => hscanned.unique h, hscanned.eq_written, ?_, ?_, ?_⟩
  · intro j n
    obtain ⟨rest, hafter, hrest⟩ := Placeholders.after_of_scanned hscanned j
    obtain ⟨rest', hafter', hrest'⟩ := Placeholders.after_of_scanned hrest n
    rw [extract, hafter, hafter', Placeholders.next?_of_scanned hrest', List.head?_eq_getElem?,
      List.map_drop, List.getElem?_drop, List.map_drop, Nat.add_zero]
  · intro j
    obtain ⟨rest, hafter, hrest⟩ := Placeholders.after_of_scanned hscanned j
    rw [extract, hafter, Placeholders.toList_of_scanned hrest, List.map_drop]
  · exact substitute_of_scanned hscanned

end Delimiters

end Courier
