import Courier.Vocabulary
import Mathlib.Data.List.Chain

/-!
# Elapsed time in words

A length of time is told in days, hours, minutes and seconds, without those of which there are none. The
text can be taken apart again: between its spaces stand counts and names in turn, so that it tells the
whole seconds exactly, in every language that has different names for the units and no space in them.

* `Grain.Breakdown`: what it means that counts of units make up a number of seconds;
* `Grain.breakdown_of_ne_zero`: the counts that are told do;
* `Unambiguous.splitOn_tell`: the pieces of a text between its spaces;
* `Unambiguous.tell_injective`: so no two lists of counts have one text;
* `Vocabulary.elapsed_exact_and_unambiguous`: what is told of a length of time, and that nothing of it is
  lost but the fraction of a second.
-/

namespace Courier

theorem Duration.seconds_ofSeconds {s n : Nat} (hn : n < perSecond) : (ofSeconds s n).seconds = s := by
  rw [seconds, ofSeconds, Nat.add_comm, Nat.add_mul_div_right _ _ (by decide), Nat.div_eq_of_lt hn,
    Nat.zero_add]

/-! ### Numbers in digits -/

namespace Text

theorem isDigit_of_mem_natText {n : Nat} {c : Char} (h : c ∈ (toString n).toList) : c.isDigit = true := by
  rw [Nat.toString_eq_repr, Nat.toList_repr] at h
  exact Nat.isDigit_of_mem_toDigits (by decide) (by decide) h

theorem natText_ne_nil (n : Nat) : (toString n).toList ≠ [] := by
  rw [Nat.toString_eq_repr, Nat.toList_repr]
  exact Nat.toDigits_ne_nil

/-- A number can be read from its digits. -/
theorem natText_injective {m n : Nat} (h : (toString m).toList = (toString n).toList) : m = n := by
  rw [Nat.toString_eq_repr, Nat.toString_eq_repr, Nat.toList_repr, Nat.toList_repr] at h
  calc m
    _ = Nat.ofDigitChars 10 (Nat.toDigits 10 m) 0 := Nat.ofDigitChars_ten_toDigits.symm
    _ = Nat.ofDigitChars 10 (Nat.toDigits 10 n) 0 := by rw [h]
    _ = n := Nat.ofDigitChars_ten_toDigits

end Text

/-! ### Counts of units -/

/-- The units in which elapsed time is told. -/
inductive Grain where
  | day
  | hour
  | minute
  | second
  deriving DecidableEq

namespace Grain

/-- The seconds of a unit. -/
def length : Grain → Nat
  | day => 86400
  | hour => 3600
  | minute => 60
  | second => 1

theorem length_pos (g : Grain) : 0 < g.length := by
  cases g <;> decide

/-- How many of a unit make the next longer one, if there is a longer one. -/
def limit? : Grain → Option Nat
  | day => none
  | hour => some 24
  | minute => some 60
  | second => some 60

/-- The units from the longest to the shortest. -/
def all : List Grain := [day, hour, minute, second]

/-- So many of a unit. -/
structure Part where
  grain : Grain
  count : Nat
  deriving DecidableEq

def Part.seconds (p : Part) : Nat := p.count * p.grain.length

/-- The seconds of parts together. -/
def total : List Part → Nat
  | [] => 0
  | p :: ps => p.seconds + total ps

/-- Parts make up a number of seconds: there is at least one, they go from the longer units to the
shorter, none is empty, none has as many of its unit as make a longer one, and nothing is left over. -/
structure Breakdown (parts : List Part) (seconds : Nat) : Prop where
  nonempty : parts ≠ []
  descending : parts.Pairwise fun p q => q.grain.length < p.grain.length
  positive : ∀ p ∈ parts, 0 < p.count
  bounded : ∀ p ∈ parts, ∀ limit ∈ p.grain.limit?, p.count < limit
  total_eq : total parts = seconds

/-- A number of seconds in parts of the given units, each of what the ones before it have left. -/
def parts : List Grain → Nat → List Part
  | [], _ => []
  | g :: gs, n => (if n / g.length = 0 then [] else [⟨g, n / g.length⟩]) ++ parts gs (n % g.length)

variable {g : Grain} {gs : List Grain} {n : Nat} {p : Part}

theorem mem_parts_cons :
    p ∈ parts (g :: gs) n ↔ (n / g.length ≠ 0 ∧ p = ⟨g, n / g.length⟩) ∨ p ∈ parts gs (n % g.length) := by
  rw [parts, List.mem_append]
  split <;> simp [*]

/-- The units of the parts stand in the order in which they were given. -/
theorem sublist_parts (gs : List Grain) (n : Nat) : ((parts gs n).map Part.grain).Sublist gs := by
  induction gs generalizing n with
  | nil => exact List.Sublist.refl _
  | cons g gs ih =>
    rw [parts, List.map_append]
    split
    · exact (ih _).cons g
    · exact (ih _).cons_cons g

theorem count_pos_of_mem_parts (h : p ∈ parts gs n) : 0 < p.count := by
  induction gs generalizing n with
  | nil => cases h
  | cons g gs ih =>
    rcases mem_parts_cons.1 h with ⟨hne, rfl⟩ | h
    · exact Nat.pos_of_ne_zero hne
    · exact ih h

/-- The parts and what the last unit leaves over add up. -/
theorem total_parts (gs : List Grain) (n : Nat) :
    total (parts gs n) + gs.foldl (fun rest g => rest % g.length) n = n := by
  induction gs generalizing n with
  | nil => exact Nat.zero_add n
  | cons g gs ih =>
    have hdiv := Nat.div_add_mod' n g.length
    have hrest := ih (n % g.length)
    rw [parts, List.foldl_cons]
    split
    · rename_i hzero
      rw [hzero] at hdiv
      rw [List.nil_append]
      omega
    · rw [List.singleton_append]
      show n / g.length * g.length + total _ + _ = n
      omega

/-- So many of the second unit make the first. -/
def Makes (g g' : Grain) : Prop :=
  ∃ limit, g'.limit? = some limit ∧ g.length = limit * g'.length

/-- What one unit leaves over has not enough of the next to make one more. -/
theorem count_lt_of_mem_parts (hchain : (g :: gs).IsChain Makes) (hn : n < g.length)
    (h : p ∈ parts gs n) : ∀ limit ∈ p.grain.limit?, p.count < limit := by
  induction gs generalizing g n with
  | nil => cases h
  | cons g' gs ih =>
    -- There is less left than one of the unit before: that bounds the count here, and holds again behind.
    obtain ⟨⟨limit, hlimit, hlength⟩, hrest⟩ := List.isChain_cons_cons.1 hchain
    rcases mem_parts_cons.1 h with ⟨-, rfl⟩ | h
    · intro limit' hlimit'
      obtain rfl : limit = limit' := Option.some.inj (hlimit.symm.trans hlimit')
      rw [hlength] at hn
      exact Nat.div_lt_of_lt_mul (by rwa [Nat.mul_comm])
    · exact ih hrest (Nat.mod_lt n g'.length_pos) h

theorem isChain_all : all.IsChain Makes :=
  .cons_cons ⟨24, rfl, rfl⟩ (.cons_cons ⟨60, rfl, rfl⟩ (.cons_cons ⟨60, rfl, rfl⟩ (.singleton _)))

/-- **Every number of seconds but zero is broken down** into days, hours, minutes and seconds. -/
theorem breakdown_of_ne_zero {n : Nat} (hn : n ≠ 0) : Breakdown (parts all n) n := by
  have htotal : total (parts all n) = n := by
    have hall := total_parts all n
    simp only [all, List.foldl_cons, List.foldl_nil, length, Nat.mod_one, Nat.add_zero] at hall
    exact hall
  refine ⟨?_, ?_, fun p hp => count_pos_of_mem_parts hp, ?_, htotal⟩
  · intro hnil
    rw [hnil] at htotal
    exact hn htotal.symm
  · have hall : all.Pairwise fun g g' => g'.length < g.length := by decide
    exact List.pairwise_map.1 (hall.sublist (sublist_parts all n))
  · intro p hp
    rcases mem_parts_cons.1 hp with ⟨-, rfl⟩ | hp
    · intro limit hlimit
      cases hlimit
    · exact count_lt_of_mem_parts isChain_all (Nat.mod_lt n (length_pos day)) hp

end Grain

namespace Vocabulary

open Grain (Part Breakdown)

/-! ### The text of parts -/

/-- The name for one of a unit. -/
def one (v : Vocabulary) : Grain → String
  | .day => v.day
  | .hour => v.hour
  | .minute => v.minute
  | .second => v.second

/-- The name for any other number of a unit. -/
def many (v : Vocabulary) : Grain → String
  | .day => v.days
  | .hour => v.hours
  | .minute => v.minutes
  | .second => v.seconds

/-- The name of the unit of a part. -/
def name (v : Vocabulary) (p : Part) : String :=
  if p.count = 1 then v.one p.grain else v.many p.grain

/-- Counts and names, with single spaces between them. -/
def tell (v : Vocabulary) (ps : List Part) : String :=
  String.intercalate " " (ps.map fun p => toString p.count ++ " " ++ v.name p)

variable {v : Vocabulary}

theorem parts_units (v : Vocabulary) (gs : List Grain) (n : Nat) :
    parts (gs.map fun g => ⟨g.length, v.one g, v.many g⟩) n =
      (Grain.parts gs n).map fun p => toString p.count ++ " " ++ v.name p := by
  induction gs generalizing n with
  | nil => rfl
  | cons g gs ih =>
    rw [List.map_cons, parts, Grain.parts, List.map_append, ih]
    congr 1
    split <;> rfl

/-- The text of a length of time, part by part. -/
theorem elapsed_eq (v : Vocabulary) (d : Duration) :
    v.elapsed d = if d.seconds = 0 then v.lessThanSecond else v.tell (Grain.parts Grain.all d.seconds) := by
  rw [elapsed, tell, ← parts_units]
  rfl

/-! ### Taking a text apart -/

/-- Names that tell units apart: none has a space in it, no two units have the same name for one or the
same for many, and the phrase for less than a second does not start like a count. -/
structure Unambiguous (v : Vocabulary) : Prop where
  unspaced : ∀ g, ' ' ∉ (v.one g).toList ∧ ' ' ∉ (v.many g).toList
  one_injective : ∀ g g', v.one g = v.one g' → g = g'
  many_injective : ∀ g g', v.many g = v.many g' → g = g'
  phrase : ∀ c ∈ v.lessThanSecond.toList.head?, c.isDigit = false

/-- The two pieces that a part puts between spaces. -/
def pieces (v : Vocabulary) (p : Part) : List (List Char) :=
  [(toString p.count).toList, (v.name p).toList]

theorem Unambiguous.space_not_mem_name (h : v.Unambiguous) (p : Part) : ' ' ∉ (v.name p).toList := by
  rw [name]
  split
  · exact (h.unspaced p.grain).1
  · exact (h.unspaced p.grain).2

theorem splitOn_word {word : List Char} (h : ' ' ∉ word) (rest : List Char) :
    (word ++ ' ' :: rest).splitOn ' ' = word :: rest.splitOn ' ' := by
  rw [List.splitOn_append_cons_self, List.splitOn_eq_singleton h]
  rfl

/-- **Between its spaces a text has the counts and the names of its parts in turn.** -/
theorem Unambiguous.splitOn_tell (h : v.Unambiguous) {ps : List Part} (hne : ps ≠ []) :
    (v.tell ps).toList.splitOn ' ' = ps.flatMap v.pieces := by
  induction ps with
  | nil => exact absurd rfl hne
  | cons p ps ih =>
    have hcount : ' ' ∉ (toString p.count).toList := fun h =>
      absurd (Text.isDigit_of_mem_natText h) (by decide)
    have hname := h.space_not_mem_name p
    -- The name of the last part ends the text; any other is followed by a space, as every count is.
    cases ps with
    | nil =>
      have htext : (v.tell [p]).toList = (toString p.count).toList ++ ' ' :: (v.name p).toList := by
        rw [tell, List.map_singleton, String.intercalate_singleton]
        simp
      rw [htext, splitOn_word hcount, List.splitOn_eq_singleton hname]
      rfl
    | cons q qs =>
      have htext : (v.tell (p :: q :: qs)).toList =
          (toString p.count).toList ++ ' ' :: ((v.name p).toList ++ ' ' :: (v.tell (q :: qs)).toList) := by
        rw [tell, List.map_cons, List.map_cons, String.intercalate_cons_cons]
        simp [tell]
      rw [htext, splitOn_word hcount, splitOn_word hname, ih (List.cons_ne_nil q qs)]
      rfl

/-- Count and name determine a part: a count tells which of the names it goes with. -/
theorem Unambiguous.pieces_injective (h : v.Unambiguous) {p q : Part} (heq : v.pieces p = v.pieces q) :
    p = q := by
  obtain ⟨hcount, hname⟩ := List.cons.inj heq
  obtain ⟨hname, -⟩ := List.cons.inj hname
  have hcount : p.count = q.count := Text.natText_injective hcount
  have hname : v.name p = v.name q := String.toList_inj.1 hname
  -- With one count for both, both names are for one of a unit, or both for many.
  have hgrain : p.grain = q.grain := by
    rw [name, name, hcount] at hname
    split at hname
    · exact h.one_injective _ _ hname
    · exact h.many_injective _ _ hname
  obtain ⟨grain, count⟩ := p
  obtain ⟨grain', count'⟩ := q
  rw [show grain = grain' from hgrain, show count = count' from hcount]

theorem Unambiguous.flatMap_pieces_injective (h : v.Unambiguous) {ps qs : List Part}
    (heq : ps.flatMap v.pieces = qs.flatMap v.pieces) : ps = qs := by
  induction ps generalizing qs with
  | nil =>
    cases qs with
    | nil => rfl
    | cons q qs => cases heq
  | cons p ps ih =>
    cases qs with
    | nil => cases heq
    | cons q qs =>
      rw [List.flatMap_cons, List.flatMap_cons] at heq
      obtain ⟨hhead, htail⟩ := List.append_inj heq rfl
      rw [h.pieces_injective hhead, ih htail]

/-- **No two lists of parts have one text.** -/
theorem Unambiguous.tell_injective (h : v.Unambiguous) {ps qs : List Part} (hps : ps ≠ [])
    (hqs : qs ≠ []) (heq : v.tell ps = v.tell qs) : ps = qs := by
  refine h.flatMap_pieces_injective ?_
  rw [← h.splitOn_tell hps, ← h.splitOn_tell hqs, heq]

/-- The text of parts starts with a digit of the first count. -/
theorem exists_head?_tell (v : Vocabulary) {ps : List Part} (hne : ps ≠ []) :
    ∃ c, (v.tell ps).toList.head? = some c ∧ c.isDigit = true := by
  obtain ⟨p, ps, rfl⟩ := List.exists_cons_of_ne_nil hne
  obtain ⟨c, cs, hdigits⟩ := List.exists_cons_of_ne_nil (Text.natText_ne_nil p.count)
  have hmem : c ∈ (toString p.count).toList := by
    rw [hdigits]
    exact List.mem_cons_self
  refine ⟨c, ?_, Text.isDigit_of_mem_natText hmem⟩
  rw [tell, List.map_cons, String.append_assoc, String.intercalate_cons_append, String.toList_append,
    hdigits]
  rfl

/-- The phrase for less than a second is not the text of any parts. -/
theorem Unambiguous.tell_ne_phrase (h : v.Unambiguous) {ps : List Part} (hne : ps ≠ []) :
    v.tell ps ≠ v.lessThanSecond := by
  intro heq
  obtain ⟨c, hhead, hdigit⟩ := v.exists_head?_tell hne
  rw [heq] at hhead
  rw [h.phrase c hhead] at hdigit
  cases hdigit

/-- **In an unambiguous language elapsed time tells the whole seconds.** -/
theorem Unambiguous.seconds_eq (h : v.Unambiguous) {d d' : Duration}
    (heq : v.elapsed d = v.elapsed d') : d.seconds = d'.seconds := by
  rw [elapsed_eq, elapsed_eq] at heq
  by_cases hd : d.seconds = 0
  · by_cases hd' : d'.seconds = 0
    · rw [hd, hd']
    · rw [if_pos hd, if_neg hd'] at heq
      exact absurd heq.symm (h.tell_ne_phrase (Grain.breakdown_of_ne_zero hd').nonempty)
  · have hparts := Grain.breakdown_of_ne_zero hd
    by_cases hd' : d'.seconds = 0
    · rw [if_neg hd, if_pos hd'] at heq
      exact absurd heq (h.tell_ne_phrase hparts.nonempty)
    · have hparts' := Grain.breakdown_of_ne_zero hd'
      rw [if_neg hd, if_neg hd'] at heq
      rw [← hparts.total_eq, ← hparts'.total_eq, h.tell_injective hparts.nonempty hparts'.nonempty heq]

theorem unambiguous_english : english.Unambiguous where
  unspaced := by
    intro g
    cases g <;> decide
  one_injective := by
    intro g g'
    cases g <;> cases g' <;> decide
  many_injective := by
    intro g g'
    cases g <;> cases g' <;> decide
  phrase := by
    intro c hc
    have hhead : english.lessThanSecond.toList.head? = some 'l' := by decide +kernel
    obtain rfl : 'l' = c := Option.some.inj (hhead.symm.trans hc)
    rfl

/-- **What is told of a length of time.** Less than a second is told by the phrase for it; any other
length by the counts of days, hours, minutes and seconds that make it up, joined by single spaces, each
with the name for one of the unit or for many. The fraction of a second has no part in the text, and in
an unambiguous language, such as English, all else can be told from it. -/
theorem elapsed_exact_and_unambiguous (v : Vocabulary) :
    (∀ d : Duration, d.seconds = 0 → v.elapsed d = v.lessThanSecond) ∧
    (∀ d : Duration, d.seconds ≠ 0 → ∃ ps : List Part, Breakdown ps d.seconds ∧
      v.elapsed d = String.intercalate " " (ps.map fun p =>
        toString p.count ++ " " ++ if p.count = 1 then v.one p.grain else v.many p.grain)) ∧
    (∀ s n, n < Duration.perSecond → v.elapsed (.ofSeconds s n) = v.elapsed (.ofSeconds s 0)) ∧
    (v.Unambiguous → ∀ d d' : Duration, v.elapsed d = v.elapsed d' → d.seconds = d'.seconds) ∧
    english.Unambiguous := by
  refine ⟨fun d hd => ?_, fun d hd => ?_, fun s n hn => ?_, fun h d d' => h.seconds_eq,
    unambiguous_english⟩
  · rw [elapsed_eq, if_pos hd]
  · refine ⟨Grain.parts Grain.all d.seconds, Grain.breakdown_of_ne_zero hd, ?_⟩
    rw [elapsed_eq, if_neg hd]
    rfl
  · rw [elapsed, elapsed, Duration.seconds_ofSeconds hn, Duration.seconds_ofSeconds (by decide)]

/-- In English a day, a minute and half a second are not told like a day and an hour. -/
theorem day_and_minute_told_apart_from_day_and_hour :
    english.elapsed (.ofSeconds 86460 500000000) = "1 day 1 minute" ∧
    english.elapsed (.ofSeconds 0 999999999) = "less than one second" ∧
    (∃ ps, Breakdown ps 86460) ∧
    english.elapsed (.ofSeconds 86460 500000000) ≠ english.elapsed (.ofSeconds 90000 0) := by
  obtain ⟨hphrase, hparts, hfraction, hapart, henglish⟩ := elapsed_exact_and_unambiguous english
  refine ⟨?_, hphrase _ (by decide), ?_, fun heq => ?_⟩
  · rw [hfraction _ _ (by decide)]
    decide +kernel
  · obtain ⟨ps, hps, -⟩ := hparts (.ofSeconds 86460 0) (by decide)
    exact ⟨ps, hps⟩
  · exact absurd (hapart henglish _ _ heq) (by decide)

/-- Names with spaces are another matter: a minute called `h 1 s` is told like an hour and a second. -/
example :
    let v : Vocabulary := { english with hour := "h", minute := "h 1 s", second := "s" }
    v.elapsed (.ofSeconds 60 0) = "1 h 1 s" ∧ v.elapsed (.ofSeconds 3601 0) = "1 h 1 s" := by
  decide +kernel

end Vocabulary

end Courier
