import Courier.Proofs.Ancestry
import Courier.Proofs.Overwriting
import Courier.Proofs.Truncation
import Courier.Resolver

/-!
# What a location reads as

A location has five texts: one for the whole, and under four keys below its own one for the world and one
for each coordinate. There are always five of them, whatever the key looks like, and the coordinates are
whole parts, exact for every pattern of bits that a coordinate can be.

* `Key.exists_child`: a key has the children that the texts need;
* `Resolver.locationFragment_eq`: the five texts, written one after the other;
* `Resolver.location_read_exactly`: what is found under every name.
-/

namespace Courier

/-- A key has a child under any segment of key characters. -/
theorem Key.exists_child (k : Key) (segment : String) (hne : segment ≠ "")
    (hchars : segment.toList.all isKeyChar = true) :
    ∃ child, k.child? segment = some child ∧ child.text = k.text ++ "." ++ segment := by
  obtain ⟨child, hchild⟩ := Option.isSome_iff_exists.1 (isSome_child?_iff.2 ⟨hne, List.all_eq_true.1 hchars⟩)
  exact ⟨child, hchild, text_of_child? hchild⟩

/-- What follows a common beginning tells texts apart. -/
theorem nodup_of_texts {keys : List Key} (start : String) (ends : List String) (hdistinct : ends.Nodup)
    (h : keys.map Key.text = ends.map (start ++ ·)) : keys.Nodup := by
  refine List.Nodup.of_map Key.text ?_
  rw [h]
  exact hdistinct.map fun s t heq => (String.append_right_inj start).1 heq

namespace Resolver

variable (r : Resolver) (k : Key) (l : Location)

/-- The text of a location as a whole. -/
def wholeText : String :=
  r.worldName l.world? ++ " [" ++ toString l.x.whole ++ ", " ++ toString l.y.whole ++ ", " ++
    toString l.z.whole ++ "]"

/-- **The five texts of a location,** under different keys. -/
theorem locationFragment_eq : ∃ world x y z : Key,
    world.text = k.text ++ ".WORLD" ∧ x.text = k.text ++ ".X" ∧ y.text = k.text ++ ".Y" ∧
    z.text = k.text ++ ".Z" ∧ [k, world, x, y, z].Nodup ∧
    r.locationFragment k l = .ofList [(k, r.wholeText l), (world, r.worldName l.world?),
      (x, toString l.x.whole), (y, toString l.y.whole), (z, toString l.z.whole)] := by
  obtain ⟨world, hworld, hworldText⟩ := k.exists_child "WORLD" (by decide) (by decide)
  obtain ⟨x, hx, hxText⟩ := k.exists_child "X" (by decide) (by decide)
  obtain ⟨y, hy, hyText⟩ := k.exists_child "Y" (by decide) (by decide)
  obtain ⟨z, hz, hzText⟩ := k.exists_child "Z" (by decide) (by decide)
  rw [String.append_assoc] at hworldText hxText hyText hzText
  refine ⟨world, x, y, z, hworldText, hxText, hyText, hzText, ?_, ?_⟩
  · refine nodup_of_texts k.text ["", ".WORLD", ".X", ".Y", ".Z"] (by decide) ?_
    simp only [List.map_cons, List.map_nil, hworldText, hxText, hyText, hzText, String.append_empty]
    rfl
  · simp only [locationFragment, Location.block, Binary64.truncate_eq_whole, List.foldl_cons,
      List.foldl_nil, Fragment.insertChild, hworld, hx, hy, hz]
    rfl

/-- **A location reads as five texts, with exact coordinates.** They stand under the key of the location and
just below it under `WORLD`, `X`, `Y` and `Z`, and nowhere else, also if the key has empty segments. The
coordinates are the whole parts of the numbers that their bits stand for, held inside the range of sixty-four
bits, and zero has no sign. The world goes by the name that it has for readers, or by the text for what is not
known. The text of the whole puts these together. -/
theorem location_read_exactly (reader : Recipient) :
    (r.fragment reader k (.location l)).size = 5 ∧
    (∀ name, (r.fragment reader k (.location l)).hasNamed name = true ↔
      name ∈ [k.text, k.text ++ ".WORLD", k.text ++ ".X", k.text ++ ".Y", k.text ++ ".Z"]) ∧
    (∀ x ∈ [l.x, l.y, l.z], x.IsFinite → -1 < x.value → x.value < 1 → toString x.whole = "0") ∧
    ∃ world,
      (∀ w name, l.world? = some w → r.namer w = some name → world = name) ∧
      ((∀ w, l.world? = some w → r.namer w = none) → world = r.config.unknownText) ∧
      (r.fragment reader k (.location l)).named? (k.text ++ ".WORLD") = some world ∧
      (r.fragment reader k (.location l)).named? (k.text ++ ".X") = some (toString l.x.whole) ∧
      (r.fragment reader k (.location l)).named? (k.text ++ ".Y") = some (toString l.y.whole) ∧
      (r.fragment reader k (.location l)).named? (k.text ++ ".Z") = some (toString l.z.whole) ∧
      (r.fragment reader k (.location l)).named? k.text =
        some (world ++ " [" ++ toString l.x.whole ++ ", " ++ toString l.y.whole ++ ", " ++
          toString l.z.whole ++ "]") := by
  obtain ⟨world, x, y, z, hworld, hx, hy, hz, hdistinct, htexts⟩ := r.locationFragment_eq k l
  have hfragment : r.fragment reader k (.location l) = _ := htexts
  have hread : ∀ e ∈ [(k, r.wholeText l), (world, r.worldName l.world?), (x, toString l.x.whole),
      (y, toString l.y.whole), (z, toString l.z.whole)],
      (r.fragment reader k (.location l)).named? e.1.text = some e.2 := by
    intro e he
    rw [hfragment, Table.named?_text]
    exact Table.get?_ofList_eq_some_iff.2 (lastWrite_of_mem hdistinct he)
  simp only [List.forall_mem_cons] at hread
  obtain ⟨hreadWhole, hreadWorld, hreadX, hreadY, hreadZ, -⟩ := hread
  rw [← hworld, ← hx, ← hy, ← hz]
  refine ⟨?_, fun name => ?_, fun x _ hfinite hlower hupper => ?_, r.worldName l.world?, ?_, ?_,
    hreadWorld, hreadX, hreadY, hreadZ, hreadWhole⟩
  · rw [hfragment, Table.size_ofList]
    exact List.toFinset_card_of_nodup hdistinct
  · rw [Table.hasNamed, ← not_iff_not, Bool.not_eq_true, Option.isSome_eq_false_iff, Option.isNone_iff_eq_none,
      hfragment, Table.named?_ofList_eq_none_iff]
    simp [eq_comm]
  · rw [Binary64.whole_of_small hfinite hlower hupper]
    rfl
  · intro w name hw hname
    rw [worldName, hw, Option.bind_some, hname, Option.getD_some]
  · intro hunknown
    rw [worldName, Option.bind_eq_none_iff.2 hunknown, Option.getD_none]

/-- A key whose last segments are empty. -/
def ledge : Key := ⟨"LEDGE..", rfl⟩

/-- A point outside the worlds: its coordinates are 2⁶³, for which there is no room, minus one half, and no
number at all. -/
def beyond : Location :=
  ⟨none, ⟨0x43e0000000000000#64⟩, ⟨0xbfe0000000000000#64⟩, ⟨0x7ff0000000000001#64⟩⟩

theorem value_beyond_y : beyond.y.value = -1 / 2 := by
  have hsign : beyond.y.signField = 1 := rfl
  have hexponent : beyond.y.exponentField = 1022 := rfl
  have hfraction : beyond.y.fractionField = 0 := rfl
  rw [Binary64.value, Binary64.magnitude, hsign, hexponent, hfraction]
  norm_num

/-- The texts of this point, and the world of another one that has a name. -/
theorem beyond_read_exactly :
    ((ofConfig .standard).fragment (.named "Alex") ledge (.location beyond)).size = 5 ∧
    ((ofConfig .standard).fragment (.named "Alex") ledge (.location beyond)).hasNamed "LEDGE...Y" = true ∧
    (-1 < beyond.y.value ∧ beyond.y.value < 1 ∧ toString beyond.y.whole = "0") ∧
    ((ofConfig .standard).fragment (.named "Alex") ledge (.location beyond)).named? "LEDGE.." =
      some "??? [9223372036854775807, 0, 0]" ∧
    ((ofConfig .standard).fragment (.named "Alex") ledge
      (.location { beyond with world? := some ⟨"nether"⟩ })).named? "LEDGE...WORLD" = some "nether" := by
  have hlower : -1 < beyond.y.value := by rw [value_beyond_y]; norm_num
  have hupper : beyond.y.value < 1 := by rw [value_beyond_y]; norm_num
  have hfinite : beyond.y.IsFinite := by decide
  have hx : beyond.x.whole = 9223372036854775807 := by
    rw [← Binary64.truncate_eq_whole]
    decide +kernel
  have hz : beyond.z.whole = 0 := by
    rw [← Binary64.truncate_eq_whole]
    decide +kernel
  obtain ⟨hsize, hnames, hsmall, world, -, hunknown, -, -, -, -, hwhole⟩ :=
    (ofConfig .standard).location_read_exactly ledge beyond (.named "Alex")
  obtain ⟨-, -, -, _, hnamed, -, hworld, -⟩ := (ofConfig .standard).location_read_exactly ledge
    { beyond with world? := some ⟨"nether"⟩ } (.named "Alex")
  have hy : toString beyond.y.whole = "0" := hsmall beyond.y (by simp) hfinite hlower hupper
  rw [hunknown fun w hw => (by cases hw), hx, hy, hz] at hwhole
  rw [hnamed ⟨"nether"⟩ "nether" rfl (by decide +kernel)] at hworld
  exact ⟨hsize, (hnames _).2 (by decide), ⟨hlower, hupper, hy⟩, hwhole, hworld⟩

end Resolver

end Courier
