import Courier.Config.Discovery
import Courier.Proofs.Loading
import Mathlib.Data.List.Infix

/-!
# The nearest configuration counts

Without a named file the configuration is searched for from the current directory upwards. The search looks
at one place for each directory, from the deepest one on, and goes no farther than to the first place where
there is something. That is loaded, with all that may be wrong with it; what lies beyond is not looked at,
so that it can be anything. A file that is named is not searched for.

* `Config.Search`: a search, with the places that are looked at;
* `Config.exists_search`, `Config.Search.eq_nearest?`: every search ends, with what is found at once;
* `Config.Search.isPrefix`: each directory is looked at once, and in its turn;
* `Config.Search.nearest_of_some`, `Config.Search.none_of_none`: what it means to find something, or nothing;
* `Config.Search.congr`: only the places that are looked at count;
* `Config.Loads`: what comes of a file, whatever is wrong with it;
* `Config.nearest_file_loaded`: so the nearest file is loaded, if there is one, and nothing else counts.
-/

namespace Courier.Config

/-! ### The search -/

/-- A search from a directory upwards: the places that are looked at, and the one where it ends. -/
inductive Search (tree : FileTree) : TreePath → List TreePath → Option TreePath → Prop where
  | found {dir : TreePath} : (tree (fileName :: dir)).isSome = true →
      Search tree dir [fileName :: dir] (some (fileName :: dir))
  | up {name : String} {above : TreePath} {looked : List TreePath} {place? : Option TreePath} :
      tree (fileName :: name :: above) = none → Search tree above looked place? →
      Search tree (name :: above) ((fileName :: name :: above) :: looked) place?
  | top : tree [fileName] = none → Search tree [] [[fileName]] none

/-- The deepest directory with the file, on the way from the current directory to the root. -/
structure Nearest (tree : FileTree) (current dir : TreePath) : Prop where
  onTheWay : dir <:+ current
  hasFile : (tree (fileName :: dir)).isSome = true
  deepest : ∀ deeper, deeper <:+ current → dir.length < deeper.length →
    tree (fileName :: deeper) = none

variable {tree : FileTree} {current : TreePath} {looked : List TreePath} {place? : Option TreePath}

/-- Every search ends. -/
theorem exists_search (tree : FileTree) (current : TreePath) :
    ∃ looked, Search tree current looked (nearest? tree current) := by
  induction current with
  | nil =>
    refine ⟨[[fileName]], ?_⟩
    by_cases hsome : (tree [fileName]).isSome = true
    · rw [nearest?, if_pos hsome]
      exact .found hsome
    · rw [nearest?, if_neg hsome]
      exact .top (Option.not_isSome_iff_eq_none.1 hsome)
  | cons name above ih =>
    obtain ⟨looked, hsearch⟩ := ih
    by_cases hsome : (tree (fileName :: name :: above)).isSome = true
    · rw [nearest?_cons, if_pos hsome]
      exact ⟨_, .found hsome⟩
    · rw [nearest?_cons, if_neg hsome]
      exact ⟨_, .up (Option.not_isSome_iff_eq_none.1 hsome) hsearch⟩

namespace Search

/-- What is found step by step is what is found at once. -/
theorem eq_nearest? (h : Search tree current looked place?) : nearest? tree current = place? := by
  induction h with
  | @found dir hsome =>
    cases dir with
    | nil => rw [nearest?, if_pos hsome]
    | cons name above => rw [nearest?_cons, if_pos hsome]
  | up hnone _ ih => rw [nearest?_cons, hnone, ih]; rfl
  | top hnone => rw [nearest?, hnone]; rfl

/-- Only the places that are looked at have a part in a search. -/
theorem congr {tree' : FileTree} (h : Search tree current looked place?)
    (hagree : ∀ place ∈ looked, tree' place = tree place) : Search tree' current looked place? := by
  induction h with
  | found hsome =>
    refine .found ?_
    rwa [hagree _ List.mem_cons_self]
  | up hnone _ ih =>
    refine .up ?_ (ih fun place hplace => hagree place (List.mem_cons_of_mem _ hplace))
    rwa [hagree _ List.mem_cons_self]
  | top hnone =>
    refine .top ?_
    rwa [hagree _ List.mem_cons_self]

/-- **Each directory is looked at once, and in its turn,** from the current one upwards. -/
theorem isPrefix (h : Search tree current looked place?) :
    looked <+: current.tails.map (fileName :: ·) := by
  induction h with
  | @found dir _ =>
    cases dir with
    | nil => exact List.prefix_rfl
    | cons name above =>
      rw [List.tails_cons, List.map_cons]
      exact (List.prefix_cons_inj _).2 List.nil_prefix
  | up _ _ ih =>
    rw [List.tails_cons, List.map_cons]
    exact (List.prefix_cons_inj _).2 ih
  | top _ => exact List.prefix_rfl

/-- **A search that finds something ends in the nearest directory.** -/
theorem nearest_of_some (h : Search tree current looked place?) {place : TreePath}
    (hplace : place? = some place) :
    ∃ dir, place = fileName :: dir ∧ Nearest tree current dir ∧ looked.getLast? = some place := by
  induction h with
  | @found dir hsome =>
    obtain rfl := Option.some.inj hplace
    refine ⟨dir, rfl, ⟨List.suffix_rfl, hsome, fun deeper hdeeper hlength => ?_⟩, rfl⟩
    exact absurd hdeeper.length_le (Nat.not_le.2 hlength)
  | @up name above looked _ hnone _ ih =>
    obtain ⟨dir, hdir, hnearest, hlast⟩ := ih hplace
    refine ⟨dir, hdir, ⟨hnearest.onTheWay.trans (List.suffix_cons name above), hnearest.hasFile,
      fun deeper hdeeper hlength => ?_⟩, ?_⟩
    · rcases List.suffix_cons_iff.1 hdeeper with rfl | hdeeper
      · exact hnone
      · exact hnearest.deepest deeper hdeeper hlength
    · rw [List.getLast?_cons, hlast]
      rfl
  | top _ => cases hplace

/-- **A search that finds nothing has looked everywhere.** -/
theorem none_of_none (h : Search tree current looked place?) (hplace : place? = none) :
    looked = current.tails.map (fileName :: ·) ∧ ∀ dir, dir <:+ current → tree (fileName :: dir) = none := by
  induction h with
  | found _ => cases hplace
  | up hnone _ ih =>
    obtain ⟨hlooked, hempty⟩ := ih hplace
    rw [List.tails_cons, List.map_cons, hlooked]
    refine ⟨rfl, fun dir hdir => ?_⟩
    rcases List.suffix_cons_iff.1 hdir with rfl | hdir
    · exact hnone
    · exact hempty dir hdir
  | top hnone =>
    refine ⟨rfl, fun dir hdir => ?_⟩
    rw [List.suffix_nil.1 hdir]
    exact hnone

end Search

/-! ### Loading -/

variable {env : Environment} {place : TreePath} {path : String}

/-- What comes of the file at a place: its configuration, which knows the path, or what is wrong with it. -/
inductive Loads (env : Environment) (tree : FileTree) (place : TreePath) (path : String) :
    Except ConfigError Config → Prop where
  | unreadable : tree.text? place = none → Loads env tree place path (.error .unreadable)
  | refused {document : String} {e : ConfigError} : tree.text? place = some document →
      ofToml env document = .error e → Loads env tree place path (.error e)
  | loaded {document : String} {c : Config} : tree.text? place = some document →
      ofToml env document = .ok c → Loads env tree place path (.ok { c with path? := some path })

theorem loadFile_of_text? {document : String} (h : tree.text? place = some document) :
    loadFile env tree place path = (ofToml env document).map fun c => { c with path? := some path } := by
  rw [loadFile, h]

theorem loads_loadFile (env : Environment) (tree : FileTree) (place : TreePath) (path : String) :
    Loads env tree place path (loadFile env tree place path) := by
  cases htext : tree.text? place with
  | none =>
    rw [loadFile, htext]
    exact .unreadable htext
  | some document =>
    rw [loadFile_of_text? htext]
    cases hload : ofToml env document with
    | error e => exact .refused htext hload
    | ok c => exact .loaded htext hload

theorem loadFile_congr {tree' : FileTree} (h : tree' place = tree place) :
    loadFile env tree' place path = loadFile env tree place path := by
  rw [loadFile, loadFile, FileTree.text?, FileTree.text?, h]

theorem load_of_found (h : nearest? tree current = some place) :
    load env tree current none = loadFile env tree place place.text := by
  rw [load, h]

theorem load_of_not_found (h : nearest? tree current = none) : load env tree current none = .ok standard := by
  rw [load, h]

theorem load_of_follow?_eq_some (h : tree.follow? current path = some place) :
    load env tree current (some path) = loadFile env tree place path := by
  rw [load, h]

theorem load_of_follow?_eq_none (h : tree.follow? current path = none) :
    load env tree current (some path) = .error (.notFound path) := by
  rw [load, h]

/-- **Of a search only the places count that are looked at,** and of the last one what is there. -/
theorem load_congr {tree' : FileTree} (h : Search tree current looked place?)
    (hagree : ∀ place ∈ looked, tree' place = tree place) :
    load env tree' current none = load env tree current none := by
  have hfound := h.eq_nearest?
  have hfound' := (h.congr hagree).eq_nearest?
  cases hplace : place? with
  | none => rw [load_of_not_found (hfound.trans hplace), load_of_not_found (hfound'.trans hplace)]
  | some place =>
    obtain ⟨_, -, -, hlast⟩ := h.nearest_of_some hplace
    rw [load_of_found (hfound.trans hplace), load_of_found (hfound'.trans hplace)]
    exact loadFile_congr (hagree place (List.mem_of_getLast? hlast))

/-- **The nearest file is loaded, and nothing else counts.** If some directory on the way from the current
one to the root has the file, the deepest such directory is where the search ends; it has looked at the
directories up to that one, each of them once. What comes of the file there is the result, be it a
configuration that knows its path or what is wrong with the file, and it is the same whatever there is at
places that were not looked at. If no directory has the file, the result is the standard configuration. A
named file is loaded from where its path leads to, however the search would end, and is reported as missing
if the path leads nowhere. -/
theorem nearest_file_loaded (env : Environment) (tree : FileTree) (current : TreePath) :
    (∀ start, start <:+ current → (tree (fileName :: start)).isSome = true →
      ∃ dir looked, Nearest tree current dir ∧ Search tree current looked (some (fileName :: dir)) ∧
        looked <+: current.tails.map (fileName :: ·) ∧ looked.getLast? = some (fileName :: dir) ∧
        Loads env tree (fileName :: dir) (TreePath.text (fileName :: dir)) (load env tree current none) ∧
        ∀ tree' : FileTree, (∀ place ∈ looked, tree' place = tree place) →
          load env tree' current none = load env tree current none) ∧
    ((∀ dir, dir <:+ current → tree (fileName :: dir) = none) →
      Search tree current (current.tails.map (fileName :: ·)) none ∧
      load env tree current none = .ok standard) ∧
    ∀ path,
      (tree.follow? current path = none → load env tree current (some path) = .error (.notFound path)) ∧
      (∀ place, tree.follow? current path = some place →
        Loads env tree place path (load env tree current (some path))) ∧
      ∀ (tree' : FileTree) (current' : TreePath),
        tree'.follow? current' path = tree.follow? current path →
        (∀ place, tree.follow? current path = some place → tree' place = tree place) →
        load env tree' current' (some path) = load env tree current (some path) := by
  obtain ⟨looked, hsearch⟩ := exists_search tree current
  refine ⟨fun start hstart hsome => ?_, fun hempty => ?_, fun path => ⟨load_of_follow?_eq_none,
    fun place hplace => ?_, fun tree' current' hfollow hagree => ?_⟩⟩
  · cases hplace : nearest? tree current with
    | none =>
      rw [(hsearch.none_of_none hplace).2 start hstart] at hsome
      cases hsome
    | some place =>
      obtain ⟨dir, rfl, hnearest, hlast⟩ := hsearch.nearest_of_some hplace
      refine ⟨dir, looked, hnearest, hplace ▸ hsearch, hsearch.isPrefix, hlast, ?_,
        fun tree' hagree => load_congr hsearch hagree⟩
      rw [load_of_found hplace]
      exact loads_loadFile env tree _ _
  · cases hplace : nearest? tree current with
    | none =>
      obtain ⟨rfl, -⟩ := hsearch.none_of_none hplace
      exact ⟨hplace ▸ hsearch, load_of_not_found hplace⟩
    | some place =>
      obtain ⟨dir, -, hnearest, -⟩ := hsearch.nearest_of_some hplace
      have hsome := hnearest.hasFile
      rw [hempty dir hnearest.onTheWay] at hsome
      cases hsome
  · rw [load_of_follow?_eq_some hplace]
    exact loads_loadFile env tree place path
  · cases hplace : tree.follow? current path with
    | none => rw [load_of_follow?_eq_none hplace, load_of_follow?_eq_none (hfollow.trans hplace)]
    | some place =>
      rw [load_of_follow?_eq_some hplace, load_of_follow?_eq_some (hfollow.trans hplace)]
      exact loadFile_congr (hagree place hplace)

/-- Placeholders in braces are all that this document asks for. -/
def bracedDocument : String := "[placeholders]\nstyle = \"braces\"\n"

/-- Three directories, one below the other. Above all of them there is a good file, and halfway a directory
that is called like one. -/
def halfway : FileTree
  | [] | ["a"] | ["b", "a"] | ["c", "b", "a"] | ["herald.toml", "b", "a"] => some .directory
  | ["herald.toml"] => some (.file bracedDocument.toUTF8)
  | _ => none

theorem text?_halfway : halfway.text? ["herald.toml"] = some bracedDocument := by
  show String.fromUTF8? bracedDocument.toByteArray = some bracedDocument
  exact dif_pos bracedDocument.isValidUTF8

theorem unreadable_not_passed_over :
    Nearest halfway ["c", "b", "a"] ["b", "a"] ∧
    load (.ofEntries []) halfway ["c", "b", "a"] none = .error .unreadable ∧
    load (.ofEntries []) halfway ["a"] none =
      .ok { standard with style := .braces, path? := some "/herald.toml" } ∧
    load (.ofEntries []) halfway ["c", "b", "a"] (some "../../../herald.toml") =
      .ok { standard with style := .braces, path? := some "../../../herald.toml" } ∧
    load (.ofEntries []) halfway ["c", "b", "a"] (some "c.toml") = .error (.notFound "c.toml") ∧
    load (.ofEntries []) (fun _ => none) ["c", "b", "a"] none = .ok standard := by
  have hdocument : ofToml (.ofEntries []) bracedDocument = .ok { standard with style := .braces } := by
    decide +kernel
  have hloaded : ∀ {path : String} {result : Except ConfigError Config},
      Loads (.ofEntries []) halfway ["herald.toml"] path result →
      result = .ok { standard with style := .braces, path? := some path } := by
    intro path result h
    cases h with
    | unreadable htext =>
      rw [text?_halfway] at htext
      cases htext
    | refused htext hload =>
      rw [← Option.some.inj (text?_halfway.symm.trans htext), hdocument] at hload
      cases hload
    | loaded htext hload =>
      rw [← Option.some.inj (text?_halfway.symm.trans htext), hdocument] at hload
      obtain rfl := Except.ok.inj hload
      rfl
  obtain ⟨hsome, -, hnamed⟩ := nearest_file_loaded (.ofEntries []) halfway ["c", "b", "a"]
  obtain ⟨hmissing, -, -⟩ := hnamed "c.toml"
  obtain ⟨-, hfollowed, -⟩ := hnamed "../../../herald.toml"
  obtain ⟨dir, looked, hnearest, hsearch, -, -, hresult, -⟩ := hsome [] List.nil_suffix rfl
  obtain ⟨dir', looked', -, hsearch', -, -, hresult', -⟩ :=
    (nearest_file_loaded (.ofEntries []) halfway ["a"]).1 [] List.nil_suffix rfl
  obtain ⟨-, hstandard⟩ :=
    (nearest_file_loaded (.ofEntries []) (fun _ => none) ["c", "b", "a"]).2.1 fun _ _ => rfl
  have hplace : nearest? halfway ["c", "b", "a"] = some (fileName :: ["b", "a"]) := by decide +kernel
  have hplace' : nearest? halfway ["a"] = some [fileName] := by decide +kernel
  obtain rfl : dir = ["b", "a"] := by simpa using hsearch.eq_nearest?.symm.trans hplace
  obtain rfl : dir' = [] := by simpa using hsearch'.eq_nearest?.symm.trans hplace'
  refine ⟨hnearest, ?_, hloaded hresult', hloaded (hfollowed _ (by decide +kernel)),
    hmissing (by decide +kernel), hstandard⟩
  generalize load (.ofEntries []) halfway ["c", "b", "a"] none = result at hresult ⊢
  cases hresult with
  | unreadable _ => rfl
  | refused htext _ => cases htext
  | loaded htext _ => cases htext

end Courier.Config
