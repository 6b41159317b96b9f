import Courier.Config.Decode

/-!
# Finding the configuration

A configuration is loaded from a file that is named, or from the nearest one that is found: in the
current directory, or in the directory above it, and so on up to the root. Nothing beyond the nearest
file counts, not even if that file is of no use.

## Main statements

* `nearest?_cons`: a directory is looked at before the ones above it.
-/

namespace Courier

/-- A place in a file tree: the names from it up to the root. -/
abbrev TreePath := List String

/-- The absolute path of a place. -/
def TreePath.text (p : TreePath) : String :=
  "/" ++ String.intercalate "/" p.reverse

/-- What there can be at a place. -/
inductive Node where
  | file (content : ByteArray)
  | directory

/-- What there is at each place, as the system tells when it is asked for the absolute path of the place.
So there is nothing at a place whose path the system finds too long. -/
abbrev FileTree := TreePath → Option Node

namespace FileTree

/-- Whether there is a directory at a place. -/
def hasDirectory (tree : FileTree) (p : TreePath) : Bool :=
  match tree p with
  | some .directory => true
  | _ => false

/-- The text at a place, if a file with text is there. -/
def text? (tree : FileTree) (p : TreePath) : Option String :=
  match tree p with
  | some (.file content) => String.fromUTF8? content
  | _ => none

/-- Where a step leads from a place: nowhere but from a directory. An empty step and a dot stay, two
dots lead up. -/
def step? (tree : FileTree) (p : TreePath) (name : String) : Option TreePath :=
  if tree.hasDirectory p then
    if name = "" ∨ name = "." then some p
    else if name = ".." then some p.tail
    else if (tree (name :: p)).isSome then some (name :: p)
    else none
  else none

/-- How many bytes a path has at most. The tree has this limit in it for absolute paths, so that it is put
only on a path as it is given. -/
def longestPath : Nat := 4095

/-- The place that a path leads to, if something is there. An empty path and one that is too long
lead nowhere. -/
def follow? (tree : FileTree) (current : TreePath) (path : String) : Option TreePath :=
  if path = "" ∨ longestPath < path.utf8ByteSize then none
  else
    let names := (path.toList.splitOn '/').map String.ofList
    let start := if path.toList.head? = some '/' then [] else current
    names.foldlM tree.step? start

end FileTree

namespace Config

/-- The name of the file that is looked for. -/
def fileName : String := "herald.toml"

/-- The nearest place with the file, from a directory up to the root. Each place is asked for by its
absolute path. -/
def nearest? (tree : FileTree) : TreePath → Option TreePath
  | [] => if (tree [fileName]).isSome then some [fileName] else none
  | name :: above =>
    if (tree (fileName :: name :: above)).isSome then some (fileName :: name :: above)
    else nearest? tree above

/-- The configuration in the file at a place, which is called by a path. -/
def loadFile (env : Environment) (tree : FileTree) (p : TreePath) (path : String) :
    Except ConfigError Config :=
  match tree.text? p with
  | none => .error .unreadable
  | some document => (ofToml env document).map fun c => { c with path? := some path }

/-- The configuration of the named file, else of the nearest one, else the standard one. -/
def load (env : Environment) (tree : FileTree) (current : TreePath) :
    Option String → Except ConfigError Config
  | some path =>
    match tree.follow? current path with
    | none => .error (.notFound path)
    | some p => loadFile env tree p path
  | none =>
    match nearest? tree current with
    | none => .ok standard
    | some p => loadFile env tree p (TreePath.text p)

theorem nearest?_cons (tree : FileTree) (name : String) (above : TreePath) :
    nearest? tree (name :: above) =
      if (tree (fileName :: name :: above)).isSome then some (fileName :: name :: above)
      else nearest? tree above := rfl

end Config

end Courier
