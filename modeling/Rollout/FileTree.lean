import Rollout.Entries
import Rollout.Text.Pieces

/-!
A tree of directories and files that hold lines. A place in it is the list of the names that lead
there from the root. A path in a text is followed name by name: an empty name and a single point
stay where they are, two points lead back, and a file leads nowhere.
-/

namespace Rollout

/-- What stands at a place. -/
inductive FileTree.Entry (α : Type) where
  | directory
  | file (lines : List α)

/-- What stands below the root, which is a directory itself. -/
structure FileTree (α : Type) where
  entries : List (List String × FileTree.Entry α) := []

namespace FileTree

variable {α : Type}

/-- Names fit 255 bytes and hold no null character. -/
def isName (name : String) : Bool := name.utf8ByteSize ≤ 255 && !name.toList.contains '\x00'

/-- Paths fit 4095 bytes. -/
def isPath (path : String) : Bool := path.utf8ByteSize ≤ 4095

/-- The directory that a name leads to from a directory. It is created where nothing stands; none
where a file stands. -/
def enter? (tree : FileTree α) (here : List String) (name : String) :
    Option (FileTree α × List String) :=
  if name.isEmpty || name = "." then some (tree, here)
  else if name = ".." then some (tree, here.dropLast)
  else if !isName name then none
  else
    let there := here ++ [name]
    match Entries.find? there tree.entries with
    | some .directory => some (tree, there)
    | some (.file _) => none
    | none => some (⟨tree.entries ++ [(there, .directory)]⟩, there)

/-- Follows names from a directory and creates the directories that are missing. What has been
created stays when a name leads nowhere. -/
def createDirectories (tree : FileTree α) (here : List String) :
    List String → FileTree α × Option (List String)
  | [] => (tree, some here)
  | name :: rest =>
    match tree.enter? here name with
    | some (tree, there) => tree.createDirectories there rest
    | none => (tree, none)

/-- The place of a file of a directory, which is created where nothing stands. -/
def openFile? (tree : FileTree α) (here : List String) (name : String) :
    Option (FileTree α × List String) :=
  let there := here ++ [name]
  if !isName name then none
  else
    match Entries.find? there tree.entries with
    | some (.file _) => some (tree, there)
    | some .directory => none
    | none => some (⟨tree.entries ++ [(there, .file [])]⟩, there)

/-- The place of the file that a path leads to from a working directory. The file and the
directories on the way to it are created where they are missing. -/
def openPath (tree : FileTree α) (working : List String) (path : String) :
    FileTree α × Option (List String) :=
  let names := (Text.pieces '/' path.toList).map String.ofList
  let start := if path.startsWith "/" then [] else working
  if !isPath path then (tree, none)
  else
    match tree.createDirectories start names.dropLast with
    | (tree, some here) =>
      match names.getLast?.bind (tree.openFile? here) with
      | some (tree, there) => (tree, some there)
      | none => (tree, none)
    | failed => failed

/-- Adds lines to a file. -/
def append (tree : FileTree α) (place : List String) (lines : List α) : FileTree α where
  entries := tree.entries.map fun entry =>
    match entry with
    | (there, .file old) => (there, .file (if there = place then old ++ lines else old))
    | other => other

/-- The files below a directory and their lines, by the names that lead there from the
directory. -/
def filesBelow (tree : FileTree α) (directory : List String) : List (List String × List α) :=
  tree.entries.filterMap fun entry =>
    match entry with
    | (place, .file lines) =>
      if directory.isPrefixOf place then some (place.drop directory.length, lines) else none
    | _ => none

end FileTree

end Rollout
