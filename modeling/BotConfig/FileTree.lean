import BotConfig.Error
import BotConfig.Path

/-!
A tree of files in memory, which reads paths as a file system does.

Paths lead from the working folder, or from the root if they start with a slash.  The root holds
the working folder and nothing else.
-/

namespace BotConfig

/-- What a file holds. -/
inductive Content where
  | text (content : String)
  /-- Bytes that are no text. -/
  | bytes
deriving DecidableEq

/-- What stands at a place of a tree. -/
inductive Node where
  | folder
  | file (content : Content)
deriving DecidableEq

/-- The names that lead from the root to a place. -/
abbrev Place := List (List Char)

/-- A tree of files. -/
structure FileTree where
  nodes : List (Place × Node)

namespace FileTree

/-- The working folder. -/
def workingFolder : Place := ["work".toList]

/-- A tree with an empty working folder. -/
def empty : FileTree := ⟨[([], .folder), (workingFolder, .folder)]⟩

/-- What stands at a place. -/
def node? (tree : FileTree) (place : Place) : Option Node := tree.nodes.lookup place

/-- Put something at a place. -/
def put (tree : FileTree) (place : Place) (node : Node) : FileTree :=
  ⟨(place, node) :: tree.nodes.filter (·.1 != place)⟩

/-- The greatest number of bytes in a name. -/
def nameLimit : Nat := 255

/-- The greatest number of bytes in a path, with the one that ends it. -/
def pathLimit : Nat := 4096

/-- Follow names from a place. Each step needs a folder to start in. -/
def follow (tree : FileTree) (place : Place) : List (List Char) → Except ReadFault Place
  | [] => .ok place
  | name :: rest =>
      match tree.node? place with
      | none => .error .notFound
      | some (.file _) => .error .notDirectory
      | some .folder =>
          if name = [] ∨ name = ['.'] then follow tree place rest
          else if name = ['.', '.'] then follow tree place.dropLast rest
          else if nameLimit < (String.ofList name).utf8ByteSize then .error .nameTooLong
          else follow tree (place ++ [name]) rest

/-- The place that a path leads to. -/
def place (tree : FileTree) (path : String) : Except ReadFault Place :=
  if path.isEmpty then .error .notFound
  else if path.toList.contains (Char.ofNat 0) then .error .nulInName
  else if pathLimit ≤ path.utf8ByteSize then .error .nameTooLong
  else
    match Path.parts path.toList with
    | [] :: rest => follow tree [] rest
    | names => follow tree workingFolder names

/-- The text of the file at a path. -/
def read (tree : FileTree) (path : String) : Except ReadFault String := do
  match tree.node? (← tree.place path) with
  | none => throw .notFound
  | some .folder => throw .isDirectory
  | some (.file .bytes) => throw .notText
  | some (.file (.text content)) => return content

/-- The place of a path without points, whether or not anything stands there. -/
def placeOf (path : String) : Place :=
  workingFolder ++ (Path.parts path.toList).filter fun name => name != [] && name != ['.']

/-- Make the folders on the way to a place. -/
def makeFolders (tree : FileTree) (place : Place) : FileTree :=
  (List.range place.length).foldl
    (fun tree count =>
      let before := place.take (count + 1)
      if (tree.node? before).isSome then tree else tree.put before .folder)
    tree

/-- Write a file, and make the folders that it needs. -/
def write (tree : FileTree) (path : String) (content : Content) : FileTree :=
  let place := placeOf path
  (tree.makeFolders place.dropLast).put place (.file content)

/-- Make a folder, and the folders that it needs. -/
def makeFolder (tree : FileTree) (path : String) : FileTree := tree.makeFolders (placeOf path)

/-- Whether a file stands at a path. -/
def hasFile (tree : FileTree) (path : String) : Bool :=
  match tree.node? (placeOf path) with
  | some (.file _) => true
  | _ => false

/-- Remove the file at a path. -/
def remove (tree : FileTree) (path : String) : FileTree :=
  if tree.hasFile path then ⟨tree.nodes.filter (·.1 != placeOf path)⟩ else tree

end FileTree

end BotConfig
