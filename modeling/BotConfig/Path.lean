/-!
Paths of files: the folder of a file, and names relative to a folder.
-/

namespace BotConfig.Path

/-- The parts of a text between slashes. -/
def parts : List Char → List (List Char)
  | [] => [[]]
  | '/' :: rest => [] :: parts rest
  | c :: rest =>
      match parts rest with
      | part :: others => (c :: part) :: others
      | [] => [[c]]

/-- Parts with a slash between each two. -/
def joined : List (List Char) → List Char
  | [] => []
  | [part] => part
  | part :: rest => part ++ '/' :: joined rest

/-- Drop the parts at the end that name nothing. The first part is kept. The last part comes
first. -/
def dropIdle : List (List Char) → List (List Char)
  | part :: next :: rest =>
      if part = [] ∨ part = ['.'] then dropIdle (next :: rest) else part :: next :: rest
  | parts => parts

/-- The folder that a file is in. A name alone is in the current folder. -/
def folder (path : String) : String :=
  let current := "."
  match dropIdle (parts path.toList).reverse with
  | [] => current
  | [_] => current
  | _ :: before =>
      match (dropIdle before).reverse with
      | [[]] => "/"
      | kept => String.ofList (joined kept)

/-- The path of a name relative to a folder. -/
def join (folder name : String) : String :=
  if name.toList.head? = some '/' then name
  else if folder.isEmpty ∨ folder.toList.getLast? = some '/' then folder ++ name
  else folder ++ "/" ++ name

end BotConfig.Path
