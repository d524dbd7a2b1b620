import CalcSpeech.Files.FileSystem

/-!
# File trees

A file system as a value: a tree of directories and plain files. Everything may be read and
written; an action fails only where a plain file stands in the place of a directory, or a
directory in the place of a plain file.
-/

namespace CalcSpeech

/-- A file or a directory with its entries. -/
inductive FileTree where
  | file (content : ByteArray)
  | directory (entries : List (String × FileTree))

namespace FileTree

/-- Puts an entry in the place of the one with its name, or at the end. -/
def setEntry (name : String) (tree : FileTree) :
    List (String × FileTree) → List (String × FileTree)
  | [] => [(name, tree)]
  | (other, old) :: rest =>
    if other = name then (name, tree) :: rest else (other, old) :: setEntry name tree rest

/-- What stands at the end of a row of names. -/
def find? : List String → FileTree → Option FileTree
  | [], tree => some tree
  | _ :: _, file _ => none
  | name :: rest, directory entries => (entries.lookup name).bind (find? rest)

/-- What kind of thing a tree is. -/
def kind : FileTree → FileKind
  | file _ => .file
  | directory _ => .directory

/-- An empty directory inside new directories of the given names. -/
def nested : List String → FileTree
  | [] => directory []
  | name :: rest => directory [(name, nested rest)]

/-- The tree in which a row of names leads to a directory, unless a file is in its way. -/
def makeDirectories? : List String → FileTree → Option FileTree
  | _, file _ => none
  | [], directory entries => some (directory entries)
  | name :: rest, directory entries =>
    match entries.lookup name with
    | none => some (directory (setEntry name (nested rest) entries))
    | some old => (makeDirectories? rest old).map fun new => directory (setEntry name new entries)

/-- The tree with a file at the end of a row of names, made by `content` from the bytes that were
there; a directory must stand around it, and none in its place. -/
def putFile? (content : ByteArray → ByteArray) : List String → FileTree → Option FileTree
  | [], file old => some (file (content old))
  | [], directory _ => none
  | _ :: _, file _ => none
  | [name], directory entries =>
    match entries.lookup name with
    | none => some (directory (setEntry name (file (content ByteArray.empty)) entries))
    | some old => (putFile? content [] old).map fun new => directory (setEntry name new entries)
  | name :: rest, directory entries => do
    let old ← entries.lookup name
    let new ← putFile? content rest old
    return directory (setEntry name new entries)

/-- The tree without the file at the end of a row of names. -/
def removeFile : List String → FileTree → FileTree
  | [], tree => tree
  | _ :: _, file content => file content
  | [name], directory entries => directory (entries.filter fun (other, tree) =>
      other != name || tree.kind == .directory)
  | name :: rest, directory entries =>
    match entries.lookup name with
    | none => directory entries
    | some old => directory (setEntry name (removeFile rest old) entries)

mutual

/-- The paths of everything in a tree, behind `path`; those of directories end in a slash. -/
def pathsBelow (path : String) : FileTree → List String
  | file _ => []
  | directory entries => entryPaths path entries

/-- The paths of the entries of a directory and of everything in them. -/
def entryPaths (path : String) : List (String × FileTree) → List String
  | [] => []
  | (name, tree) :: rest =>
    let own := match tree with
      | file _ => path ++ name
      | directory _ => path ++ name ++ "/"
    own :: pathsBelow (path ++ name ++ "/") tree ++ entryPaths path rest

end

end FileTree

/-- A file tree with the directory from which relative paths start. -/
structure Disk where
  root : FileTree := .directory []
  here : List String := []

namespace Disk

/-- The row of names behind further segments of a path. A segment that is no name leads on only
from a directory. -/
def walk? (disk : Disk) : (place : List String) → (segments : List String) → Option (List String)
  | place, [] => some place
  | place, segment :: rest =>
    if Path.isName segment then walk? disk (place ++ [segment]) rest
    else if (disk.root.find? place).map (·.kind) = some .directory then
      walk? disk (if segment = ".." then place.dropLast else place) rest
    else none

/-- The place from which a path leads on. -/
def start (disk : Disk) (path : String) : List String :=
  if Path.isAbsolute path then [] else disk.here

/-- The row of names that a path stands for; the empty path stands for nothing. -/
def locate? (disk : Disk) (path : String) : Option (List String) :=
  if path = "" then none else disk.walk? (disk.start path) (Path.segments path)

/-- What a path leads to. -/
def find? (disk : Disk) (path : String) : Option FileTree :=
  (disk.locate? path).bind fun names => disk.root.find? names

/-- The disk after a change of its tree at a path, and whether the change was possible. -/
def change (disk : Disk) (path : String) (f : List String → FileTree → Option FileTree) :
    Bool × Disk :=
  match (disk.locate? path).bind (f · disk.root) with
  | some root => (true, { disk with root })
  | none => (false, disk)

/-- Where a directory that is made at a path comes to stand: under a name, in a directory that is
there. Slashes at the end of the path count for nothing. -/
def vacancy? (disk : Disk) (path : String) : Option (List String) :=
  let segments := ((Path.segments path).reverse.dropWhile (· == "")).reverse
  if segments.getLast?.any Path.isName then
    (disk.walk? (disk.start path) segments).filter fun names =>
      (disk.root.find? names.dropLast).map (·.kind) == some .directory
  else none

/-- Makes a directory at a path, unless there is one. -/
def makeDirectory (disk : Disk) (path : String) : Bool × Disk :=
  match disk.find? path with
  | some tree => (tree.kind == .directory, disk)
  | none =>
    match (disk.vacancy? path).bind (disk.root.makeDirectories? ·) with
    | some root => (true, { disk with root })
    | none => (false, disk)

/-- Makes directories at a row of paths, up to the first where it cannot be done. -/
def makeEach (disk : Disk) : List String → Bool × Disk
  | [] => (true, disk)
  | path :: rest =>
    match disk.makeDirectory path with
    | (true, disk) => makeEach disk rest
    | (false, disk) => (false, disk)

/-- Makes a directory at a path and those around it that are missing, from the outermost. The empty
path asks for nothing. -/
def makeDirectories (disk : Disk) (path : String) : Bool × Disk :=
  if path = "" then (true, disk) else disk.makeEach ((Path.ancestors path).tail.reverse ++ [path])

/-- The bytes of a file at a path. -/
def read? (disk : Disk) (path : String) : Option ByteArray :=
  match disk.find? path with
  | some (.file content) => some content
  | _ => none

/-- The names in a directory at a path. -/
def names? (disk : Disk) (path : String) : Option (List String) :=
  match disk.find? path with
  | some (.directory entries) => some (entries.map (·.1))
  | _ => none

end Disk

/-- A disk that is carried along is a file system. -/
instance : FileSystem (StateM Disk) where
  kind? path := fun disk => ((disk.find? path).map (·.kind), disk)
  makeDirectories path := fun disk => disk.makeDirectories path
  write path text := fun disk => disk.change path (FileTree.putFile? fun _ => text.toUTF8)
  append path text := fun disk => disk.change path (FileTree.putFile? (· ++ text.toUTF8))
  remove path := fun disk =>
    ((), (disk.change path fun names tree => some (tree.removeFile names)).2)
  names? path := fun disk => (disk.names? path, disk)
  read? path := fun disk => (disk.read? path, disk)

end CalcSpeech
