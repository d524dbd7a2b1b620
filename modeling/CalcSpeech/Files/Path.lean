/-!
# Paths

Paths are kept as they are given. Their parts are what stands between slashes, where nothing and
a single dot count for nothing, but for a dot that a path starts with. Two dots are a part: what
they lead to is for the file system to say.
-/

namespace CalcSpeech.Path

/-- Whether a path starts at the root. -/
def isAbsolute (path : String) : Bool := path.toList.head? == some '/'

/-- The names between slashes, where `current` holds what was read of the next one, last character
first. -/
def namesAfter (current : List Char) : List Char → List String
  | [] => [String.ofList current.reverse]
  | c :: rest =>
    if c = '/' then String.ofList current.reverse :: namesAfter [] rest
    else namesAfter (c :: current) rest

/-- What stands between the slashes of a path. -/
def segments (path : String) : List String := namesAfter [] path.toList

/-- Whether a segment leads nowhere else. -/
def isIdle (segment : String) : Bool := segment == "" || segment == "."

/-- Whether a segment is the name of an entry. -/
def isName (segment : String) : Bool := !isIdle segment && segment != ".."

/-- The parts of a path, from the outermost. -/
def parts (path : String) : List String :=
  let leading := if (segments path).head? = some "." then ["."] else []
  leading ++ (segments path).filter (!isIdle ·)

/-- A path followed by a further one, which replaces it if it starts at the root. -/
def join (path further : String) : String :=
  if path = "" ∨ isAbsolute further then further
  else if path.toList.getLast? = some '/' then path ++ further
  else path ++ "/" ++ further

/-- The path of parts, innermost part first. -/
def ofParts (absolute : Bool) (reversed : List String) : String :=
  (if absolute then "/" else "") ++ "/".intercalate reversed.reverse

/-- The paths of parts and of all outer parts, innermost part first. A path from the root ends
with the root. -/
def outward (absolute : Bool) : List String → List String
  | [] => if absolute then ["/"] else []
  | part :: outer => ofParts absolute (part :: outer) :: outward absolute outer

/-- A path and the paths of the directories around it, from the innermost. -/
def ancestors (path : String) : List String := outward (isAbsolute path) (parts path).reverse

/-- Whether a file name has the given extension: something, a dot, and then it. -/
def hasExtension (name extension : String) : Bool :=
  let reversed := name.toList.reverse
  let last := (reversed.takeWhile (· != '.')).reverse
  let rest := (reversed.dropWhile (· != '.')).drop 1
  last == extension.toList && !rest.isEmpty

end CalcSpeech.Path
