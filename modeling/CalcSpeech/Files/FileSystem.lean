import CalcSpeech.Files.Path

/-!
# File systems

What the program asks of files and directories. The actions that can fail say only whether they
were carried out.
-/

namespace CalcSpeech

/-- What a path leads to. -/
inductive FileKind where
  | file
  | directory
  deriving DecidableEq, Repr

/-- Access to files and directories. -/
class FileSystem (m : Type → Type) where
  /-- what a path leads to, if it leads anywhere -/
  kind? : String → m (Option FileKind)
  /-- makes a directory and those around it that are missing -/
  makeDirectories : String → m Bool
  /-- makes a file with this text, in the place of one that was there -/
  write : String → String → m Bool
  /-- puts a text at the end of a file, which is made if it is missing -/
  append : String → String → m Bool
  /-- removes a file -/
  remove : String → m Unit
  /-- the names in a directory -/
  names? : String → m (Option (List String))
  /-- the bytes of a file -/
  read? : String → m (Option ByteArray)

end CalcSpeech
