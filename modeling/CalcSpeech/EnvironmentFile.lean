import CalcSpeech.Environment
import CalcSpeech.Text.Words

/-!
# Environment files

A file of variables, one in a line: a name, an equals sign and a value. A line may begin with
`export`, a hash sign begins a comment, single quotes keep a value as it is, and double quotes keep
its blanks. Outside single quotes a dollar sign puts in the value of a variable. The first line
that cannot be read ends the reading, and variables that are set already keep their values.
-/

namespace CalcSpeech.EnvironmentFile

/-- The characters that a name may begin with. -/
def beginsName (c : Char) : Bool := c.isAlpha || c == '_'

/-- The characters of a name. -/
def isNameCharacter (c : Char) : Bool := c.isAlphanum || c == '_' || c == '.'

/-- Reads a name. -/
def readName? (text : List Char) : Option (String × List Char) :=
  if text.head?.any beginsName then
    some (String.ofList (text.takeWhile isNameCharacter), text.dropWhile isNameCharacter)
  else none

/-- The value of a name put in: that of the environment, or that of an earlier line. -/
def substitute (env read : Environment) (name : List Char) : List Char :=
  let name := String.ofList name
  (((env.get? name).or (read.get? name)).getD "").toList

/-- How a value is read: outside quotes, inside single or double ones, or behind its end. -/
inductive Mode where
  | bare
  | single
  | double
  | done
  deriving DecidableEq, Repr

/-- What a backslash and a character stand for. -/
def escaped? (c : Char) : Option Char :=
  if c = '\\' ∨ c = '"' ∨ c = '\'' ∨ c = '$' ∨ c = ' ' then some c
  else if c = 'n' then some '\n'
  else none

/-- Reads a value to the end of its line; `fuel` bounds the number of characters. -/
def readValue? (put : List Char → List Char) : (fuel : Nat) → Mode → List Char → Option (List Char)
  | 0, _, _ => none
  | _, .bare, [] | _, .done, [] => some []
  | _, _, [] => none
  | fuel + 1, .done, c :: rest =>
    if c = '#' then some [] else if Unicode.isBlank c then readValue? put fuel .done rest else none
  | fuel + 1, .single, c :: rest =>
    if c = '\'' then readValue? put fuel .bare rest
    else (readValue? put fuel .single rest).map (c :: ·)
  | fuel + 1, mode, '\\' :: c :: rest => do
    let c ← escaped? c
    (readValue? put fuel mode rest).map (c :: ·)
  | fuel + 1, mode, '$' :: '\x7b' :: rest =>
    let name := rest.takeWhile (· != '\x7d')
    match rest.dropWhile (· != '\x7d') with
    | _ :: rest => (readValue? put fuel mode rest).map (put name ++ ·)
    | [] => none
  | fuel + 1, mode, '$' :: rest =>
    let name := rest.takeWhile fun c => c.isAlphanum || c == '_'
    let rest := rest.dropWhile fun c => c.isAlphanum || c == '_'
    (readValue? put fuel mode rest).map (put name ++ ·)
  | fuel + 1, mode, c :: rest =>
    if c = '\\' then none
    else if c = '"' then readValue? put fuel (if mode = .bare then .double else .bare) rest
    else if mode = .double then (readValue? put fuel mode rest).map (c :: ·)
    else if c = '\'' then readValue? put fuel .single rest
    else if Unicode.isBlank c then readValue? put fuel .done rest
    else (readValue? put fuel mode rest).map (c :: ·)

/-- The text behind an equals sign and the blanks around it. -/
def behindEquals? (text : List Char) : Option (List Char) :=
  match text.dropWhile Unicode.isBlank with
  | '=' :: rest => some (rest.dropWhile Unicode.isBlank)
  | _ => none

/-- The name of a line and the text of its value. -/
def readAssignment? (text : List Char) : Option (String × List Char) := do
  let (name, rest) ← readName? text
  match behindEquals? rest with
  | some value => return (name, value)
  | none =>
    if name ≠ "export" then none
    else
      let (name, rest) ← readName? (rest.dropWhile Unicode.isBlank)
      let value ← behindEquals? rest
      return (name, value)

/-- Reads a line, which may hold no variable. -/
def readLine? (env read : Environment) (line : List Char) : Option (Option (String × String)) :=
  let text := line.dropWhile Unicode.isBlank
  if text.isEmpty || text.head? == some '#' then some none
  else do
    let (name, value) ← readAssignment? text
    if value.isEmpty || value.head? == some '#' then return some (name, "")
    else
      let value ← readValue? (substitute env read) (value.length + 1) .bare value
      return some (name, String.ofList value)

/-- Reads lines, with the variables read so far, later ones first. -/
def readLines (env : Environment) : (read : Environment) → List (List Char) → Environment
  | read, [] => read
  | read, line :: rest =>
    match readLine? env read line with
    | none => read
    | some none => readLines env read rest
    | some (some new) => readLines env (new :: read) rest

/-- The lines of a text, where `current` holds what was read of the next one, last character
first. -/
def linesAfter (current : List Char) : List Char → List (List Char)
  | [] => [current.reverse]
  | c :: rest =>
    if c = '\n' then current.reverse :: linesAfter [] rest else linesAfter (c :: current) rest

/-- An environment with the variables of a file that it does not set itself. -/
def extend (env : Environment) (text : String) : Environment :=
  env ++ (readLines env [] (linesAfter [] text.toList)).reverse

end CalcSpeech.EnvironmentFile
