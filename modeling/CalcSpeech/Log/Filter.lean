import CalcSpeech.Log.Event
import CalcSpeech.Text.Unsigned
import CalcSpeech.Unicode.Blank
import CalcSpeech.Unicode.WordCharacter

/-!
# Log filters

A filter says up to which detail the events of a part of the program are logged. It is written as
directives between commas: a level for everything, a target for all its events, or a target, an
equals sign and a level. Of the directives whose target begins the target of an event, the longest
decides.
-/

namespace CalcSpeech.Log

/-- Up to which detail the events are logged whose target begins with the given one, or all events
where none is given. -/
structure Directive where
  target : Option String
  detail : Nat
  deriving DecidableEq, Repr

/-- Whether a directive speaks of a target. -/
def Directive.covers (d : Directive) (target : String) : Bool :=
  d.target.all fun start => start.toList.isPrefixOf target.toList

/-- How closely a directive names its target. -/
def Directive.closeness (d : Directive) : Nat :=
  match d.target with
  | none => 0
  | some target => target.utf8ByteSize + 1

/-- A filter by its directives. -/
structure Filter where
  directives : List Directive
  deriving DecidableEq, Repr

namespace Filter

/-- The names of levels, in small letters, with the detail each goes into. -/
def levelNames : List (String × Nat) :=
  [("off", 0), ("error", 1), ("warn", 2), ("info", 3), ("debug", 4), ("trace", 5)]

/-- The detail of a level, given by its name in any case or by its number. -/
def level? (text : List Char) : Option Nat :=
  match Text.unsigned? 6 (String.ofList text) with
  | some detail => some detail
  | none => levelNames.lookup (String.ofList (text.map Char.toLower))

/-- The detail of a level that may be left out, which asks for everything. -/
def levelOrAll? (text : List Char) : Option Nat := if text.isEmpty then some 5 else level? text

/-- Whether a directive may begin with a character. -/
def mayBegin (c : Char) : Bool :=
  c == '-' || c == ':' || c == '_' || c == '[' || Unicode.isAlphanumeric c

/-- What follows a part in brackets: nothing, or an equals sign and a level. -/
def bracketsEnd (text : List Char) : Bool :=
  match text.dropWhile (· != ']') with
  | [']'] => true
  | ']' :: '=' :: level => (levelOrAll? level).isSome
  | _ => false

/-- Reads a directive. One with brackets speaks of events inside named activities, of which there
are none, and yields no directive. -/
def directives? (text : List Char) : Option (List Directive) :=
  let blank := (text.takeWhile Unicode.isBlank).isEmpty
  let target := text.takeWhile fun c => c != '=' && c != '['
  if !(text.dropWhile Unicode.isBlank).head?.any mayBegin then none
  else match text.dropWhile fun c => c != '=' && c != '[' with
    | '=' :: level =>
      if blank then (levelOrAll? level).map fun detail => [⟨some (String.ofList target), detail⟩]
      else none
    | '[' :: rest => if bracketsEnd rest then some [] else none
    | _ =>
      match level? text with
      | some detail => some [⟨none, detail⟩]
      | none => some [⟨some (String.ofList text), 5⟩]

/-- The parts between commas, where `current` holds what was read of the next one, last character
first. -/
def partsAfter (current : List Char) : List Char → List (List Char)
  | [] => [current.reverse]
  | c :: rest =>
    if c = ',' then current.reverse :: partsAfter [] rest else partsAfter (c :: current) rest

/-- Reads a filter. Without directives it lets errors pass. -/
def ofText? (text : String) : Option Filter := do
  let parts := (partsAfter [] text.toList).filter (!·.isEmpty)
  let directives ← parts.mapM directives?
  return ⟨if parts.isEmpty then [⟨none, 1⟩] else directives.flatten⟩

/-- The detail logged for a target: that of the closest directive, and of the later one of two. -/
def detailFor (filter : Filter) (target : String) : Nat :=
  ((filter.directives.filter (·.covers target)).foldl
    (fun best d => if best.1 ≤ d.closeness then (d.closeness, d.detail) else best) (0, 0)).2

/-- Whether an event passes a filter. -/
def passes (filter : Filter) (e : Event) : Bool := e.level.detail ≤ filter.detailFor e.target

end Filter

end CalcSpeech.Log
