import CalcSpeech.Unicode.WordCharacter

/-!
# Patterns

A pattern says which stretches of a text it accepts and, where there are several from one place,
which it prefers: the left alternative before the right, more repetitions before fewer.
`Pattern.spots` lists the places at which a match from a given place can end, in that order, and
is what a pattern means. `Pattern.run` is how it is matched: it asks for one end at a time and
stops at the first that the rest of the pattern can go on from. `run_eq` says that the two agree.
-/

namespace CalcSpeech

open Unicode

/-- A pattern for a stretch of text. -/
inductive Pattern where
  /-- matches nowhere -/
  | never
  /-- matches the empty stretch anywhere -/
  | empty
  /-- matches the empty stretch where a word begins or ends -/
  | boundary
  /-- matches one character that passes the test -/
  | char (test : Char → Bool)
  /-- matches the first pattern, then the second from where it ended -/
  | seq (first second : Pattern)
  /-- matches either pattern, preferring the first -/
  | alt (first second : Pattern)
  /-- matches any number of stretches of the pattern in a row, preferring more -/
  | many (item : Pattern)
  /-- matches the pattern and keeps the stretch under a number -/
  | group (index : Nat) (item : Pattern)
  /-- matches the pattern where the next character passes the test -/
  | ahead (test : Char → Bool) (item : Pattern)

/-- A stretch of a text: the text from its first character on, and how many of its characters
belong to it. -/
structure Stretch where
  onward : List Char
  length : Nat

/-- The characters of a stretch. -/
def Stretch.text (s : Stretch) : List Char := s.onward.take s.length

/-- A place in a text: how many characters were read, the last of them, what is left to read, and
the stretches kept so far, last one first. -/
structure Spot where
  offset : Nat
  before : Option Char
  rest : List Char
  groups : List (Nat × Stretch)

namespace Spot

/-- The place after the next character `c`, with `rest` behind it. -/
def advance (s : Spot) (c : Char) (rest : List Char) : Spot :=
  ⟨s.offset + 1, some c, rest, s.groups⟩

/-- The stretch between two places. -/
def stretch (start stop : Spot) : Stretch := ⟨start.rest, stop.offset - start.offset⟩

/-- Keeps the stretch from `start` under a number. -/
def keep (stop : Spot) (index : Nat) (start : Spot) : Spot :=
  { stop with groups := (index, start.stretch stop) :: stop.groups }

end Spot

namespace Pattern

/-- The ends of rows of matches of an item, longer rows first. A match of the item that reads
nothing ends the row. Each match takes at least one character, so the text that was left before
the row, `left`, bounds its length. -/
def spotsMany (item : Spot → List Spot) : (left : List Char) → Spot → List Spot
  | [], s => [s]
  | _ :: left, s =>
    ((item s).filter (s.offset < ·.offset)).flatMap (spotsMany item left) ++ [s]

/-- The places where a match from `s` can end, in order of preference. -/
def spots : Pattern → Spot → List Spot
  | never, _ => []
  | empty, s => [s]
  | boundary, s => if isWordBoundary s.before s.rest.head? then [s] else []
  | char test, s =>
    match s.rest with
    | [] => []
    | c :: rest => if test c then [s.advance c rest] else []
  | seq p q, s => (p.spots s).flatMap q.spots
  | alt p q, s => p.spots s ++ q.spots s
  | many p, s => spotsMany p.spots s.rest s
  | group index p, s => (p.spots s).map (·.keep index s)
  | ahead test p, s => if s.rest.head?.any test then p.spots s else []

/-- Matches rows of items, longer rows first, and goes on with `next`. -/
def runMany {α : Type} (item : (Spot → Option α) → Spot → Option α) (next : Spot → Option α) :
    (left : List Char) → Spot → Option α
  | [], s => next s
  | _ :: left, s =>
    match item (fun t => if s.offset < t.offset then runMany item next left t else none) s with
    | some found => some found
    | none => next s

/-- Matches from `s` and goes on with `next` from the first end that `next` accepts. -/
def run {α : Type} : Pattern → (Spot → Option α) → Spot → Option α
  | never, _, _ => none
  | empty, next, s => next s
  | boundary, next, s => if isWordBoundary s.before s.rest.head? then next s else none
  | char test, next, s =>
    match s.rest with
    | [] => none
    | c :: rest => if test c then next (s.advance c rest) else none
  | seq p q, next, s => p.run (q.run next) s
  | alt p q, next, s =>
    match p.run next s with
    | some found => some found
    | none => q.run next s
  | many p, next, s => runMany p.run next s.rest s
  | group index p, next, s => p.run (fun t => next (t.keep index s)) s
  | ahead test p, next, s => if s.rest.head?.any test then p.run next s else none

theorem findSome?_flatMap {α β γ : Type} (xs : List α) (f : α → List β) (g : β → Option γ) :
    (xs.flatMap f).findSome? g = xs.findSome? fun x => (f x).findSome? g := by
  induction xs with
  | nil => rfl
  | cons x xs ih =>
    rw [List.flatMap_cons, List.findSome?_append, List.findSome?_cons, ih]
    cases (f x).findSome? g <;> rfl

theorem findSome?_filter {α β : Type} (xs : List α) (keep : α → Bool) (g : α → Option β) :
    (xs.filter keep).findSome? g = xs.findSome? fun x => if keep x then g x else none := by
  induction xs with
  | nil => rfl
  | cons x xs ih =>
    by_cases h : keep x = true <;> simp [h, List.findSome?_cons, ih]

theorem runMany_eq {α : Type} {item : (Spot → Option α) → Spot → Option α}
    {items : Spot → List Spot} (h : ∀ next s, item next s = (items s).findSome? next)
    (next : Spot → Option α) (left : List Char) (s : Spot) :
    runMany item next left s = (spotsMany items left s).findSome? next := by
  induction left generalizing s with
  | nil => simp [runMany, spotsMany]
  | cons _ left ih =>
    simp only [runMany, spotsMany, h, List.findSome?_append, findSome?_flatMap, findSome?_filter,
      List.findSome?_singleton, decide_eq_true_eq, ih]
    cases List.findSome? _ (items s) <;> rfl

/-- Matching finds the first end, in order of preference, from which the rest succeeds. -/
theorem run_eq {α : Type} (p : Pattern) (next : Spot → Option α) (s : Spot) :
    p.run next s = (p.spots s).findSome? next := by
  induction p generalizing next s with
  | never => rfl
  | empty => simp [run, spots]
  | boundary => by_cases h : isWordBoundary s.before s.rest.head? <;> simp [run, spots, h]
  | char test =>
    simp only [run, spots]
    cases s.rest with
    | nil => rfl
    | cons c rest => by_cases h : test c <;> simp [h]
  | seq p q ihp ihq =>
    simp only [run, spots, ihp, findSome?_flatMap]
    congr 1
    funext t
    exact ihq next t
  | alt p q ihp ihq =>
    simp only [run, spots, ihp, ihq, List.findSome?_append]
    cases (p.spots s).findSome? next <;> rfl
  | many p ih => exact runMany_eq ih next _ s
  | group index p ih =>
    simp only [run, spots, ih, List.findSome?_map]
    rfl
  | ahead test p ih => by_cases h : s.rest.head?.any test <;> simp [run, spots, h, ih]

end Pattern

end CalcSpeech
