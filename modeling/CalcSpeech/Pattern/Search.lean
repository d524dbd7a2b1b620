import CalcSpeech.Pattern.Basic

/-!
# Searching and replacing

A search goes through a text from left to right, takes the preferred match at the first place that
has one, and goes on behind it. Its result cuts the text into the characters between matches and
the matches themselves, so nothing is lost: `joined_pieces`.
-/

namespace CalcSpeech

/-- A stretch of text that a pattern accepted, with the stretches it kept. -/
structure Match where
  text : List Char
  groups : List (Nat × List Char)

/-- The stretch kept under a number, if that part of the pattern was used. -/
def Match.group? (m : Match) (index : Nat) : Option (List Char) := m.groups.lookup index

/-- The stretch kept under a number, empty where there is none. -/
def Match.group (m : Match) (index : Nat) : List Char := (m.group? index).getD []

/-- A part of a searched text: a character outside every match, or a match. -/
inductive Piece where
  | plain (c : Char)
  | found (m : Match)

/-- The text of a piece. -/
def Piece.text : Piece → List Char
  | .plain c => [c]
  | .found m => m.text

namespace Pattern

/-- The preferred match that starts right here and reads at least one character. -/
def matchAt? (p : Pattern) (before : Option Char) (rest : List Char) : Option Match :=
  (p.run (fun t => if 0 < t.offset then some t else none) ⟨0, before, rest, []⟩).map
    fun t => ⟨rest.take t.offset, t.groups.map fun g => (g.1, g.2.text)⟩

/-- The pieces of a text behind the character `before`; the first `inside` characters belong to a
match that is already taken. -/
def piecesAfter (p : Pattern) : (before : Option Char) → (inside : Nat) → List Char → List Piece
  | _, _, [] => []
  | _, inside + 1, c :: rest => piecesAfter p (some c) inside rest
  | before, 0, c :: rest =>
    match p.matchAt? before (c :: rest) with
    | some m => .found m :: piecesAfter p (some c) (m.text.length - 1) rest
    | none => .plain c :: piecesAfter p (some c) 0 rest

/-- A text cut into matches and the characters between them. -/
def pieces (p : Pattern) (text : List Char) : List Piece := piecesAfter p none 0 text

/-- The matches in a text, from left to right, none overlapping another. -/
def matchesIn (p : Pattern) (text : List Char) : List Match :=
  (p.pieces text).filterMap fun
    | .plain _ => none
    | .found m => some m

/-- A text with each match rewritten. -/
def rewrite (p : Pattern) (change : Match → List Char) (text : List Char) : List Char :=
  (p.pieces text).flatMap fun
    | .plain c => [c]
    | .found m => change m

/-- A text with each match rewritten, or the text itself where there is no pattern. -/
def rewrite? (p : Option Pattern) (change : Match → List Char) (text : List Char) : List Char :=
  match p with
  | some p => p.rewrite change text
  | none => text

/-- A match is the part of the text that it reads. -/
theorem text_of_matchAt? {p : Pattern} {before : Option Char} {rest : List Char} {m : Match}
    (h : p.matchAt? before rest = some m) :
    m.text = rest.take m.text.length ∧ (rest ≠ [] → 0 < m.text.length) := by
  rw [matchAt?, run_eq, Option.map_eq_some_iff] at h
  obtain ⟨t, ht, rfl⟩ := h
  obtain ⟨u, _, hu⟩ := List.exists_of_findSome?_eq_some ht
  have hpos : 0 < t.offset := by
    by_cases hz : 0 < u.offset
    · rw [if_pos hz, Option.some.injEq] at hu
      exact hu ▸ hz
    · simp [hz] at hu
  refine ⟨?_, fun hne => ?_⟩
  · rw [List.length_take, ← List.take_take, List.take_length]
  · have := List.length_pos_iff.mpr hne
    rw [List.length_take]
    omega

/-- The pieces of a text, put together again, are the text. -/
theorem joined_piecesAfter (p : Pattern) (before : Option Char) (inside : Nat) (text : List Char) :
    (p.piecesAfter before inside text).flatMap Piece.text = text.drop inside := by
  induction text generalizing before inside with
  | nil => simp [piecesAfter]
  | cons c rest ih =>
    cases inside with
    | succ inside => simp [piecesAfter, ih]
    | zero =>
      simp only [piecesAfter]
      split
      · rename_i m hm
        obtain ⟨htext, hpos⟩ := text_of_matchAt? hm
        have hpos := hpos (by simp)
        obtain ⟨k, hk⟩ : ∃ k, m.text.length = k + 1 := ⟨m.text.length - 1, by omega⟩
        rw [hk, List.take_succ_cons] at htext
        simp only [List.flatMap_cons, Piece.text, ih, hk, Nat.add_sub_cancel, List.drop_zero]
        rw [htext, List.cons_append, List.take_append_drop]
      · simp [Piece.text, ih]

/-- The pieces of a text, put together again, are the text. -/
theorem joined_pieces (p : Pattern) (text : List Char) :
    (p.pieces text).flatMap Piece.text = text :=
  joined_piecesAfter p none 0 text

end Pattern

end CalcSpeech
