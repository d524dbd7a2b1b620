import CalcSpeech.Proofs.Text.Places
import CalcSpeech.Proofs.Text.Words
import Mathlib.Data.List.Flatten

/-!
# Tokens around others

Some tokens of a row stand between a text that ends in a space and one that begins with one, or at
an end of the row (`join_around`). So they can be replaced whatever stands around them.
-/

namespace CalcSpeech

open Unicode Text

/-- Tokens in front of others, with the spaces between. -/
def frontText (tokens : List (List Char)) : List Char := tokens.flatMap (· ++ [' '])

/-- Tokens behind others, with the spaces between. -/
def backText (tokens : List (List Char)) : List Char := tokens.flatMap (' ' :: ·)

section Around

variable {front mid back : List (List Char)}

theorem frontText_eq (hne : front ≠ []) : frontText front = join [' '] front ++ [' '] := by
  induction front with
  | nil => exact absurd rfl hne
  | cons t front ih =>
    cases front with
    | nil => simp [frontText, join]
    | cons u front =>
      have hrest : frontText (u :: front) = _ := ih (List.cons_ne_nil u front)
      show t ++ [' '] ++ frontText (u :: front) = t ++ [' '] ++ join [' '] (u :: front) ++ [' ']
      rw [hrest, List.append_assoc, List.append_assoc, List.append_assoc]

theorem backText_eq (hne : back ≠ []) : backText back = ' ' :: join [' '] back := by
  induction back with
  | nil => exact absurd rfl hne
  | cons t back ih =>
    cases back with
    | nil => simp [backText, join]
    | cons u back =>
      have hrest : backText (u :: back) = _ := ih (List.cons_ne_nil u back)
      show ' ' :: t ++ backText (u :: back) = ' ' :: (t ++ [' '] ++ join [' '] (u :: back))
      rw [hrest, List.cons_append, List.append_assoc, List.singleton_append]

theorem forall_frontText {P : Char → Prop} (hspace : P ' ') (h : ∀ t ∈ front, ∀ c ∈ t, P c) :
    ∀ c ∈ frontText front, P c := by
  intro c hc
  obtain ⟨t, ht, hc⟩ := List.mem_flatMap.mp hc
  exact List.forall_mem_append.mpr ⟨h t ht, List.forall_mem_singleton.mpr hspace⟩ c hc

theorem forall_backText {P : Char → Prop} (hspace : P ' ') (h : ∀ t ∈ back, ∀ c ∈ t, P c) :
    ∀ c ∈ backText back, P c := by
  intro c hc
  obtain ⟨t, ht, hc⟩ := List.mem_flatMap.mp hc
  exact List.forall_mem_cons.mpr ⟨hspace, h t ht⟩ c hc

/-- A row of tokens as some of them and what stands around these. -/
theorem join_around (hne : mid ≠ []) : join [' '] (front ++ (mid ++ back)) =
    frontText front ++ (join [' '] mid ++ backText back) := by
  have hmid : join [' '] (mid ++ back) = join [' '] mid ++ backText back := by
    by_cases hback : back = []
    · rw [hback, List.append_nil, show backText [] = [] from rfl, List.append_nil]
    · rw [join_append hne hback, backText_eq hback]
  by_cases hfront : front = []
  · rw [hfront, List.nil_append, hmid]
    rfl
  · rw [join_append hfront (List.append_ne_nil_of_left_ne_nil hne back), hmid,
      frontText_eq hfront, List.append_assoc]
    rfl

theorem join_cons (t : List Char) : join [' '] (t :: back) = t ++ backText back := by
  have haround : join [' '] ([] ++ ([t] ++ back)) = _ := join_around (List.cons_ne_nil t [])
  exact haround

theorem isTail_backText : IsTail (backText back) := by
  cases back with
  | nil => exact Or.inl rfl
  | cons t back => exact Or.inr ⟨t ++ backText back, rfl⟩

/-- What stands in front of a row of tokens ends in a space. -/
theorem behind_frontText {b : Option Char} (hb : b.any isWordCharacter = false) :
    (behind b (frontText front)).any isWordCharacter = false := by
  by_cases hne : front = []
  · rw [hne]
    exact hb
  · rw [frontText_eq hne, behind_append]
    exact behind_space

/-- A row without some of its tokens is no longer than the row. -/
theorem length_join_le {tokens row : List (List Char)} (h : tokens.Sublist row) :
    (join [' '] tokens).length ≤ (join [' '] row).length := by
  have hlength (ts : List (List Char)) :
      (join [' '] ts).length = (backText ts).length - 1 := by
    by_cases hne : ts = []
    · rw [hne]
      rfl
    · rw [backText_eq hne, List.length_cons, Nat.add_sub_cancel]
  have hback : (backText tokens).length ≤ (backText row).length := (h.flatMap _).length_le
  rw [hlength, hlength]
  exact Nat.sub_le_sub_right hback 1

variable {Q : Option Char → List Char → Prop} (hspace : ∀ b r, ¬ Q b (' ' :: r)) {b : Option Char}

include hspace

theorem nowhere_frontText {a : List Char}
    (h : ∀ a, IsTail a → Nowhere Q b (join [' '] front) a) : Nowhere Q b (frontText front) a := by
  by_cases hne : front = []
  · rw [hne]
    exact nowhere_nil _ _ _
  · rw [frontText_eq hne, nowhere_append, nowhere_cons]
    exact ⟨h _ (Or.inr ⟨a, rfl⟩), hspace _ _, nowhere_nil _ _ _⟩

theorem nowhere_backText (h : ∀ b, Nowhere Q b (join [' '] back) []) :
    Nowhere Q b (backText back) [] := by
  by_cases hne : back = []
  · rw [hne]
    exact nowhere_nil _ _ _
  · rw [backText_eq hne, nowhere_cons]
    exact ⟨hspace _ _, h _⟩

end Around

end CalcSpeech
