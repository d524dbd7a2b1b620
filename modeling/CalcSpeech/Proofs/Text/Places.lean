import CalcSpeech.Proofs.Unicode.Classes
import CalcSpeech.Text.Words

/-!
# Places and words in a text

A place in a text is given by the character in front of it and the text from there on. A word
stands at a place (`WordAt`) when no word character goes on at either of its sides. In a row of
tokens with a space between neighbours, each of letters only or without letters, no word stands
anywhere but the tokens themselves (`nowhere_join`).
-/

namespace CalcSpeech

open Unicode

/-- The character in front of a place: the last of the text `w`, or the one in front of `w`. -/
def behind (before : Option Char) : List Char → Option Char
  | [] => before
  | c :: w => behind (some c) w

@[simp] theorem behind_nil (before : Option Char) : behind before [] = before := rfl

@[simp] theorem behind_cons (before : Option Char) (c : Char) (w : List Char) :
    behind before (c :: w) = behind (some c) w := rfl

@[simp] theorem behind_append (before : Option Char) (u v : List Char) :
    behind before (u ++ v) = behind (behind before u) v := by
  induction u generalizing before with
  | nil => rfl
  | cons c u ih => exact ih (some c)

/-- Behind a text that is not empty stands its last character. -/
theorem behind_of_ne_nil (before : Option Char) {w : List Char} (h : w ≠ []) :
    behind before w = some (w.getLast h) := by
  induction w generalizing before with
  | nil => exact absurd rfl h
  | cons c w ih =>
    cases w with
    | nil => rfl
    | cons d w => exact ih (some c) (List.cons_ne_nil d w)

/-- Behind a text that is not empty it does not matter what stands in front of it. -/
theorem behind_congr {w : List Char} (h : w ≠ []) (before other : Option Char) :
    behind before w = behind other w := by
  rw [behind_of_ne_nil before h, behind_of_ne_nil other h]

/-- What holds of the character in front of a text and of all of its own holds behind it. -/
theorem any_behind {before : Option Char} {f : Char → Bool} {v : Bool} {w : List Char}
    (hb : before.any f = v) (hw : ∀ c ∈ w, f c = v) : (behind before w).any f = v := by
  induction w generalizing before with
  | nil => exact hb
  | cons c w ih => exact ih (hw c List.mem_cons_self) fun d hd => hw d (List.mem_cons_of_mem c hd)

theorem any_behind_of_ne_nil (before : Option Char) {f : Char → Bool} {v : Bool} {w : List Char}
    (h : w ≠ []) (hw : ∀ c ∈ w, f c = v) : (behind before w).any f = v := by
  rw [behind_of_ne_nil before h]
  exact hw _ (List.getLast_mem h)

/-- No word goes on from a space. -/
theorem head_space {rest : List Char} : (' ' :: rest).head?.any isWordCharacter = false := by
  show isWordCharacter ' ' = false
  decide

theorem behind_space : (some ' ').any isWordCharacter = false := by
  show isWordCharacter ' ' = false
  decide

/-! ## Stretches without a place of some kind -/

/-- No place inside the stretch `u`, which follows `before` and is followed by `a`, is of the
kind `Q`. -/
def Nowhere (Q : Option Char → List Char → Prop) (before : Option Char) (u a : List Char) : Prop :=
  ∀ v c w, u = v ++ c :: w → ¬ Q (behind before v) (c :: w ++ a)

section Nowhere

variable {Q R : Option Char → List Char → Prop} {b : Option Char} {u v a : List Char}

theorem nowhere_nil (Q : Option Char → List Char → Prop) (b : Option Char) (a : List Char) :
    Nowhere Q b [] a := by
  intro v c w h
  simp at h

theorem nowhere_cons {c : Char} :
    Nowhere Q b (c :: u) a ↔ ¬ Q b (c :: (u ++ a)) ∧ Nowhere Q (some c) u a := by
  constructor
  · intro h
    refine ⟨h [] c u rfl, ?_⟩
    intro v d w hu
    exact h (c :: v) d w (by rw [hu]; rfl)
  · intro ⟨hc, hu⟩ v d w h
    cases v with
    | nil =>
      obtain ⟨rfl, rfl⟩ := List.cons.inj h
      exact hc
    | cons e v =>
      obtain ⟨rfl, hrest⟩ := List.cons.inj h
      exact hu v d w hrest

theorem nowhere_append :
    Nowhere Q b (u ++ v) a ↔ Nowhere Q b u (v ++ a) ∧ Nowhere Q (behind b u) v a := by
  induction u generalizing b with
  | nil => simp [nowhere_nil]
  | cons c u ih =>
    rw [List.cons_append, nowhere_cons, nowhere_cons, ih, List.append_assoc, and_assoc]
    rfl

theorem Nowhere.mono (h : Nowhere R b u a) (hQ : ∀ b r, Q b r → R b r) : Nowhere Q b u a := by
  intro v c w hu hq
  exact h v c w hu (hQ _ _ hq)

theorem Nowhere.or (hQ : Nowhere Q b u a) (hR : Nowhere R b u a) :
    Nowhere (fun b r => Q b r ∨ R b r) b u a := by
  intro v c w hu h
  rcases h with h | h
  · exact hQ v c w hu h
  · exact hR v c w hu h

/-- A stretch without characters that pass a test has no place where one stands. -/
theorem nowhere_head {f : Char → Bool} (h : ∀ c ∈ u, f c = false) :
    Nowhere (fun _ rest => rest.head?.any f = true) b u a := by
  intro v c w hu hc
  have hfc : f c = false := h c (by rw [hu]; simp)
  rw [List.cons_append, List.head?_cons, Option.any_some, hfc] at hc
  exact Bool.false_ne_true hc

/-- Places that a certain character stands at are not in a stretch without it. -/
theorem nowhere_of_not_mem {c : Char} (hQ : ∀ b r, Q b r → r.head? = some c) (h : c ∉ u) :
    Nowhere Q b u a := by
  intro v d w hu hq
  obtain rfl : d = c := by simpa using hQ _ _ hq
  exact h (by rw [hu]; simp)

end Nowhere

/-- Where a character of one kind stands, none of another kind does. -/
theorem head_eq_false {f g : Char → Bool} {text : List Char} (h : text.head?.any g = true)
    (hgf : ∀ c, g c = true → f c = false) : text.head?.any f = false := by
  cases text with
  | nil => rfl
  | cons c rest => exact hgf c h

/-- A text is cut in one way into a stretch of characters of one kind and a rest that begins with
none of that kind. -/
theorem eq_of_spans {f : Char → Bool} {u v s t : List Char} (hu : ∀ c ∈ u, f c = true)
    (hv : ∀ c ∈ v, f c = true) (hs : s.head?.any f = false) (ht : t.head?.any f = false)
    (h : u ++ s = v ++ t) : u = v ∧ s = t := by
  have stop {y z e : List Char} (hy : ∀ c ∈ y, f c = true) (hz : z.head?.any f = false)
      (hzy : z = y ++ e) : y = [] := by
    cases y with
    | nil => rfl
    | cons c y =>
      rw [hzy] at hz
      simp [hy c (by simp)] at hz
  rcases List.append_eq_append_iff.mp h with ⟨y, rfl, rfl⟩ | ⟨y, rfl, rfl⟩
  · have hy : y = [] := stop (fun c hc => hv c (List.mem_append_right u hc)) hs rfl
    exact ⟨by rw [hy, List.append_nil], by rw [hy, List.nil_append]⟩
  · have hy : y = [] := stop (fun c hc => hu c (List.mem_append_right v hc)) ht rfl
    exact ⟨by rw [hy, List.append_nil], by rw [hy, List.nil_append]⟩

/-- Nothing, or a text with a space in front of it. -/
def IsTail (text : List Char) : Prop := text = [] ∨ ∃ rest, text = ' ' :: rest

theorem IsTail.all_isBlank {text : List Char} (h : IsTail text) :
    text.head?.all isBlank = true := by
  rcases h with rfl | ⟨rest, rfl⟩
  · rfl
  · show isBlank ' ' = true
    decide

theorem IsTail.head {text : List Char} (h : IsTail text) {f : Char → Bool}
    (hspace : f ' ' = false) :
    text.head?.any f = false := by
  rcases h with rfl | ⟨rest, rfl⟩
  · rfl
  · exact hspace

/-! ## Words at a place -/

/-- The word `x` stands at the beginning of `text`, which follows `before`. -/
def WordAt (x : List Char) (before : Option Char) (text : List Char) : Prop :=
  before.any isWordCharacter = false ∧
    ∃ a, text = x ++ a ∧ a.head?.any isWordCharacter = false

/-- A token is a word of letters or has no letters at all. -/
def IsToken (t : List Char) : Prop :=
  (∀ c ∈ t, isLetter c = true) ∨ ∀ c ∈ t, isLetter c = false

/-- A word of letters that is not empty. -/
def IsWord (x : List Char) : Prop := x ≠ [] ∧ ∀ c ∈ x, isLetter c = true

section Tokens

variable {x : List Char} {b : Option Char} {a : List Char}

/-- A word stands only where a letter does. -/
theorem WordAt.head {text : List Char} (hx : IsWord x) (h : WordAt x b text) :
    text.head?.any isLetter = true := by
  obtain ⟨-, a', rfl, -⟩ := h
  obtain ⟨c, x, rfl⟩ := List.exists_cons_of_ne_nil hx.1
  simpa using hx.2 c (by simp)

theorem nowhere_word_of_no_letter {u : List Char} (hx : IsWord x)
    (hu : ∀ c ∈ u, isLetter c = false) : Nowhere (WordAt x) b u a := by
  intro v c w huv h
  have hletter : isLetter c = true := by simpa using h.head hx
  rw [hu c (by rw [huv]; simp)] at hletter
  exact Bool.false_ne_true hletter

/-- Of two words that begin at one place, neither goes on beyond the other. -/
theorem eq_of_append_eq {t a' : List Char} (hx : ∀ c ∈ x, isLetter c = true)
    (ht : ∀ c ∈ t, isLetter c = true) (ha : a.head?.any isWordCharacter = false)
    (ha' : a'.head?.any isWordCharacter = false) (h : t ++ a = x ++ a') : x = t := by
  have hstop {z : List Char} (hz : z.head?.any isWordCharacter = false) :
      z.head?.any isLetter = false := by
    cases hhead : z.head? with
    | none => rfl
    | some c =>
      rw [hhead, Option.any_some] at hz
      rw [Option.any_some, Bool.eq_false_iff]
      intro hletter
      rw [isWordCharacter_of_isLetter hletter] at hz
      exact Bool.noConfusion hz
  exact (eq_of_spans ht hx (hstop ha) (hstop ha') h).1.symm

/-- At one place stands one word. -/
theorem WordAt.unique {y text : List Char} (hx : IsWord x) (hy : IsWord y) (h : WordAt x b text)
    (h' : WordAt y b text) : x = y := by
  obtain ⟨-, a, ha, hend⟩ := h
  obtain ⟨-, a', ha', hend'⟩ := h'
  exact eq_of_append_eq hx.2 hy.2 hend' hend (ha'.symm.trans ha)

/-- In a token no other word stands. -/
theorem nowhere_token {t : List Char} (hx : IsWord x) (ht : IsToken t) (hne : x ≠ t)
    (ha : a.head?.any isWordCharacter = false) : Nowhere (WordAt x) b t a := by
  rcases ht with hletters | hnone
  · intro v c w htv h
    obtain ⟨hbefore, a', htext, ha'⟩ := h
    cases v with
    | nil =>
      rw [List.nil_append] at htv
      rw [← htv] at htext
      exact hne (eq_of_append_eq hx.2 hletters ha ha' htext)
    | cons d v =>
      -- inside the token the character in front is one of its letters
      have hlast := behind_of_ne_nil b (List.cons_ne_nil d v)
      have hmem : (d :: v).getLast (List.cons_ne_nil d v) ∈ t := by
        rw [htv]
        exact List.mem_append_left _ (List.getLast_mem _)
      rw [hlast, Option.any_some, isWordCharacter_of_isLetter (hletters _ hmem)] at hbefore
      exact Bool.false_ne_true hbefore.symm
  · exact nowhere_word_of_no_letter hx hnone

/-- A space is no word. -/
theorem nowhere_space (hx : IsWord x) : Nowhere (WordAt x) b [' '] a := by
  apply nowhere_word_of_no_letter hx
  intro c hc
  rw [List.mem_singleton.mp hc]
  decide

omit x in
/-- What is not in the tokens of a row and not between them is not in the row. -/
theorem nowhere_join_of {Q : Option Char → List Char → Prop} {tokens : List (List Char)}
    (hspace : ∀ b r, Q b r → r.head? ≠ some ' ')
    (htokens : ∀ t ∈ tokens, ∀ b a, Nowhere Q b t a) :
    Nowhere Q b (Text.join [' '] tokens) a := by
  induction tokens generalizing b with
  | nil => exact nowhere_nil _ _ _
  | cons t tokens ih =>
    have hrest := ih (b := behind (behind b t) [' ']) (fun s hs => htokens s (by simp [hs]))
    cases tokens with
    | nil => exact htokens t (by simp) b a
    | cons t' tokens =>
      show Nowhere Q b (t ++ [' '] ++ Text.join [' '] (t' :: tokens)) a
      rw [List.append_assoc, nowhere_append, nowhere_append, nowhere_cons]
      refine ⟨htokens t (by simp) _ _, ⟨?_, nowhere_nil _ _ _⟩, hrest⟩
      intro h
      exact hspace _ _ h rfl

/-- In a row of tokens no word stands but the tokens. -/
theorem nowhere_join {tokens : List (List Char)} (hx : IsWord x)
    (htokens : ∀ t ∈ tokens, IsToken t) (hne : x ∉ tokens)
    (ha : a.head?.any isWordCharacter = false) :
    Nowhere (WordAt x) b (Text.join [' '] tokens) a := by
  induction tokens generalizing b with
  | nil => exact nowhere_nil _ _ _
  | cons t tokens ih =>
    have ht : x ≠ t := fun h => hne (by rw [h]; simp)
    have htoken : IsToken t := htokens t (by simp)
    cases tokens with
    | nil => exact nowhere_token hx htoken ht ha
    | cons t' tokens =>
      have hrest := ih (b := behind (behind b t) [' ']) (fun s hs => htokens s (by simp [hs]))
        (fun h => hne (List.mem_cons_of_mem t h))
      show Nowhere (WordAt x) b (t ++ [' '] ++ Text.join [' '] (t' :: tokens)) a
      rw [List.append_assoc, nowhere_append, nowhere_append]
      exact ⟨nowhere_token hx htoken ht (show isWordCharacter ' ' = false by decide),
        nowhere_space hx, hrest⟩

end Tokens

end CalcSpeech
