import CalcSpeech.Text.Words

/-!
# Tidy texts

A text is tidy when its only blanks are single spaces between its words. Collapsing leaves a tidy
text as it is (`collapse_of_tidy`), what it makes of any text is tidy (`isTidy_collapse`), and it
changes blanks only (`filter_collapse`). Neither collapsing nor trimming changes the words of a text
(`words_collapse`, `words_trim`).
-/

namespace CalcSpeech.Text

open Unicode

/-- Whether a text goes on tidily inside a word, or in front of one. -/
def isTidyAfter : (inWord : Bool) → List Char → Bool
  | inWord, [] => inWord
  | inWord, c :: rest =>
    if c = ' ' then inWord && isTidyAfter false rest else !isBlank c && isTidyAfter true rest

/-- Whether the only blanks of a text are single spaces between words. -/
def isTidy (text : List Char) : Bool := text.isEmpty || isTidyAfter false text

/-- Collapsing a tidy text of which the characters `current` are already read. -/
theorem join_wordsAfter_of_tidy (current text : List Char)
    (h : isTidyAfter (!current.isEmpty) text = true) :
    join [' '] (wordsAfter current text) = current.reverse ++ text := by
  induction text generalizing current with
  | nil =>
    cases current with
    | nil => simp [isTidyAfter] at h
    | cons c current => simp [wordsAfter, join]
  | cons c rest ih =>
    rw [isTidyAfter] at h
    split at h
    · rename_i hspace
      rw [Bool.and_eq_true] at h
      obtain ⟨hcurrent, hrest⟩ := h
      have hjoin : join [' '] (wordsAfter [] rest) = rest := ih [] hrest
      -- a tidy text does not end in a space, so there is a word behind it
      have hne : wordsAfter [] rest ≠ [] := by
        intro hnil
        rw [hnil] at hjoin
        rw [← hjoin] at hrest
        exact Bool.false_ne_true hrest
      have hempty : current.isEmpty = false := by simpa using hcurrent
      have hwords : wordsAfter current (c :: rest) = current.reverse :: wordsAfter [] rest := by
        rw [wordsAfter, hspace, if_pos (by decide : isBlank ' ' = true), hempty]
        rfl
      rw [hwords]
      cases hw : wordsAfter [] rest with
      | nil => exact absurd hw hne
      | cons w ws =>
        rw [hw] at hjoin
        rw [join, hjoin, hspace, List.append_assoc]
        · rfl
        · exact List.cons_ne_nil w ws
    · rw [Bool.and_eq_true, Bool.not_eq_true'] at h
      have hwords : wordsAfter current (c :: rest) = wordsAfter (c :: current) rest := by
        rw [wordsAfter, h.1]
        rfl
      rw [hwords, ih (c :: current) h.2]
      simp

/-- Collapsing leaves a tidy text as it is. -/
theorem collapse_of_tidy {text : List Char} (h : isTidy text = true) : collapse text = text := by
  unfold isTidy at h
  rw [Bool.or_eq_true] at h
  rcases h with hempty | htidy
  · rw [List.isEmpty_iff.mp hempty]
    rfl
  · exact join_wordsAfter_of_tidy [] text htidy

/-- A text without blanks goes on tidily. -/
theorem isTidyAfter_of_solid {w : List Char} (hne : w ≠ [])
    (hw : ∀ c ∈ w, isBlank c = false) (rest : List Char) (inWord : Bool) :
    isTidyAfter inWord (w ++ rest) = isTidyAfter true rest := by
  induction w generalizing inWord with
  | nil => exact absurd rfl hne
  | cons c w ih =>
    have hc : isBlank c = false := hw c (by simp)
    have hspace : c ≠ ' ' := by
      intro he
      rw [he] at hc
      exact absurd hc (by decide)
    rw [List.cons_append, isTidyAfter, if_neg hspace, hc]
    cases w with
    | nil => rfl
    | cons d w => exact ih (List.cons_ne_nil d w) (fun e he => hw e (by simp [he])) true

/-- A stretch without blanks is read on into the word it stands in. -/
theorem wordsAfter_append {w : List Char} (hw : ∀ c ∈ w, isBlank c = false)
    (current rest : List Char) :
    wordsAfter current (w ++ rest) = wordsAfter (w.reverse ++ current) rest := by
  induction w generalizing current with
  | nil => rfl
  | cons c w ih =>
    obtain ⟨hc, hrest⟩ := List.forall_mem_cons.mp hw
    rw [List.cons_append, wordsAfter, hc, if_neg Bool.false_ne_true, ih hrest]
    simp

/-- A text without blanks is one word. -/
theorem words_of_solid {w : List Char} (hne : w ≠ []) (hw : ∀ c ∈ w, isBlank c = false) :
    words w = [w] := by
  have h := wordsAfter_append hw [] []
  rw [List.append_nil, List.append_nil] at h
  rw [words, h, wordsAfter]
  simp [hne]

/-- A text is cut into words at each blank. -/
theorem words_append_blank (u : List Char) {c : Char} (hc : isBlank c = true) (rest : List Char) :
    words (u ++ c :: rest) = words u ++ words rest := by
  have hafter (current : List Char) :
      wordsAfter current (u ++ c :: rest) = wordsAfter current u ++ words rest := by
    induction u generalizing current with
    | nil =>
      cases current <;> simp [wordsAfter, words, hc]
    | cons d u ih =>
      simp only [List.cons_append, wordsAfter, ih]
      split
      · split <;> rfl
      · rfl
  exact hafter []

theorem words_space (rest : List Char) : words (' ' :: rest) = words rest :=
  words_append_blank [] (by decide) rest

theorem words_append_space {w : List Char} (hne : w ≠ []) (hw : ∀ c ∈ w, isBlank c = false)
    (rest : List Char) : words (w ++ ' ' :: rest) = w :: words rest := by
  rw [words_append_blank w (by decide), words_of_solid hne hw]
  rfl

/-- Induction along the words of a text: it is one stretch without blanks, or it goes on behind
such a stretch and a blank. -/
theorem blank_induction {motive : List Char → Prop}
    (solid : ∀ w, (∀ c ∈ w, isBlank c = false) → motive w)
    (blank : ∀ w c rest, (∀ d ∈ w, isBlank d = false) → isBlank c = true → motive rest →
      motive (w ++ c :: rest))
    (text : List Char) : motive text := by
  have hall (w : List Char) (hw : ∀ c ∈ w, isBlank c = false) : motive (w ++ text) := by
    induction text generalizing w with
    | nil =>
      rw [List.append_nil]
      exact solid w hw
    | cons c rest ih =>
      by_cases hc : isBlank c = true
      · exact blank w c rest hw hc (ih [] (by simp))
      · have hsolid : ∀ d ∈ w ++ [c], isBlank d = false := by
          intro d hd
          rcases List.mem_append.mp hd with hd | hd
          · exact hw d hd
          · rw [List.mem_singleton.mp hd]
            exact Bool.eq_false_iff.mpr hc
        rw [List.append_cons]
        exact ih (w ++ [c]) hsolid
  exact hall [] (by simp)

theorem join_cons_cons (t u : List Char) (ts : List (List Char)) :
    join [' '] (t :: u :: ts) = t ++ ' ' :: join [' '] (u :: ts) :=
  List.append_assoc _ _ _

/-- Joined words make a tidy text. -/
theorem isTidyAfter_join {parts : List (List Char)} (hne : parts ≠ [])
    (h : ∀ p ∈ parts, p ≠ [] ∧ ∀ c ∈ p, isBlank c = false) (inWord : Bool) :
    isTidyAfter inWord (join [' '] parts) = true := by
  induction parts generalizing inWord with
  | nil => exact absurd rfl hne
  | cons p parts ih =>
    obtain ⟨hp, hsolid⟩ := h p (by simp)
    cases parts with
    | nil =>
      have htidy := isTidyAfter_of_solid hp hsolid [] inWord
      rw [List.append_nil] at htidy
      exact htidy
    | cons q parts =>
      rw [join_cons_cons, isTidyAfter_of_solid hp hsolid, isTidyAfter, if_pos rfl, Bool.true_and]
      exact ih (List.cons_ne_nil q parts) (fun r hr => h r (List.mem_cons_of_mem p hr)) false

/-- The words of a text have no blanks. -/
theorem solid_of_mem_wordsAfter {current text : List Char} (h : ∀ c ∈ current, isBlank c = false) :
    ∀ w ∈ wordsAfter current text, w ≠ [] ∧ ∀ c ∈ w, isBlank c = false := by
  have hlast {current : List Char} (h : ∀ c ∈ current, isBlank c = false) (hne : current ≠ []) :
      current.reverse ≠ [] ∧ ∀ c ∈ current.reverse, isBlank c = false :=
    ⟨by simpa using hne, fun c hc => h c (List.mem_reverse.mp hc)⟩
  induction text generalizing current with
  | nil =>
    intro w hw
    cases current with
    | nil => cases hw
    | cons d current =>
      obtain rfl := List.mem_singleton.mp hw
      exact hlast h (List.cons_ne_nil d current)
  | cons c rest ih =>
    intro w hw
    rw [wordsAfter] at hw
    split at hw
    · cases current with
      | nil => exact ih (by simp) w hw
      | cons d current =>
        rcases List.mem_cons.mp hw with rfl | hw
        · exact hlast h (List.cons_ne_nil d current)
        · exact ih (by simp) w hw
    · rename_i hc
      exact ih (List.forall_mem_cons.mpr ⟨Bool.eq_false_iff.mpr hc, h⟩) w hw

/-- A collapsed text is tidy. -/
theorem isTidy_collapse (text : List Char) : isTidy (collapse text) = true := by
  unfold collapse
  by_cases hne : words text = []
  · rw [hne]
    rfl
  · rw [isTidy, isTidyAfter_join hne (solid_of_mem_wordsAfter (by simp)), Bool.or_true]

/-- The words of a text have all its characters but the blanks. -/
theorem flatten_wordsAfter (current text : List Char) :
    (wordsAfter current text).flatten = current.reverse ++ text.filter (!isBlank ·) := by
  induction text generalizing current with
  | nil => cases current <;> simp [wordsAfter]
  | cons c rest ih =>
    rw [wordsAfter]
    split
    · rename_i hc
      have hrest : (wordsAfter [] rest).flatten = rest.filter (!isBlank ·) := ih []
      cases current <;> simp [hc, hrest]
    · rename_i hc
      simp [ih, hc]

/-- A text with something else than blanks has words. -/
theorem words_ne_nil_of_mem {text : List Char} {c : Char} (hc : c ∈ text)
    (hblank : isBlank c = false) : words text ≠ [] := by
  intro hnone
  have hfilter := flatten_wordsAfter [] text
  rw [← words, hnone] at hfilter
  have hdrop := List.filter_eq_nil_iff.mp hfilter.symm c hc
  rw [hblank] at hdrop
  exact hdrop rfl

theorem filter_join (parts : List (List Char)) :
    (join [' '] parts).filter (!isBlank ·) = parts.flatten.filter (!isBlank ·) := by
  have hspace : [' '].filter (!isBlank ·) = [] := by decide
  induction parts with
  | nil => rfl
  | cons p parts ih =>
    cases parts with
    | nil => simp [join]
    | cons q parts =>
      show (p ++ [' '] ++ join [' '] (q :: parts)).filter _ = (p ++ (q :: parts).flatten).filter _
      rw [List.filter_append, List.filter_append, hspace, List.append_nil, ih, List.filter_append]

/-- Collapsing changes nothing but blanks. -/
theorem filter_collapse (text : List Char) :
    (collapse text).filter (!isBlank ·) = text.filter (!isBlank ·) := by
  rw [collapse, words, filter_join, flatten_wordsAfter]
  simp

/-! ## Characters of a kind -/

section Kinds

variable {f g : Char → Bool}

/-- What is kept of a kind is kept of every part of it. -/
theorem filter_of_filter (hfg : ∀ c, f c = true → g c = true) {u v : List Char}
    (h : u.filter g = v.filter g) : u.filter f = v.filter f := by
  have hboth (l : List Char) : (l.filter g).filter f = l.filter f := by
    rw [List.filter_filter]
    apply List.filter_congr
    intro c _
    cases hc : f c with
    | false => rfl
    | true => rw [hfg c hc]; rfl
  rw [← hboth u, h, hboth v]

/-- Where each character gives way to a text with the same characters of a kind, a text does. -/
theorem filter_flatMap_eq {change : Char → List Char}
    (h : ∀ c, (change c).filter f = [c].filter f) (text : List Char) :
    (text.flatMap change).filter f = text.filter f := by
  induction text with
  | nil => rfl
  | cons c rest ih =>
    rw [List.flatMap_cons, List.filter_append, h, ih, ← List.filter_append]
    rfl

/-- Where each character gives way to one of the same kind, or both are of no account, a text does. -/
theorem filter_map_eq {change : Char → Char} (hkeep : ∀ c, f c = true → change c = c)
    (hdrop : ∀ c, f c = false → f (change c) = false) (text : List Char) :
    (text.map change).filter f = text.filter f := by
  rw [List.map_eq_flatMap]
  apply filter_flatMap_eq
  intro c
  cases hc : f c with
  | false => simp [hc, hdrop c hc]
  | true => rw [hkeep c hc]

/-- Characters that are no blanks are what they were when the blanks in front are dropped. -/
theorem filter_dropWhile_isBlank (hblank : ∀ c, isBlank c = true → f c = false) (text : List Char) :
    (text.dropWhile isBlank).filter f = text.filter f := by
  induction text with
  | nil => rfl
  | cons c rest ih =>
    rw [List.dropWhile_cons]
    split
    · rename_i hc
      rw [ih, List.filter_cons_of_neg (by rw [hblank c hc]; exact Bool.false_ne_true)]
    · rfl

/-- Characters that are no blanks are what they were when gaps are collapsed. -/
theorem filter_collapse_of_solid (hblank : ∀ c, isBlank c = true → f c = false)
    (text : List Char) : (collapse text).filter f = text.filter f := by
  refine filter_of_filter (fun c hc => ?_) (filter_collapse text)
  rw [Bool.not_eq_true', Bool.eq_false_iff]
  intro hb
  rw [hblank c hb] at hc
  exact Bool.false_ne_true hc

end Kinds

/-! ## Tidy texts in parts -/

/-- What goes on tidily in front of a word does so inside one. -/
theorem isTidyAfter_of_tidyAfter {text : List Char} {inWord : Bool}
    (h : isTidyAfter inWord text = true) : isTidyAfter true text = true := by
  cases text with
  | nil => rfl
  | cons c rest =>
    rw [isTidyAfter] at h ⊢
    split
    · rename_i hc
      rw [if_pos hc, Bool.and_eq_true] at h
      rw [h.2]
      rfl
    · rename_i hc
      rwa [if_neg hc] at h

/-- Behind a part of a tidy text the rest goes on tidily. -/
theorem isTidyAfter_of_append {u v : List Char} {inWord : Bool}
    (h : isTidyAfter inWord (u ++ v) = true) : isTidyAfter true v = true := by
  induction u generalizing inWord with
  | nil => exact isTidyAfter_of_tidyAfter h
  | cons c u ih =>
    rw [List.cons_append, isTidyAfter] at h
    split at h
    · exact ih (Bool.and_eq_true _ _ ▸ h).2
    · exact ih (Bool.and_eq_true _ _ ▸ h).2

/-- Behind a tidy text a text goes on inside a word. -/
theorem isTidyAfter_append {u : List Char} {inWord : Bool} (h : isTidyAfter inWord u = true)
    (v : List Char) : isTidyAfter inWord (u ++ v) = isTidyAfter true v := by
  induction u generalizing inWord with
  | nil => rw [List.nil_append, show inWord = true from h]
  | cons c u ih =>
    rw [isTidyAfter] at h
    rw [List.cons_append, isTidyAfter]
    split
    · rename_i hc
      rw [if_pos hc, Bool.and_eq_true] at h
      rw [h.1, Bool.true_and, ih h.2]
    · rename_i hc
      rw [if_neg hc, Bool.and_eq_true] at h
      rw [h.1, Bool.true_and, ih h.2]

/-- The only blanks of a tidy text are spaces with a word behind them. -/
theorem eq_space_of_tidy {u v : List Char} {c : Char} {inWord : Bool}
    (h : isTidyAfter inWord (u ++ c :: v) = true) (hc : isBlank c = true) :
    c = ' ' ∧ ∃ d w, v = d :: w ∧ isBlank d = false := by
  have htail := isTidyAfter_of_append h
  rw [isTidyAfter] at htail
  split at htail
  · rename_i hspace
    refine ⟨hspace, ?_⟩
    cases v with
    | nil => exact absurd htail (by decide)
    | cons d w =>
      refine ⟨d, w, rfl, ?_⟩
      rw [Bool.true_and, isTidyAfter] at htail
      split at htail
      · exact absurd htail Bool.false_ne_true
      · rw [Bool.and_eq_true, Bool.not_eq_true'] at htail
        exact htail.1
  · rw [hc] at htail
    exact absurd htail Bool.false_ne_true

/-- A tidy text does not begin with a blank. -/
theorem head_of_tidy {text : List Char} (h : isTidy text = true) :
    text.head?.any isBlank = false := by
  cases text with
  | nil => rfl
  | cons c rest =>
    rw [isTidy, List.isEmpty_cons, Bool.false_or, isTidyAfter] at h
    split at h
    · exact absurd h Bool.false_ne_true
    · rw [Bool.and_eq_true, Bool.not_eq_true'] at h
      exact h.1

/-- A tidy text does not end in a blank. -/
theorem last_of_tidy {text : List Char} (h : isTidy text = true) :
    text.getLast?.any isBlank = false := by
  rcases List.eq_nil_or_concat text with rfl | ⟨u, c, rfl⟩
  · rfl
  · rw [isTidy, Bool.or_eq_true] at h
    rw [List.concat_eq_append] at h ⊢
    rw [List.getLast?_append, List.getLast?_singleton, Option.some_or, Option.any_some,
      Bool.eq_false_iff]
    intro hc
    have htidy : isTidyAfter false (u ++ [c]) = true := h.resolve_left (by simp)
    obtain ⟨-, d, w, hv, -⟩ := eq_space_of_tidy htidy hc
    cases hv

theorem dropWhile_of_head {text : List Char} (h : text.head?.any isBlank = false) :
    text.dropWhile isBlank = text := by
  cases text with
  | nil => rfl
  | cons c rest =>
    have hc : ¬ isBlank c = true := by simpa using h
    rw [List.dropWhile_cons_of_neg hc]

/-- Trimming drops the blanks at both ends. -/
theorem trim_append {lead w trail : List Char} (hlead : ∀ c ∈ lead, isBlank c = true)
    (htrail : ∀ c ∈ trail, isBlank c = true) (hhead : w.head?.any isBlank = false)
    (hlast : w.getLast?.any isBlank = false) : trim (lead ++ w ++ trail) = w := by
  have hdrop {g v : List Char} (hg : ∀ c ∈ g, isBlank c = true) (hv : v.head?.any isBlank = false) :
      (g ++ v).dropWhile isBlank = v := by
    rw [List.dropWhile_append_of_pos hg, dropWhile_of_head hv]
  cases w with
  | nil =>
    have hall : ∀ c ∈ lead ++ [] ++ trail, isBlank c = true := by
      rw [List.append_nil]
      exact List.forall_mem_append.mpr ⟨hlead, htrail⟩
    have hnone := hdrop (v := []) hall rfl
    rw [List.append_nil] at hnone
    rw [trim, hnone]
    rfl
  | cons c w =>
    rw [trim, List.append_assoc, hdrop hlead (by exact hhead), List.reverse_append,
      hdrop (fun d hd => htrail d (List.mem_reverse.mp hd)) (by rwa [List.head?_reverse]),
      List.reverse_reverse]

/-- A text without blanks at its ends is trimmed already. -/
theorem trim_of_ends {w : List Char} (hhead : w.head?.any isBlank = false)
    (hlast : w.getLast?.any isBlank = false) : trim w = w := by
  have hnone : ∀ c ∈ ([] : List Char), isBlank c = true := by simp
  have hall := trim_append hnone hnone hhead hlast
  rwa [List.nil_append, List.append_nil] at hall

/-- A text without blanks is trimmed already. -/
theorem trim_of_solid {w : List Char} (h : ∀ c ∈ w, isBlank c = false) : trim w = w := by
  have hany {side : Option Char} (hside : ∀ c, side = some c → c ∈ w) :
      side.any isBlank = false := by
    cases side with
    | none => rfl
    | some c => exact h c (hside c rfl)
  exact trim_of_ends (hany fun _ hc => List.mem_of_head? hc)
    (hany fun _ hc => List.mem_of_getLast? hc)

/-- Joined rows are joined by a separator. -/
theorem join_append {xs ys : List (List Char)} (hx : xs ≠ []) (hy : ys ≠ []) :
    join [' '] (xs ++ ys) = join [' '] xs ++ ' ' :: join [' '] ys := by
  obtain ⟨y, ys, rfl⟩ := List.exists_cons_of_ne_nil hy
  induction xs with
  | nil => exact absurd rfl hx
  | cons x xs ih =>
    cases xs with
    | nil => exact List.append_assoc x [' '] (join [' '] (y :: ys))
    | cons x' xs =>
      have hrest := ih (List.cons_ne_nil x' xs)
      show x ++ [' '] ++ join [' '] (x' :: xs ++ y :: ys) = x ++ [' '] ++ join [' '] (x' :: xs) ++ _
      rw [hrest]
      simp

/-- A text of blanks has no words. -/
theorem words_of_blanks {u : List Char} (hu : ∀ c ∈ u, isBlank c = true) : words u = [] := by
  induction u with
  | nil => rfl
  | cons c u ih =>
    obtain ⟨hc, hrest⟩ := List.forall_mem_cons.mp hu
    have hwords : words (c :: u) = words u := words_append_blank [] hc u
    rw [hwords, ih hrest]

/-- Words that are joined are cut apart again. -/
theorem words_join {parts : List (List Char)}
    (h : ∀ p ∈ parts, p ≠ [] ∧ ∀ c ∈ p, isBlank c = false) : words (join [' '] parts) = parts := by
  induction parts with
  | nil => rfl
  | cons p parts ih =>
    obtain ⟨⟨hne, hsolid⟩, hrest⟩ := List.forall_mem_cons.mp h
    cases parts with
    | nil => exact words_of_solid hne hsolid
    | cons q parts => rw [join_cons_cons, words_append_space hne hsolid, ih hrest]

theorem words_collapse (text : List Char) : words (collapse text) = words text :=
  words_join (solid_of_mem_wordsAfter (by simp))

/-- Joined tidy texts are what is joined of their words. -/
theorem join_flatMap_words {ts : List (List Char)} (h : ∀ t ∈ ts, t ≠ [] ∧ isTidy t = true) :
    join [' '] (ts.flatMap words) = join [' '] ts := by
  induction ts with
  | nil => rfl
  | cons t ts ih =>
    obtain ⟨⟨hne, htidy⟩, hrest⟩ := List.forall_mem_cons.mp h
    have hcollapse : join [' '] (words t) = t := collapse_of_tidy htidy
    have hwords {t : List Char} (hne : t ≠ []) (htidy : isTidy t = true) : words t ≠ [] := by
      intro hnone
      have hnil := collapse_of_tidy htidy
      rw [collapse, hnone] at hnil
      exact hne hnil.symm
    cases ts with
    | nil => rw [List.flatMap_singleton, hcollapse, join]
    | cons t' ts =>
      obtain ⟨hne', htidy'⟩ := hrest t' List.mem_cons_self
      have hmore : (t' :: ts).flatMap words ≠ [] := by simp [hwords hne' htidy']
      rw [List.flatMap_cons, join_append (hwords hne htidy) hmore, hcollapse, ih hrest,
        join_cons_cons]

theorem any_head?_dropWhile (text : List Char) :
    (text.dropWhile isBlank).head?.any isBlank = false := by
  have hhead := List.head?_dropWhile_not isBlank text
  cases h : (text.dropWhile isBlank).head? with
  | none => rfl
  | some c =>
    rw [h] at hhead
    exact hhead

/-- A text that is trimmed has no blanks at its ends. -/
theorem ends_trim (text : List Char) :
    (trim text).head?.any isBlank = false ∧ (trim text).getLast?.any isBlank = false := by
  unfold trim
  rw [List.head?_reverse, List.getLast?_reverse]
  refine ⟨?_, any_head?_dropWhile _⟩
  obtain ⟨trail, htrail⟩ := List.dropWhile_suffix isBlank (l := (text.dropWhile isBlank).reverse)
  have hlast : (text.dropWhile isBlank).reverse.getLast?.any isBlank = false := by
    rw [List.getLast?_reverse]
    exact any_head?_dropWhile text
  rw [← htrail, List.getLast?_append] at hlast
  cases h : ((text.dropWhile isBlank).reverse.dropWhile isBlank).getLast? with
  | none => rfl
  | some c => rwa [h, Option.some_or] at hlast

/-- A text is what is left of it when it is trimmed, between blanks. -/
theorem exists_trim (text : List Char) :
    ∃ lead trail, text = lead ++ trim text ++ trail ∧ (∀ c ∈ lead, isBlank c = true) ∧
      ∀ c ∈ trail, isBlank c = true := by
  have hblank {g : List Char} : ∀ c ∈ g.takeWhile isBlank, isBlank c = true := by
    intro c hc
    exact List.all_eq_true.mp List.all_takeWhile c hc
  refine ⟨text.takeWhile isBlank, ((text.dropWhile isBlank).reverse.takeWhile isBlank).reverse,
    ?_, hblank, fun c hc => hblank c (List.mem_reverse.mp hc)⟩
  unfold trim
  rw [List.append_assoc, ← List.reverse_append, List.takeWhile_append_dropWhile,
    List.reverse_reverse, List.takeWhile_append_dropWhile]

theorem words_trim (text : List Char) : words (trim text) = words text := by
  have hlead {g : List Char} (hg : ∀ c ∈ g, isBlank c = true) (w : List Char) :
      words (g ++ w) = words w := by
    induction g with
    | nil => rfl
    | cons c g ih =>
      obtain ⟨hc, hrest⟩ := List.forall_mem_cons.mp hg
      have hwords : words (c :: (g ++ w)) = words (g ++ w) := words_append_blank [] hc _
      rw [List.cons_append, hwords, ih hrest]
  have htrail {g : List Char} (hg : ∀ c ∈ g, isBlank c = true) (w : List Char) :
      words (w ++ g) = words w := by
    cases g with
    | nil => rw [List.append_nil]
    | cons c g =>
      obtain ⟨hc, hrest⟩ := List.forall_mem_cons.mp hg
      rw [words_append_blank w hc, words_of_blanks hrest, List.append_nil]
  obtain ⟨lead, trail, htext, hl, ht⟩ := exists_trim text
  have hwords : words (lead ++ trim text ++ trail) = words (trim text) := by
    rw [htrail ht, hlead hl]
  rw [← hwords, ← htext]

/-- There are blanks inside a text where it has several words. -/
theorem any_trim_iff (text : List Char) :
    (trim text).any isBlank = true ↔ 1 < (words text).length := by
  obtain ⟨hhead, hlast⟩ := ends_trim text
  rw [← words_trim text]
  by_cases hsolid : ∀ c ∈ trim text, isBlank c = false
  · have hnone : ¬ (trim text).any isBlank = true := by simpa using hsolid
    have hone : ¬ 1 < (words (trim text)).length := by
      by_cases hnil : trim text = []
      · rw [hnil]
        decide
      · rw [words_of_solid hnil hsolid, List.length_singleton]
        omega
    exact iff_of_false hnone hone
  · -- there are words on both sides of a blank, since there is none at either end
    obtain ⟨c, hc, hblank⟩ : ∃ c ∈ trim text, isBlank c = true := by simpa using hsolid
    refine iff_of_true (List.any_eq_true.mpr ⟨c, hc, hblank⟩) ?_
    obtain ⟨u, v, huv⟩ := List.append_of_mem hc
    rw [huv] at hhead hlast ⊢
    have hu : words u ≠ [] := by
      cases u with
      | nil => exact absurd hblank (by simpa using hhead)
      | cons d u => exact words_ne_nil_of_mem List.mem_cons_self (by simpa using hhead)
    have hv : words v ≠ [] := by
      rcases List.eq_nil_or_concat v with rfl | ⟨v, d, rfl⟩
      · exact absurd hblank (by simpa using hlast)
      · rw [List.concat_eq_append] at hlast ⊢
        rw [← List.cons_append, ← List.append_assoc, List.getLast?_concat] at hlast
        exact words_ne_nil_of_mem (List.mem_append_right v List.mem_cons_self) hlast
    rw [words_append_blank u hblank, List.length_append]
    have hupos := List.length_pos_iff.mpr hu
    have hvpos := List.length_pos_iff.mpr hv
    omega

/-- What stands in front of joined parts is joined with the first of them. -/
theorem append_join (s t : List Char) (ts : List (List Char)) :
    s ++ join [' '] (t :: ts) = join [' '] ((s ++ t) :: ts) := by
  cases ts <;> simp [join]

end CalcSpeech.Text
