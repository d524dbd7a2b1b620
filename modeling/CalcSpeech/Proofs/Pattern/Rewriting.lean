import CalcSpeech.Proofs.Pattern.Reading

/-!
# Rewriting from a place on

`rewriteAfter` rewrites a text that follows some character, so that a rewriting can be taken up in
the middle of a text: behind a match (`rewriteAfter_found`), or behind a stretch in which no match
starts (`rewriteAfter_quiet`). A text is left as it is when no stretch of it changes when it is
read (`rewriteAfter_eq_self`).
-/

namespace CalcSpeech.Pattern

/-- A text that follows the character `before`, with each match rewritten. -/
def rewriteAfter (p : Pattern) (change : Match → List Char) (before : Option Char)
    (text : List Char) : List Char :=
  (p.piecesAfter before 0 text).flatMap fun
    | .plain c => [c]
    | .found m => change m

theorem rewrite_eq_rewriteAfter (p : Pattern) (change : Match → List Char) (text : List Char) :
    p.rewrite change text = p.rewriteAfter change none text := rfl

section Search

variable (p : Pattern) (change : Match → List Char)

@[simp] theorem rewriteAfter_nil (before : Option Char) : p.rewriteAfter change before [] = [] :=
  rfl

/-- A search that is inside a match takes up behind it. -/
theorem piecesAfter_inside (before : Option Char) (w a : List Char) :
    p.piecesAfter before w.length (w ++ a) = p.piecesAfter (behind before w) 0 a := by
  induction w generalizing before with
  | nil => rfl
  | cons c w ih =>
    rw [List.length_cons, List.cons_append, piecesAfter]
    exact ih (some c)

variable {p}

/-- A character at which no match starts is a piece of its own. -/
theorem piecesAfter_plain {before : Option Char} {c : Char} {rest : List Char}
    (h : p.matchAt? before (c :: rest) = none) :
    p.piecesAfter before 0 (c :: rest) = .plain c :: p.piecesAfter (some c) 0 rest := by
  rw [piecesAfter, h]

/-- A match is a piece, and the search goes on behind it. -/
theorem piecesAfter_found {before : Option Char} {m : Match} {a : List Char}
    (h : p.matchAt? before (m.text ++ a) = some m) :
    p.piecesAfter before 0 (m.text ++ a) =
      .found m :: p.piecesAfter (behind before m.text) 0 a := by
  obtain ⟨hne, -⟩ := reads_of_matchAt? h
  obtain ⟨c, w, hw⟩ := List.exists_cons_of_ne_nil hne
  have hlength : m.text.length - 1 = w.length := by rw [hw]; rfl
  rw [hw, List.cons_append] at h ⊢
  rw [piecesAfter, h]
  show Piece.found m :: p.piecesAfter (some c) (m.text.length - 1) (w ++ a) = _
  rw [hlength, piecesAfter_inside]
  rfl

/-- A character at which no match starts stays. -/
theorem rewriteAfter_plain {before : Option Char} {c : Char} {rest : List Char}
    (h : p.matchAt? before (c :: rest) = none) :
    p.rewriteAfter change before (c :: rest) = c :: p.rewriteAfter change (some c) rest := by
  unfold rewriteAfter
  rw [piecesAfter_plain h]
  rfl

/-- A match is rewritten, and the rewriting goes on behind it. -/
theorem rewriteAfter_found {before : Option Char} {m : Match} {a : List Char}
    (h : p.matchAt? before (m.text ++ a) = some m) :
    p.rewriteAfter change before (m.text ++ a) =
      change m ++ p.rewriteAfter change (behind before m.text) a := by
  unfold rewriteAfter
  rw [piecesAfter_found h]
  rfl

/-- The matches in a text that follows the character `before`. -/
def matchesAfter (p : Pattern) (before : Option Char) (text : List Char) : List Match :=
  (p.piecesAfter before 0 text).filterMap fun
    | .plain _ => none
    | .found m => some m

theorem matchesIn_eq_matchesAfter (text : List Char) :
    p.matchesIn text = p.matchesAfter none text := rfl

@[simp] theorem matchesAfter_nil (before : Option Char) : p.matchesAfter before [] = [] := rfl

theorem matchesAfter_plain {before : Option Char} {c : Char} {rest : List Char}
    (h : p.matchAt? before (c :: rest) = none) :
    p.matchesAfter before (c :: rest) = p.matchesAfter (some c) rest := by
  unfold matchesAfter
  rw [piecesAfter_plain h]
  rfl

theorem matchesAfter_found {before : Option Char} {m : Match} {a : List Char}
    (h : p.matchAt? before (m.text ++ a) = some m) :
    p.matchesAfter before (m.text ++ a) = m :: p.matchesAfter (behind before m.text) a := by
  unfold matchesAfter
  rw [piecesAfter_found h]
  rfl

variable (p)

/-- Induction along a search: a text is empty, or no match starts at its first character, or one
does and the search goes on behind it. -/
theorem search_induction {motive : Option Char → List Char → Prop}
    (nil : ∀ before, motive before [])
    (plain : ∀ before c rest, p.matchAt? before (c :: rest) = none → motive (some c) rest →
      motive before (c :: rest))
    (found : ∀ before m a, p.matchAt? before (m.text ++ a) = some m → m.text ≠ [] →
      motive (behind before m.text) a → motive before (m.text ++ a))
    (before : Option Char) (text : List Char) : motive before text := by
  induction hn : text.length using Nat.strongRecOn generalizing before text with
  | ind n ih =>
    cases text with
    | nil => exact nil before
    | cons c rest =>
      cases hm : p.matchAt? before (c :: rest) with
      | none =>
        refine plain before c rest hm (ih rest.length ?_ _ rest rfl)
        rw [← hn, List.length_cons]
        exact Nat.lt_succ_self _
      | some m =>
        obtain ⟨hne, a, ha, -⟩ := reads_of_matchAt? hm
        rw [ha] at hm hn ⊢
        refine found before m a hm hne (ih a.length ?_ _ a rfl)
        rw [← hn, List.length_append]
        exact Nat.lt_add_of_pos_left (List.length_pos_iff.mpr hne)

end Search

/-! ## Stretches in which no match starts -/

/-- No match starts inside the stretch `u` that follows `before` and is followed by `a`. -/
def Quiet (p : Pattern) (before : Option Char) (u a : List Char) : Prop :=
  Nowhere (fun b rest => p.matchAt? b rest ≠ none) before u a

theorem quiet_nil (p : Pattern) (before : Option Char) (a : List Char) : p.Quiet before [] a :=
  nowhere_nil _ before a

theorem quiet_cons {p : Pattern} {before : Option Char} {c : Char} {u a : List Char} :
    p.Quiet before (c :: u) a ↔
      p.matchAt? before (c :: (u ++ a)) = none ∧ p.Quiet (some c) u a := by
  rw [Quiet, nowhere_cons, ne_eq, not_not]
  rfl

/-- A stretch is quiet when only the empty text is read from each of its places. -/
theorem quiet_of_reads {p : Pattern} {before : Option Char} {u a : List Char}
    (h : ∀ v x w a' k, u = v ++ x → x ≠ [] → x ++ a = w ++ a' →
      p.Reads (behind before v) w a' k → w = []) : p.Quiet before u a := by
  intro v c w hu
  apply not_not.mpr
  rw [matchAt?_eq_none_iff]
  intro r a' k hr hread
  exact h v (c :: w) r a' k hu (List.cons_ne_nil c w) hr hread

/-- A rewriting passes over a quiet stretch. -/
theorem rewriteAfter_quiet {p : Pattern} (change : Match → List Char) {before : Option Char}
    {u a : List Char} (h : p.Quiet before u a) :
    p.rewriteAfter change before (u ++ a) = u ++ p.rewriteAfter change (behind before u) a := by
  induction u generalizing before with
  | nil => rfl
  | cons c u ih =>
    obtain ⟨hc, hu⟩ := quiet_cons.mp h
    rw [List.cons_append, rewriteAfter_plain change hc, ih hu]
    rfl

/-- A search passes over a quiet stretch. -/
theorem matchesAfter_quiet {p : Pattern} {before : Option Char} {u a : List Char}
    (h : p.Quiet before u a) :
    p.matchesAfter before (u ++ a) = p.matchesAfter (behind before u) a := by
  induction u generalizing before with
  | nil => rfl
  | cons c u ih =>
    obtain ⟨hc, hu⟩ := quiet_cons.mp h
    rw [List.cons_append, matchesAfter_plain hc, ih hu]
    rfl

/-- A text stays as it is when every stretch that is read in it is its own rewriting. -/
theorem rewriteAfter_eq_self {p : Pattern} {change : Match → List Char} {before : Option Char}
    {text : List Char}
    (h : ∀ v w a k, text = v ++ (w ++ a) → w ≠ [] → p.Reads (behind before v) w a k →
      change ⟨w, k⟩ = w) : p.rewriteAfter change before text = text := by
  induction before, text using p.search_induction with
  | nil => rfl
  | plain before c rest hc ih =>
    rw [rewriteAfter_plain change hc, ih]
    intro v w a k hrest
    exact h (c :: v) w a k (by rw [hrest]; rfl)
  | found before m a hm hne ih =>
    obtain ⟨-, a', ha, hread⟩ := reads_of_matchAt? hm
    obtain rfl := List.append_cancel_left ha
    have hself : change m = m.text := h [] m.text a m.groups rfl hne hread
    rw [rewriteAfter_found change hm, hself, ih]
    intro v w a' k hrest
    have := h (m.text ++ v) w a' k (by rw [hrest, List.append_assoc])
    rwa [behind_append] at this

/-- What holds of the characters of a text and of what is written for each match holds of the
rewritten text. -/
theorem forall_mem_rewriteAfter {p : Pattern} {change : Match → List Char} {P : Char → Prop}
    (hchange : ∀ b m a, p.Reads b m.text a m.groups → (∀ c ∈ m.text, P c) →
      ∀ c ∈ change m, P c) {before : Option Char} {text : List Char} (htext : ∀ c ∈ text, P c) :
    ∀ c ∈ p.rewriteAfter change before text, P c := by
  induction before, text using p.search_induction with
  | nil =>
    intro c hc
    cases hc
  | plain before d rest hd ih =>
    rw [rewriteAfter_plain change hd]
    intro c hc
    rcases List.mem_cons.mp hc with hcd | hc
    · exact htext c (by rw [hcd]; simp)
    · exact ih (fun e he => htext e (List.mem_cons_of_mem d he)) c hc
  | found before m a hm hne ih =>
    obtain ⟨-, a', ha, hread⟩ := reads_of_matchAt? hm
    rw [rewriteAfter_found change hm]
    intro c hc
    rcases List.mem_append.mp hc with hc | hc
    · exact hchange before m a' hread (fun e he => htext e (List.mem_append_left a he)) c hc
    · exact ih (fun e he => htext e (List.mem_append_right _ he)) c hc

/-- Characters of a kind that every match keeps in their order are kept in their order. -/
theorem filter_rewriteAfter {p : Pattern} {change : Match → List Char} {f : Char → Bool}
    (hchange : ∀ b m a, p.Reads b m.text a m.groups → (change m).filter f = m.text.filter f)
    (before : Option Char) (text : List Char) :
    (p.rewriteAfter change before text).filter f = text.filter f := by
  induction before, text using p.search_induction with
  | nil => rfl
  | plain before c rest hc ih =>
    rw [rewriteAfter_plain change hc, List.filter_cons, List.filter_cons, ih]
  | found before m a hm hne ih =>
    obtain ⟨-, a', ha, hread⟩ := reads_of_matchAt? hm
    rw [rewriteAfter_found change hm, List.filter_append, List.filter_append,
      hchange before m a' hread, ih]

/-- Where all that is written for a match begins with a character of one kind, a text and what is
made of it agree up to the first such character. -/
theorem exists_of_rewriteAfter {p : Pattern} {change : Match → List Char} {f : Char → Bool}
    (hchange : ∀ b m a, p.Reads b m.text a m.groups → (change m).head?.any f = true)
    {b : Option Char} {text u a : List Char} (hu : ∀ c ∈ u, f c = false)
    (htext : p.rewriteAfter change b text = u ++ a) :
    ∃ a', text = u ++ a' ∧ (a'.head? = a.head? ∨ a.head?.any f = true) := by
  -- induction along the search: up to its first match a text is copied
  induction b, text using p.search_induction generalizing u with
  | nil =>
    rw [rewriteAfter_nil] at htext
    obtain ⟨rfl, rfl⟩ := List.append_eq_nil_iff.mp htext.symm
    exact ⟨[], rfl, Or.inl rfl⟩
  | plain b c rest hm ih =>
    rw [rewriteAfter_plain change hm] at htext
    cases u with
    | nil => exact ⟨_, rfl, Or.inl (by rw [← List.nil_append a, ← htext]; rfl)⟩
    | cons d u =>
      obtain ⟨rfl, hrest⟩ := List.cons.inj htext
      obtain ⟨a', rfl, ha'⟩ := ih (fun e he => hu e (List.mem_cons_of_mem _ he)) hrest
      exact ⟨a', rfl, ha'⟩
  | found b m rest hm =>
    obtain ⟨-, rest', hsame, hread⟩ := reads_of_matchAt? hm
    obtain rfl := List.append_cancel_left hsame
    rw [rewriteAfter_found change hm] at htext
    have hhead := hchange _ _ _ hread
    cases hwritten : change m with
    | nil =>
      rw [hwritten] at hhead
      cases hhead
    | cons e es =>
      rw [hwritten] at hhead htext
      cases u with
      | nil =>
        rw [List.nil_append] at htext
        exact ⟨_, rfl, Or.inr (htext ▸ hhead)⟩
      | cons d u =>
        obtain ⟨rfl, -⟩ := List.cons.inj htext
        exact absurd ((hu e List.mem_cons_self).symm.trans hhead) Bool.false_ne_true

/-! ## Places that a reading starts at -/

/-- Wherever the pattern reads something, be it empty, the place is of the kind `Q`. -/
def OpensAt (p : Pattern) (Q : Option Char → List Char → Prop) : Prop :=
  ∀ b w a k, p.Reads b w a k → Q b (w ++ a)

/-- Wherever the pattern reads something the next character passes the test. -/
abbrev Opens (p : Pattern) (f : Char → Bool) : Prop :=
  p.OpensAt fun _ rest => rest.head?.any f = true

section OpensAt

variable {p q : Pattern} {Q R : Option Char → List Char → Prop}

theorem OpensAt.mono (h : p.OpensAt Q) (hQR : ∀ b r, Q b r → R b r) : p.OpensAt R := by
  intro b w a k hr
  exact hQR _ _ (h b w a k hr)

theorem opens_char {f : Char → Bool} : (char f).Opens f := by
  intro b w a k hr
  cases hr with
  | char hc => simpa using hc

theorem OpensAt.seq (h : p.OpensAt Q) : (seq p q).OpensAt Q := by
  intro b w a k hr
  cases hr with
  | seq hp _ =>
    have := h _ _ _ _ hp
    rwa [List.append_assoc]

theorem OpensAt.alt (hp : p.OpensAt Q) (hq : q.OpensAt Q) : (alt p q).OpensAt Q := by
  intro b w a k hr
  cases hr with
  | left h => exact hp _ _ _ _ h
  | right h => exact hq _ _ _ _ h

theorem OpensAt.group (h : p.OpensAt Q) (i : Nat) : (group i p).OpensAt Q := by
  intro b w a k hr
  cases hr with
  | group hp => exact h _ _ _ _ hp

/-- At a place of another kind no match ends. -/
theorem OpensAt.spots_eq_nil (h : p.OpensAt Q) {s : Spot} (hs : ¬ Q s.before s.rest) :
    p.spots s = [] := by
  apply Pattern.spots_eq_nil
  intro w a k hw hr
  have := h _ _ _ _ hr
  rw [← hw] at this
  exact hs this

/-- At a place of another kind no match starts. -/
theorem OpensAt.matchAt?_eq_none (h : p.OpensAt Q) {before : Option Char} {rest : List Char}
    (hs : ¬ Q before rest) : p.matchAt? before rest = none := by
  rw [matchAt?_eq_none_iff]
  intro w a k hrest hr
  rw [hrest] at hs
  exact absurd (h _ _ _ _ hr) hs

/-- A stretch without a place that a match can start at is quiet. -/
theorem OpensAt.quiet (h : p.OpensAt Q) {before : Option Char} {u a : List Char}
    (hu : Nowhere Q before u a) : p.Quiet before u a := by
  intro v c w huv
  exact not_not.mpr (h.matchAt?_eq_none (hu v c w huv))

/-- A stretch at the end of a text stays as it is where no place in it is of the kind. -/
theorem OpensAt.rewriteAfter (h : p.OpensAt Q) (change : Match → List Char)
    {before : Option Char} {text : List Char} (hno : Nowhere Q before text []) :
    p.rewriteAfter change before text = text := by
  have hquiet := rewriteAfter_quiet change (h.quiet hno)
  rwa [List.append_nil, rewriteAfter_nil, List.append_nil] at hquiet

end OpensAt

/-! ## Places that a reading cannot do without -/

/-- In every text that the pattern reads there is a place of the kind `Q`. -/
def NeedsAt (p : Pattern) (Q : Option Char → List Char → Prop) : Prop :=
  ∀ b w a k, p.Reads b w a k → ∃ u v, w = u ++ v ∧ v ≠ [] ∧ Q (behind b u) (v ++ a)

/-- Every text that the pattern reads has a character that passes the test. -/
abbrev Needs (p : Pattern) (f : Char → Bool) : Prop :=
  p.NeedsAt fun _ rest => rest.head?.any f = true

section NeedsAt

variable {p q : Pattern} {Q R : Option Char → List Char → Prop}

theorem NeedsAt.mono (h : p.NeedsAt Q) (hQR : ∀ b r, Q b r → R b r) : p.NeedsAt R := by
  intro b w a k hr
  obtain ⟨u, v, hw, hne, hQ⟩ := h b w a k hr
  exact ⟨u, v, hw, hne, hQR _ _ hQ⟩

/-- A pattern needs a character when each of its texts has one. -/
theorem needs_of_mem {f : Char → Bool}
    (h : ∀ b w a k, p.Reads b w a k → ∃ c ∈ w, f c = true) : p.Needs f := by
  intro b w a k hr
  obtain ⟨c, hc, hf⟩ := h b w a k hr
  obtain ⟨u, v, rfl⟩ := List.append_of_mem hc
  exact ⟨u, c :: v, rfl, List.cons_ne_nil c v, hf⟩

theorem needs_mono {f g : Char → Bool} (h : p.Needs f) (hfg : ∀ c, f c = true → g c = true) :
    p.Needs g := by
  apply NeedsAt.mono h
  intro _ rest hf
  cases hrest : rest.head? with
  | none => simp [hrest] at hf
  | some c => simpa using hfg c (by simpa [hrest] using hf)

theorem needs_char {f : Char → Bool} : (char f).Needs f := by
  intro b w a k hr
  cases hr with
  | @char _ _ c _ hc => exact ⟨[], [c], rfl, List.cons_ne_nil c [], by simpa using hc⟩

theorem NeedsAt.seq_left (h : p.NeedsAt Q) : (seq p q).NeedsAt Q := by
  intro b w a k hr
  cases hr with
  | @seq _ _ _ u v _ _ _ hp _ =>
    obtain ⟨x, y, rfl, hne, hQ⟩ := h _ _ _ _ hp
    refine ⟨x, y ++ v, List.append_assoc x y v, by simp [hne], ?_⟩
    rwa [List.append_assoc]

theorem NeedsAt.seq_right (h : q.NeedsAt Q) : (seq p q).NeedsAt Q := by
  intro b w a k hr
  cases hr with
  | @seq _ _ _ u v _ _ _ _ hq =>
    obtain ⟨x, y, rfl, hne, hQ⟩ := h _ _ _ _ hq
    exact ⟨u ++ x, y, (List.append_assoc u x y).symm, hne, by rwa [behind_append]⟩

theorem NeedsAt.alt (hp : p.NeedsAt Q) (hq : q.NeedsAt Q) : (alt p q).NeedsAt Q := by
  intro b w a k hr
  cases hr with
  | left h => exact hp _ _ _ _ h
  | right h => exact hq _ _ _ _ h

theorem NeedsAt.group (h : p.NeedsAt Q) (i : Nat) : (group i p).NeedsAt Q := by
  intro b w a k hr
  cases hr with
  | group hp => exact h _ _ _ _ hp

/-- Where there is no place that a reading cannot do without nothing is read. -/
theorem NeedsAt.not_reads (h : p.NeedsAt Q) {before : Option Char} {w a : List Char}
    {k : List (Nat × List Char)} (hno : Nowhere Q before (w ++ a) []) :
    ¬ p.Reads before w a k := by
  intro hread
  obtain ⟨x, y, rfl, hy, hQ⟩ := h _ _ _ _ hread
  obtain ⟨c, y, rfl⟩ := List.exists_cons_of_ne_nil hy
  have hplace := hno x c (y ++ a) (by simp)
  rw [List.append_nil] at hplace
  exact hplace hQ

/-- In a text without a place that a reading cannot do without no match starts. -/
theorem NeedsAt.matchAt?_eq_none (h : p.NeedsAt Q) {before : Option Char} {text : List Char}
    (hno : Nowhere Q before text []) : p.matchAt? before text = none := by
  rw [matchAt?_eq_none_iff]
  rintro w a k rfl hread
  exact absurd hread (h.not_reads hno)

/-- A text without a place that a reading cannot do without stays as it is. -/
theorem NeedsAt.rewriteAfter (h : p.NeedsAt Q) (change : Match → List Char)
    {before : Option Char} {text : List Char} (hno : Nowhere Q before text []) :
    p.rewriteAfter change before text = text := by
  apply rewriteAfter_eq_self
  rintro v w a k rfl - hread
  exact absurd hread (h.not_reads (by simpa using (nowhere_append.mp hno).2))

/-- A text without the characters that a pattern needs stays as it is. -/
theorem rewriteAfter_of_needs {f : Char → Bool} (h : p.Needs f) (change : Match → List Char)
    (before : Option Char) {text : List Char} (hf : ∀ c ∈ text, f c = false) :
    p.rewriteAfter change before text = text :=
  h.rewriteAfter change (nowhere_head hf)

/-- A rewriting by a pattern, if there is one, leaves a text as it is in which the pattern lacks a
place that it cannot do without. -/
theorem rewrite?_eq_self {p : Option Pattern} (h : ∀ q, p = some q → q.NeedsAt Q)
    (change : Match → List Char) {text : List Char} (hno : Nowhere Q none text []) :
    rewrite? p change text = text := by
  cases p with
  | none => rfl
  | some q => exact (h q rfl).rewriteAfter change hno

end NeedsAt

end CalcSpeech.Pattern
