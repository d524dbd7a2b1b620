import CalcSpeech.Proofs.Language.Filler
import CalcSpeech.Proofs.Operator.Signs
import CalcSpeech.Proofs.Percent.Forms
import CalcSpeech.Proofs.Point.Fractions

/-!
# What stands behind a number

A quantity with a percentage has the word for its operation behind one number and the percent sign
or word behind the other, with nothing but blanks between. In a row of numerals and words both are
looked for in two places only, right behind each numeral (`nowhere_numberThen`).
-/

namespace CalcSpeech

open Unicode Pattern Vocabulary Text PercentPhrase

/-- A number ends here, and a place of the kind `R` comes first behind it, but for blanks. -/
def NumberThen (R : Option Char → List Char → Prop) (before : Option Char) (text : List Char) :
    Prop :=
  before.any isDecimalDigit = true ∧ PastBlanks R before text

/-- One of these phrases is read here, and a number comes first behind it, but for blanks. -/
def OperatesAt (phrases : List String) (before : Option Char) (text : List Char) : Prop :=
  ∃ w a, text = w ++ a ∧ Finds phrases before w a ∧
    PastBlanks (fun _ rest => rest.head?.any isDecimalDigit = true) (behind before w) a

theorem OperatesAt.begins {phrases : List String} (hproper : ∀ p ∈ phrases, IsProper p.toList)
    {b : Option Char} {text : List Char} (h : OperatesAt phrases b text) :
    Begins phrases b text := by
  obtain ⟨w, a, rfl, hfinds, -⟩ := h
  exact (begins_of_finds hproper hfinds).1

/-! ## What a phrase needs -/

/-- An operand with blanks behind it ends a number, behind which the rest of the phrase comes. -/
theorem needsAt_numberThen {i : Nat} {q : Pattern} {Q R : Option Char → List Char → Prop}
    (hq : q.OpensAt R) (hR : ∀ b y, R b y → y.head?.any isBlank = false) (hne : q.NeedsAt Q) :
    (seq (group i operand) (seq loose q)).NeedsAt (NumberThen R) := by
  intro b w a k hread
  cases hread with
  | @seq _ _ _ x v _ _ _ hx hv =>
    refine ⟨x, v, rfl, ?_, digit_behind_operand ((reads_group rfl).mp hx).1,
      opensAt_loose hq hR _ _ _ _ hv⟩
    rintro rfl
    obtain ⟨u, v, huv, hv, -⟩ := hne.seq_right _ _ _ _ hv
    exact hv (List.append_eq_nil_iff.mp huv.symm).2

section SignPhrase

variable {phrases : List String} (hproper : ∀ p ∈ phrases, IsProper p.toList)

include hproper

/-- The operation stands between two numbers. -/
theorem needsAt_operates (percent : Pattern) :
    (signPhrase percent (pattern phrases)).NeedsAt (NumberThen (OperatesAt phrases)) := by
  have hnumber : (seq (group 2 operand) (seq loose percent)).Opens isDecimalDigit :=
    (opens_atLeastOne_char.seq.group 2).seq
  have hdigit (b : Option Char) (y : List Char) (hy : y.head?.any isDecimalDigit = true) :
      y.head?.any isBlank = false := head_eq_false hy fun _ => isBlank_of_isDecimalDigit
  have hopens : (seq (pattern phrases) (seq loose (seq (group 2 operand)
      (seq loose percent)))).OpensAt (OperatesAt phrases) := by
    intro b w a k hread
    cases hread with
    | @seq _ _ _ o v _ _ _ ho hv =>
      exact ⟨o, v ++ a, by rw [List.append_assoc], (reads_pattern.mp ho).2,
        opensAt_loose hnumber hdigit _ _ _ _ hv⟩
  exact needsAt_numberThen hopens (fun _ _ h => (h.begins hproper).solid)
    (needsAt_found phrases).seq_left

/-- The percent sign or word stands behind a number. -/
theorem needsAt_marked (operation : Pattern) :
    (signPhrase (pattern phrases) operation).NeedsAt (NumberThen (Begins phrases)) := by
  have hrate : (seq (group 2 operand) (seq loose (pattern phrases))).NeedsAt
      (NumberThen (Begins phrases)) :=
    needsAt_numberThen (opensAt_pattern hproper) (fun _ _ h => h.solid) (needsAt_found phrases)
  exact hrate.seq_right.seq_right.seq_right.seq_right

end SignPhrase

/-! ## The two places of a row -/

/-- Inside a word no number ends. -/
theorem behind_in_word {t v : List Char} (ht : IsWord t) (hv : ∀ c ∈ v, c ∈ t) {b : Option Char}
    (hb : b.any isDecimalDigit = false) : (behind b v).any isDecimalDigit = false :=
  any_behind hb fun c hc => isDecimalDigit_of_isLetter (ht.2 c (hv c hc))

section Tokens

variable {R : Option Char → List Char → Prop} (hR : ∀ b r, R b r → r.head?.any canBegin = true)

include hR

/-- In a numeral no phrase begins, and in a word no number ends. -/
theorem nowhere_numberThen_token {t : List Char} (ht : IsNumeral t ∨ IsWord t) {b : Option Char}
    (hb : b.any isDecimalDigit = false) (a : List Char) : Nowhere (NumberThen R) b t a := by
  rintro v c w rfl ⟨hdigit, g, y, htext, hg, hy, hplace⟩
  rcases ht with hn | hw
  · have hc : isBlank c = false ∧ canBegin c = false := by
      rcases hn.mem (c := c) (by simp) with hdigit | rfl
      · exact ⟨isBlank_of_isDecimalDigit hdigit, canBegin_of_isDecimalDigit hdigit⟩
      · decide
    cases g with
    | nil =>
      have hbegin := hR _ _ hplace
      rw [← List.nil_append y, ← htext] at hbegin
      exact Bool.false_ne_true (hc.2.symm.trans hbegin)
    | cons d g =>
      obtain rfl : c = d := (List.cons.inj htext).1
      exact Bool.false_ne_true (hc.1.symm.trans (hg c List.mem_cons_self))
  · rw [behind_in_word hw (fun d hd => List.mem_append_left _ hd) hb] at hdigit
    exact Bool.false_ne_true hdigit

/-- In a row of numerals and words the places behind numbers are those behind the numerals. -/
theorem nowhere_numberThen {tokens : List (List Char)}
    (htokens : ∀ t ∈ tokens, IsNumeral t ∨ IsWord t)
    (hbehind : ∀ n ts, IsNumeral n → n :: ts <:+ tokens → ¬ R (some ' ') (join [' '] ts))
    {b : Option Char} (hb : b.any isDecimalDigit = false) :
    Nowhere (NumberThen R) b (join [' '] tokens) [] := by
  induction tokens generalizing b with
  | nil => exact nowhere_nil _ _ _
  | cons t tokens ih =>
    obtain ⟨ht, hrest⟩ := List.forall_mem_cons.mp htokens
    have htoken := nowhere_numberThen_token hR ht hb
    cases tokens with
    | nil => exact htoken []
    | cons u tokens =>
      rw [join_cons_cons, nowhere_append, nowhere_cons]
      refine ⟨htoken _, ?_, ih hrest (fun n ts hn hts => hbehind n ts hn ?_) (by decide)⟩
      · rintro ⟨hdigit, hplace⟩
        rcases ht with hn | hw
        · have hsolid : (join [' '] (u :: tokens)).head?.any isBlank = false := by
            rw [join_cons]
            rcases hrest u List.mem_cons_self with hn | hw
            · exact hn.head_solid
            · obtain ⟨c, u, rfl⟩ := List.exists_cons_of_ne_nil hw.1
              exact isBlank_of_isLetter (hw.2 c List.mem_cons_self)
          have hspace : ∀ c ∈ [' '], isBlank c = true := by decide
          rw [List.append_nil] at hplace
          exact hbehind t (u :: tokens) hn List.suffix_rfl
            ((pastBlanks_iff hspace hsolid).mp hplace)
        · rw [behind_in_word hw (fun d hd => hd) hb] at hdigit
          exact Bool.false_ne_true hdigit
      · exact hts.trans (List.suffix_cons _ _)

end Tokens

/-- Behind a token that is not among the first ones of a row comes what comes behind it later. -/
theorem suffix_of_not_mem {t : List Char} {front back ts : List (List Char)} (hne : t ∉ front)
    (h : t :: ts <:+ front ++ back) : t :: ts <:+ back := by
  induction front with
  | nil => exact h
  | cons u front ih =>
    rcases List.suffix_cons_iff.mp h with heq | h
    · obtain rfl := (List.cons.inj heq).1
      exact absurd List.mem_cons_self hne
    · exact ih (fun hmem => hne (List.mem_cons_of_mem u hmem)) h

/-- Where a word stands that no phrase has as its first no phrase begins. -/
theorem not_begins_join {phrases : List String} {t : List Char} {ts : List (List Char)}
    (ht : IsWord t) (hne : ∀ q ∈ phrases, IsSpoken q.toList → firstWord q.toList ≠ t) :
    ¬ Begins phrases (some ' ') (join [' '] (t :: ts)) := by
  rw [join_cons]
  exact not_begins_word ht behind_space (isTail_backText.head (by decide)) hne

/-- A phrase with a word behind it does not stand between two numbers. -/
theorem not_operates_word {phrases : List String} (hproper : ∀ p ∈ phrases, IsProper p.toList)
    (hdistinct : AreDistinct phrases) {p : String} (hp : p ∈ phrases) {t : List Char}
    {ts : List (List Char)} (ht : IsWord t) :
    ¬ OperatesAt phrases (some ' ') (p.toList ++ ' ' :: join [' '] (t :: ts)) := by
  rintro ⟨w, a, hw, hfinds, hnumber⟩
  obtain rfl := eq_of_finds hproper hdistinct hp
    (fits_self (hproper p hp) behind_space head_space) hw hfinds
  obtain rfl := List.append_cancel_left hw
  have hletter : (join [' '] (t :: ts)).head?.any isLetter = true := by
    rw [join_cons]
    obtain ⟨c, t, rfl⟩ := List.exists_cons_of_ne_nil ht.1
    exact ht.2 c List.mem_cons_self
  have hspace : ∀ c ∈ [' '], isBlank c = true := by decide
  have hdigit := (pastBlanks_iff hspace (head_eq_false hletter fun _ => isBlank_of_isLetter)).mp
    hnumber
  rw [head_eq_false hletter fun _ => isDecimalDigit_of_isLetter] at hdigit
  exact Bool.false_ne_true hdigit

end CalcSpeech
