import CalcSpeech.Proofs.Numeral
import CalcSpeech.Proofs.Pattern.Context

/-!
# Patterns that begin with digits

A pattern that begins with digits reads them all: what it goes on with stands behind the last of
them. So in front of anything else the digits are passed over (`nowhere_behindDigits`), and where
nothing is read from the first of some digits nothing is read from the others (`Extends.quiet`).
-/

namespace CalcSpeech

open Unicode Pattern

variable {R S : Option Char → List Char → Prop} {b : Option Char}

/-- A place of the kind `R` comes first here, but for blanks. -/
def PastBlanks (R : Option Char → List Char → Prop) (before : Option Char) (text : List Char) :
    Prop :=
  ∃ g y, text = g ++ y ∧ (∀ c ∈ g, isBlank c = true) ∧ y.head?.any isBlank = false ∧
    R (behind before g) y

/-- Digits stand here, and behind the last of them is a place of the kind `S`. -/
def BehindDigits (S : Option Char → List Char → Prop) (before : Option Char) (text : List Char) :
    Prop :=
  ∃ n t, text = n ++ t ∧ IsDigits n ∧ t.head?.any isDecimalDigit = false ∧ S (behind before n) t

/-- This character stands here. -/
def CharAt (m : Char) (_before : Option Char) (text : List Char) : Prop := text.head? = some m

theorem pastBlanks_iff {g y : List Char} (hg : ∀ c ∈ g, isBlank c = true)
    (hy : y.head?.any isBlank = false) : PastBlanks R b (g ++ y) ↔ R (behind b g) y := by
  constructor
  · intro h
    obtain ⟨g', y', htext, hg', hy', hR⟩ := h
    obtain ⟨rfl, rfl⟩ := eq_of_spans hg hg' hy hy' htext
    exact hR
  · intro hR
    exact ⟨g, y, rfl, hg, hy, hR⟩

theorem BehindDigits.head {text : List Char} (h : BehindDigits S b text) :
    text.head?.any isDecimalDigit = true := by
  obtain ⟨n, t, rfl, hn, -⟩ := h
  obtain ⟨d, n, rfl⟩ := List.exists_cons_of_ne_nil hn.1
  exact hn.2 d (by simp)

/-- Digits with something else behind them, and characters that are no digits, are passed over. -/
theorem nowhere_behindDigits {ds u a : List Char} (hds : ∀ c ∈ ds, isDecimalDigit c = true)
    (hu : ∀ c ∈ u, isDecimalDigit c = false) (hend : (u ++ a).head?.any isDecimalDigit = false)
    (hS : ¬ S (behind b ds) (u ++ a)) : Nowhere (BehindDigits S) b (ds ++ u) a := by
  rw [nowhere_append]
  constructor
  · intro v c w hv h
    obtain ⟨n, t, htext, hn, ht, hSt⟩ := h
    have hw : ∀ d ∈ c :: w, isDecimalDigit d = true :=
      fun d hd => hds d (by rw [hv]; exact List.mem_append_right v hd)
    have htext : (c :: w) ++ (u ++ a) = n ++ t := htext
    obtain ⟨rfl, rfl⟩ := eq_of_spans hw hn.2 hend ht htext
    rw [← behind_append, ← hv] at hSt
    exact hS hSt
  · exact (nowhere_head hu).mono fun _ _ h => h.head

theorem CharAt.any {m : Char} {text : List Char} (h : CharAt m b text) {f : Char → Bool}
    (hf : f m = false) : text.head?.any f = false := by
  rw [h]
  exact hf

/-- A kind of place that blanks may stand in front of does not begin with a digit if it does not
itself. -/
theorem PastBlanks.digit {text : List Char} (h : PastBlanks R b text)
    (hR : ∀ b y, R b y → y.head?.any isDecimalDigit = false) :
    text.head?.any isDecimalDigit = false := by
  obtain ⟨g, y, rfl, hg, -, hy⟩ := h
  cases g with
  | nil => exact hR _ _ hy
  | cons c g => exact isDecimalDigit_of_isBlank (hg c List.mem_cons_self)

namespace Pattern

variable {p q : Pattern}

theorem opensAt_just {m : Char} : (just m).OpensAt (CharAt m) := by
  intro b w a k h
  rw [(reads_just.mp h).1]
  rfl

theorem opensAt_loose (hq : q.OpensAt R) (hR : ∀ b y, R b y → y.head?.any isBlank = false) :
    (seq loose q).OpensAt (PastBlanks R) := by
  intro b w a k hr
  cases hr with
  | @seq _ _ _ g y _ _ _ hg hy =>
    have hplace := hq _ _ _ _ hy
    exact ⟨g, y ++ a, by rw [List.append_assoc], (reads_many_char.mp hg).1, hR _ _ hplace, hplace⟩

/-- A word boundary reads nothing. -/
theorem opensAt_boundary {ps : List Pattern} (h : (inOrder (p :: ps)).OpensAt R) :
    (inOrder (boundary :: p :: ps)).OpensAt R := by
  intro b w a k hread
  obtain ⟨u, v, _, _, rfl, -, hedge, hrow⟩ := reads_inOrder_cons.mp hread
  cases hedge with
  | boundary => exact h _ _ _ _ hrow

/-- A pattern that reads digits, and what it goes on with. -/
theorem opensAt_digits (hp : ∀ b w a k, p.Reads b w a k → IsDigits w) (hq : q.OpensAt S)
    (hS : ∀ b y, S b y → y.head?.any isDecimalDigit = false) :
    (seq p q).OpensAt (BehindDigits S) := by
  intro b w a k hr
  cases hr with
  | @seq _ _ _ n t _ _ _ hn ht =>
    have hplace := hq _ _ _ _ ht
    exact ⟨n, t ++ a, by rw [List.append_assoc], hp _ _ _ _ hn, hS _ _ hplace, hplace⟩

theorem digits_group (h : ∀ b w a k, p.Reads b w a k → IsDigits w) (i : Nat) (b : Option Char)
    (w a : List Char) (k : List (Nat × List Char)) (hr : (group i p).Reads b w a k) :
    IsDigits w := by
  cases hr with
  | group hr => exact h _ _ _ _ hr

theorem digits_digits (b : Option Char) (w a : List Char) (k : List (Nat × List Char))
    (hr : (atLeastOne digit).Reads b w a k) : IsDigits w := (reads_digits.mp hr).1

/-! ## Digits in front of a reading -/

/-- A reading goes on to the left through the characters of a kind, whatever stands before. -/
def Extends (p : Pattern) (f : Char → Bool) : Prop :=
  ∀ b b' c w a k, f c = true → p.Reads b w a k → w ≠ [] ∧ ∃ k', p.Reads b' (c :: w) a k'

variable {f : Char → Bool}

theorem extends_atLeastOne : (atLeastOne (char f)).Extends f := by
  intro b b' c w a k hc hr
  obtain ⟨hne, hw, -⟩ := reads_atLeastOne_char.mp hr
  exact ⟨hne, [], reads_atLeastOne_char.mpr ⟨List.cons_ne_nil c w,
    List.forall_mem_cons.mpr ⟨hc, hw⟩, rfl⟩⟩

theorem Extends.seq (h : p.Extends f) : (seq p q).Extends f := by
  intro b b' c w a k hc hr
  cases hr with
  | @seq _ _ _ u v _ _ kv hu hv =>
    obtain ⟨hne, k', hread⟩ := h b b' c u (v ++ a) _ hc hu
    refine ⟨by simp [hne], kv ++ k', ?_⟩
    have hbehind : behind b u = behind b' (c :: u) := behind_congr hne b (some c)
    rw [hbehind] at hv
    exact .seq hread hv

theorem Extends.group (h : p.Extends f) (i : Nat) : (group i p).Extends f := by
  intro b b' c w a k hc hr
  cases hr with
  | group hw =>
    obtain ⟨hne, k', hread⟩ := h b b' c w a _ hc hw
    exact ⟨hne, _, .group hread⟩

/-- Where no match starts at the first of some characters, none starts at the others. -/
theorem Extends.quiet (h : p.Extends f) {u a : List Char} (hu : ∀ c ∈ u, f c = true)
    (hnone : p.matchAt? b (u ++ a) = none) : p.Quiet b u a := by
  induction u generalizing b with
  | nil => exact quiet_nil p b a
  | cons c u ih =>
    refine quiet_cons.mpr ⟨hnone, ih (fun d hd => hu d (List.mem_cons_of_mem c hd)) ?_⟩
    rw [matchAt?_eq_none_iff] at hnone ⊢
    intro w a' k htext hread
    obtain ⟨-, k', hlonger⟩ := h _ b c w a' k (hu c (by simp)) hread
    have hnil := hnone (c :: w) a' k' (by rw [List.cons_append, htext]; rfl) hlonger
    exact absurd hnil (List.cons_ne_nil c w)

end Pattern

end CalcSpeech
