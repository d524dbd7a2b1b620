import CalcSpeech.Proofs.Unicode.Spans
import CalcSpeech.Unicode.Blank
import CalcSpeech.Unicode.Letter
import CalcSpeech.Unicode.WordCharacter

/-!
# How the character classes lie to each other

Digits, letters, marks and blanks have no character in common, and every letter holds a word
together. Each of these facts is about whole tables, so it is put in terms of spans and settled by
one sweep.
-/

namespace CalcSpeech.Unicode

section Lists

variable {P : Char → Prop} [DecidablePred P]

/-- What holds of the characters of a list is decided along the list, not over all characters. -/
instance (priority := 2000) decidableForallMem (cs : List Char) : Decidable (∀ c ∈ cs, P c) :=
  List.decidableBAll P cs

instance (priority := 2000) decidableExistsMem (cs : List Char) : Decidable (∃ c ∈ cs, P c) :=
  List.decidableBEx P cs

end Lists

/-- What holds of the first characters by their code points holds of every such character. -/
theorem forall_char_lt {limit : Nat} (P : Char → Prop) (h : ∀ n < limit, P (Char.ofNat n))
    {c : Char} (hc : c.toNat < limit) : P c := by
  have hchar := h c.toNat hc
  rwa [Char.ofNat_toNat] at hchar

/-- Where there is no character of a code point, the null character stands for it. -/
theorem toNat_ofNat_cases (n : Nat) : (Char.ofNat n).toNat = n ∨ (Char.ofNat n).toNat = 0 := by
  by_cases hvalid : n.isValidChar
  · rw [Char.ofNat, dif_pos hvalid]
    exact Or.inl rfl
  · rw [Char.ofNat, dif_neg hvalid]
    exact Or.inr rfl

theorem points_sound : letterPoints.Sound ∧ markPoints.Sound ∧ alphabeticPoints.Sound ∧
    decimalDigitPoints.Sound ∧ recentPoints.Sound := by decide +kernel

theorem letterPoints_sound : letterPoints.Sound := points_sound.1

theorem markPoints_sound : markPoints.Sound := points_sound.2.1

theorem alphabeticPoints_sound : alphabeticPoints.Sound := points_sound.2.2.1

theorem decimalDigitPoints_sound : decimalDigitPoints.Sound := points_sound.2.2.2.1

theorem recentPoints_sound : recentPoints.Sound := points_sound.2.2.2.2

/-- The spans of the blanks. -/
def blankSpans : List Span := [
  (9, 14), (0x20, 0x21), (0x85, 0x86), (0xA0, 0xA1), (0x1680, 0x1681), (0x2000, 0x200B),
  (0x2028, 0x202A), (0x202F, 0x2030), (0x205F, 0x2060), (0x3000, 0x3001)]

/-- The spans of the letters. -/
def letterSpans : List Span := (0x41, 0x5B) :: (0x61, 0x7B) :: letterPoints.spans

/-- The spans of the alphabetic characters. -/
def alphabeticSpans : List Span := (0x41, 0x5B) :: (0x61, 0x7B) :: alphabeticPoints.spans

/-- The spans of the decimal digits. -/
def digitSpans : List Span := (0x30, 0x3A) :: decimalDigitPoints.spans

theorem isBlank_iff {c : Char} : isBlank c = true ↔ Inside blankSpans c.toNat := by
  have hspace : c = ' ' ↔ c.toNat = 0x20 := by
    constructor
    · rintro rfl
      rfl
    · intro h
      exact Char.toNat_inj.mp h
  simp only [isBlank, isWideBlank, Inside, blankSpans, Span.Holds, List.mem_cons,
    List.not_mem_nil, or_false, exists_eq_or_imp, exists_eq_left, Bool.or_eq_true, beq_iff_eq,
    Bool.and_eq_true, decide_eq_true_eq, hspace]
  omega

/-- An ASCII letter lies in one of the two rows of the alphabet. -/
theorem inside_of_isAlpha {c : Char} (h : c.isAlpha = true) (spans : List Span) :
    Inside ((0x41, 0x5B) :: (0x61, 0x7B) :: spans) c.toNat := by
  change (decide ('A'.val ≤ c.val ∧ c.val ≤ 'Z'.val) ||
    (decide ('a'.val ≤ c.val) && decide (c.val ≤ 'z'.val))) = true at h
  simp only [Bool.or_eq_true, Bool.and_eq_true, decide_eq_true_eq,
    UInt32.le_iff_toNat_le] at h
  rcases h with ⟨hlow, hhigh⟩ | ⟨hlow, hhigh⟩
  · exact ⟨(0x41, 0x5B), by simp, hlow, Nat.lt_succ_of_le hhigh⟩
  · exact ⟨(0x61, 0x7B), by simp, hlow, Nat.lt_succ_of_le hhigh⟩

theorem inside_of_isLetter {c : Char} (h : isLetter c = true) : Inside letterSpans c.toNat := by
  unfold isLetter at h
  split at h
  · exact inside_of_isAlpha h _
  · rw [Bool.and_eq_true] at h
    obtain ⟨span, hspan, hc⟩ := (SwitchPoints.contains_iff letterPoints_sound c).mp h.1
    exact ⟨span, by simp [letterSpans, hspan], hc⟩

theorem inside_of_isAlphabetic {c : Char} (h : isAlphabetic c = true) :
    Inside alphabeticSpans c.toNat := by
  unfold isAlphabetic at h
  split at h
  · exact inside_of_isAlpha h _
  · obtain ⟨span, hspan, hc⟩ := (SwitchPoints.contains_iff alphabeticPoints_sound c).mp h
    exact ⟨span, by simp [alphabeticSpans, hspan], hc⟩

theorem inside_of_isMark {c : Char} (h : isMark c = true) : Inside markPoints.spans c.toNat := by
  unfold isMark at h
  split at h
  · cases h
  · rw [Bool.and_eq_true] at h
    exact (SwitchPoints.contains_iff markPoints_sound c).mp h.1

theorem inside_of_isDecimalDigit {c : Char} (h : isDecimalDigit c = true) :
    Inside digitSpans c.toNat := by
  unfold isDecimalDigit at h
  split at h
  · simp only [Char.isDigit, Bool.and_eq_true, decide_eq_true_eq, ge_iff_le,
      UInt32.le_iff_toNat_le] at h
    exact ⟨(0x30, 0x3A), by simp [digitSpans], h.1, Nat.lt_succ_of_le h.2⟩
  · rw [Bool.and_eq_true] at h
    obtain ⟨span, hspan, hc⟩ := (SwitchPoints.contains_iff decimalDigitPoints_sound c).mp h.1
    exact ⟨span, by simp [digitSpans, hspan], hc⟩

/-- The spans of the characters that join words without being letters, marks or digits. -/
def joinSpans : List Span := [
  (0x5F, 0x60), (0x200C, 0x200E), (0x203F, 0x2041), (0x2054, 0x2055), (0xFE33, 0xFE35),
  (0xFE4D, 0xFE50), (0xFF3F, 0xFF40)]

/-- What holds a word together is alphabetic, a mark, a digit or a joining character. -/
theorem of_isWordCharacter {c : Char} (h : isWordCharacter c = true) :
    isAlphabetic c = true ∨ isMark c = true ∨ isDecimalDigit c = true ∨
      Inside joinSpans c.toNat := by
  unfold isWordCharacter at h
  split at h
  · rename_i hascii
    rw [Bool.or_eq_true, Char.isAlphanum, Bool.or_eq_true, beq_iff_eq] at h
    rcases h with (ha | hd) | rfl
    · exact Or.inl (by rw [isAlphabetic, if_pos hascii, ha])
    · exact Or.inr (Or.inr (Or.inl (by rw [isDecimalDigit, if_pos hascii, hd])))
    · exact Or.inr (Or.inr (Or.inr (insideTest_iff.mp rfl)))
  · simp only [Bool.or_eq_true, Bool.and_eq_true] at h
    rcases h with ((⟨ha, -⟩ | hm) | hd) | hj
    · exact Or.inl ha
    · exact Or.inr (Or.inl hm)
    · exact Or.inr (Or.inr (Or.inl hd))
    · refine Or.inr (Or.inr (Or.inr ?_))
      simp only [joinsWords, Bool.or_eq_true, beq_iff_eq, Bool.and_eq_true,
        decide_eq_true_eq] at hj
      simp only [Inside, joinSpans, Span.Holds, List.mem_cons, List.not_mem_nil, or_false,
        exists_eq_or_imp, exists_eq_left]
      omega

/-! ## Classes that are apart -/

theorem spans_ascending : Ascending blankSpans ∧ Ascending letterSpans ∧
    Ascending alphabeticSpans ∧ Ascending digitSpans ∧ Ascending markPoints.spans ∧
    Ascending joinSpans := by decide +kernel

/-- What the sweeps over two classes each find. -/
structure Sweeps : Prop where
  digit_letter : apart 2000 digitSpans letterSpans = true
  digit_mark : apart 2000 digitSpans markPoints.spans = true
  digit_blank : apart 2000 digitSpans blankSpans = true
  blank_alphabetic : apart 2000 blankSpans alphabeticSpans = true
  blank_letter : apart 2000 blankSpans letterSpans = true
  blank_mark : apart 2000 blankSpans markPoints.spans = true
  blank_join : apart 2000 blankSpans joinSpans = true
  letter_alphabetic : within 2000 letterPoints.spans alphabeticPoints.spans = true

theorem sweeps : Sweeps := by
  constructor <;> decide +kernel

theorem ascending_blankSpans : Ascending blankSpans := spans_ascending.1

theorem ascending_letterSpans : Ascending letterSpans := spans_ascending.2.1

theorem ascending_alphabeticSpans : Ascending alphabeticSpans := spans_ascending.2.2.1

theorem ascending_digitSpans : Ascending digitSpans := spans_ascending.2.2.2.1

theorem ascending_markSpans : Ascending markPoints.spans := spans_ascending.2.2.2.2.1

theorem ascending_joinSpans : Ascending joinSpans := spans_ascending.2.2.2.2.2

/-- Two classes whose spans are apart have no character in common. -/
theorem eq_false_of_apart {f g : Char → Bool} {ss ts : List Span}
    (hf : ∀ c, f c = true → Inside ss c.toNat) (hg : ∀ c, g c = true → Inside ts c.toNat)
    (hs : Ascending ss) (ht : Ascending ts) (h : apart 2000 ss ts = true) {c : Char}
    (hc : f c = true) : g c = false := by
  rw [Bool.eq_false_iff]
  intro hgc
  exact not_inside_of_apart hs ht h (hf c hc) (hg c hgc)

/-- A digit is no letter. -/
theorem isLetter_of_isDecimalDigit {c : Char} (h : isDecimalDigit c = true) :
    isLetter c = false :=
  eq_false_of_apart (fun _ => inside_of_isDecimalDigit) (fun _ => inside_of_isLetter)
    ascending_digitSpans ascending_letterSpans (sweeps).digit_letter h

theorem isDecimalDigit_of_isLetter {c : Char} (h : isLetter c = true) :
    isDecimalDigit c = false := by
  rw [Bool.eq_false_iff]
  intro hdigit
  rw [isLetter_of_isDecimalDigit hdigit] at h
  exact Bool.false_ne_true h

/-- A digit is no mark. -/
theorem isMark_of_isDecimalDigit {c : Char} (h : isDecimalDigit c = true) : isMark c = false :=
  eq_false_of_apart (fun _ => inside_of_isDecimalDigit) (fun _ => inside_of_isMark)
    ascending_digitSpans ascending_markSpans (sweeps).digit_mark h

/-- A digit is no blank. -/
theorem isBlank_of_isDecimalDigit {c : Char} (h : isDecimalDigit c = true) : isBlank c = false :=
  eq_false_of_apart (fun _ => inside_of_isDecimalDigit) (fun _ => isBlank_iff.mp)
    ascending_digitSpans ascending_blankSpans (sweeps).digit_blank h

/-- A blank is not alphabetic. -/
theorem isAlphabetic_of_isBlank {c : Char} (h : isBlank c = true) : isAlphabetic c = false :=
  eq_false_of_apart (fun _ => isBlank_iff.mp) (fun _ => inside_of_isAlphabetic)
    ascending_blankSpans ascending_alphabeticSpans (sweeps).blank_alphabetic h

/-- A blank is no letter. -/
theorem isLetter_of_isBlank {c : Char} (h : isBlank c = true) : isLetter c = false :=
  eq_false_of_apart (fun _ => isBlank_iff.mp) (fun _ => inside_of_isLetter)
    ascending_blankSpans ascending_letterSpans (sweeps).blank_letter h

theorem isBlank_of_isLetter {c : Char} (h : isLetter c = true) : isBlank c = false := by
  rw [Bool.eq_false_iff]
  intro hblank
  rw [isLetter_of_isBlank hblank] at h
  exact Bool.false_ne_true h

/-- A blank is no mark. -/
theorem isMark_of_isBlank {c : Char} (h : isBlank c = true) : isMark c = false :=
  eq_false_of_apart (fun _ => isBlank_iff.mp) (fun _ => inside_of_isMark)
    ascending_blankSpans ascending_markSpans (sweeps).blank_mark h

/-- A blank is no digit. -/
theorem isDecimalDigit_of_isBlank {c : Char} (h : isBlank c = true) : isDecimalDigit c = false := by
  rw [Bool.eq_false_iff]
  intro hd
  rw [isBlank_of_isDecimalDigit hd] at h
  exact Bool.false_ne_true h

/-- A recent character is no letter and no mark; what lies in their spans otherwise is. -/
theorem isLetter_of_inside {c : Char} (hascii : 0x80 ≤ c.toNat)
    (h : Inside letterPoints.spans c.toNat) (hr : isRecent c = false) : isLetter c = true := by
  unfold isLetter
  rw [if_neg (Nat.not_lt.mpr hascii), (SwitchPoints.contains_iff letterPoints_sound c).mpr h, hr,
    Bool.not_false, Bool.true_and]

theorem isMark_of_inside {c : Char} (hascii : 0x80 ≤ c.toNat)
    (h : Inside markPoints.spans c.toNat) (hr : isRecent c = false) : isMark c = true := by
  unfold isMark
  rw [if_neg (Nat.not_lt.mpr hascii), (SwitchPoints.contains_iff markPoints_sound c).mpr h, hr,
    Bool.not_false, Bool.true_and]

theorem isRecent_of_not_inside {c : Char} (h : ¬ Inside recentPoints.spans c.toNat) :
    isRecent c = false := by
  unfold isRecent
  split
  · rfl
  · rw [Bool.eq_false_iff]
    intro hr
    exact h ((SwitchPoints.contains_iff recentPoints_sound c).mp hr)

/-- A letter is alphabetic. -/
theorem isAlphabetic_of_isLetter {c : Char} (h : isLetter c = true) : isAlphabetic c = true := by
  unfold isLetter at h
  unfold isAlphabetic
  split at h
  · rename_i hascii
    rw [if_pos hascii, h]
  · rename_i hascii
    rw [Bool.and_eq_true] at h
    have hinside := (SwitchPoints.contains_iff letterPoints_sound c).mp h.1
    rw [if_neg hascii, SwitchPoints.contains_iff alphabeticPoints_sound c]
    exact inside_of_within (sweeps).letter_alphabetic hinside

/-- A letter holds a word together. -/
theorem isWordCharacter_of_isLetter {c : Char} (h : isLetter c = true) :
    isWordCharacter c = true := by
  have halphabetic := isAlphabetic_of_isLetter h
  unfold isWordCharacter
  unfold isLetter at h
  split at h
  · rename_i hascii
    rw [if_pos hascii, Char.isAlphanum, h, Bool.true_or, Bool.true_or]
  · rename_i hascii
    rw [Bool.and_eq_true] at h
    rw [if_neg hascii, halphabetic, h.2, Bool.and_true, Bool.true_or, Bool.true_or, Bool.true_or]

/-- A letter counts as alphanumeric where words are told apart. -/
theorem isAlphanumeric_of_isLetter {c : Char} (h : isLetter c = true) :
    isAlphanumeric c = true := by
  rw [isAlphanumeric, isAlphabetic_of_isLetter h, Bool.true_or]

/-- A blank holds no word together. -/
theorem isWordCharacter_of_isBlank {c : Char} (h : isBlank c = true) :
    isWordCharacter c = false := by
  rw [Bool.eq_false_iff]
  intro hw
  rcases of_isWordCharacter hw with ha | hm | hd | hj
  · rw [isAlphabetic_of_isBlank h] at ha
    exact Bool.false_ne_true ha
  · rw [isMark_of_isBlank h] at hm
    exact Bool.false_ne_true hm
  · rw [isDecimalDigit_of_isBlank h] at hd
    exact Bool.false_ne_true hd
  · exact not_inside_of_apart ascending_blankSpans ascending_joinSpans (sweeps).blank_join
      (isBlank_iff.mp h) hj

/-- A digit holds a word together. -/
theorem isWordCharacter_of_isDecimalDigit {c : Char} (h : isDecimalDigit c = true) :
    isWordCharacter c = true := by
  unfold isWordCharacter
  split
  · rename_i hascii
    rw [isDecimalDigit, if_pos hascii] at h
    rw [Char.isAlphanum, h, Bool.or_true, Bool.true_or]
  · rw [h, Bool.or_true, Bool.true_or]

end CalcSpeech.Unicode
