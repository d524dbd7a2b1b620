import CalcSpeech.Proofs.NumberName.Fold
import CalcSpeech.Proofs.Transcript

/-!
# How names of numbers are said

Between two parts of the name of a number stands a space, `and`, or, between tens and units, a
hyphen. Once a transcript is prepared its letters are small and its hyphens are spaces, so that a
name is a row of parts with a space or `and` between them (`Says.exists_row`).
-/

namespace CalcSpeech

open Unicode Text Transcript

/-- The English names of the numbers from one to nineteen. -/
def smallNames : List String :=
  ["one", "two", "three", "four", "five", "six", "seven", "eight", "nine", "ten", "eleven",
    "twelve", "thirteen", "fourteen", "fifteen", "sixteen", "seventeen", "eighteen", "nineteen"]

/-- The English names of the tens from twenty to ninety. -/
def tensNames : List String :=
  ["twenty", "thirty", "forty", "fifty", "sixty", "seventy", "eighty", "ninety"]

namespace NamePart

/-- The English word for a part. -/
def name : NamePart → String
  | small n => smallNames.getD (n - 1) ""
  | tens n => tensNames.getD (n - 2) ""
  | hundred => "hundred"
  | thousand => "thousand"

/-- The English word for a part, in characters. -/
def spelling (p : NamePart) : List Char := p.name.toList

/-- The parts that have a word. -/
def all : List NamePart :=
  (List.range' 1 19).map small ++ (List.range' 2 8).map tens ++ [hundred, thousand]

theorem mem_all_small {n : Nat} (hpos : 1 ≤ n) (hlt : n < 20) : small n ∈ all := by
  simp only [all, List.mem_append, List.mem_map, List.mem_range'_1]
  exact Or.inl (Or.inl ⟨n, by omega, rfl⟩)

theorem mem_all_tens {n : Nat} (hpos : 2 ≤ n) (hlt : n < 10) : tens n ∈ all := by
  simp only [all, List.mem_append, List.mem_map, List.mem_range'_1]
  exact Or.inl (Or.inr ⟨n, by omega, rfl⟩)

/-- The words are short, and their letters are small. -/
theorem spelling_letters : ∀ p ∈ all, p.spelling ≠ [] ∧ p.spelling.length ≤ 9 ∧
    ∀ c ∈ p.spelling, isSmallLatin c = true := by decide +kernel

theorem spelling_ascii : ∀ p ∈ all, ∀ c ∈ p.spelling, c.toNat < 0x80 := by decide

end NamePart

/-! ## The parts of a name -/

theorem mem_all_of_mem_belowHundred {n : Nat} (hn : n < 100) :
    ∀ p ∈ partsBelowHundred n, p ∈ NamePart.all := by
  intro p hp
  unfold partsBelowHundred at hp
  split at hp
  · cases hp
  · split at hp
    · rw [List.mem_singleton.mp hp]
      exact NamePart.mem_all_small (by omega) (by omega)
    · split at hp
      · rw [List.mem_singleton.mp hp]
        exact NamePart.mem_all_tens (by omega) (by omega)
      · simp only [List.mem_cons, List.not_mem_nil, or_false] at hp
        rcases hp with rfl | rfl
        · exact NamePart.mem_all_tens (by omega) (by omega)
        · exact NamePart.mem_all_small (by omega) (by omega)

theorem mem_all_of_mem_belowThousand {n : Nat} (hn : n < 1000) :
    ∀ p ∈ partsBelowThousand n, p ∈ NamePart.all := by
  intro p hp
  rcases List.mem_append.mp hp with hp | hp
  · split at hp
    · cases hp
    · simp only [List.mem_cons, List.not_mem_nil, or_false] at hp
      rcases hp with rfl | rfl
      · exact NamePart.mem_all_small (by omega) (by omega)
      · decide
  · exact mem_all_of_mem_belowHundred (by omega) p hp

/-- Every part of a name has a word. -/
theorem mem_all_of_mem_numberParts {n : Nat} (hn : n < 1000000) :
    ∀ p ∈ numberParts n, p ∈ NamePart.all := by
  intro p hp
  rcases List.mem_append.mp hp with hp | hp
  · split at hp
    · cases hp
    · rcases List.mem_append.mp hp with hp | hp
      · exact mem_all_of_mem_belowThousand (by omega) p hp
      · rw [List.mem_singleton.mp hp]
        decide
  · exact mem_all_of_mem_belowThousand (by omega) p hp

theorem length_numberParts (n : Nat) : (numberParts n).length ≤ 9 := by
  have hhundred (n : Nat) : (partsBelowHundred n).length ≤ 2 := by
    unfold partsBelowHundred
    split
    · exact Nat.zero_le 2
    · split
      · exact Nat.le_succ 1
      · split
        · exact Nat.le_succ 1
        · exact Nat.le_refl 2
  have hthousand (n : Nat) : (partsBelowThousand n).length ≤ 4 := by
    have := hhundred (n % 100)
    rw [partsBelowThousand, List.length_append]
    split <;> simp <;> omega
  have hfront := hthousand (n / 1000)
  have hback := hthousand (n % 1000)
  rw [numberParts, List.length_append]
  split <;> simp <;> omega

/-! ## What is said between two parts -/

/-- A space, the connector, or a hyphen. -/
inductive Joint where
  | space
  | connector
  | hyphen

namespace Joint

/-- A joint as it is said. -/
def text : Joint → List Char
  | space => " ".toList
  | connector => " and ".toList
  | hyphen => "-".toList

/-- A hyphen stands between tens and units only. -/
def Fits : Joint → NamePart → NamePart → Prop
  | hyphen, .tens _, .small _ => True
  | hyphen, _, _ => False
  | _, _, _ => True

end Joint

/-- The texts that a row of parts is said as. -/
inductive Says : List NamePart → List Char → Prop
  | last (p : NamePart) : Says [p] p.spelling
  | next {p q : NamePart} {rest : List NamePart} {text : List Char} (joint : Joint) :
      joint.Fits p q → Says (q :: rest) text →
      Says (p :: q :: rest) (p.spelling ++ (joint.text ++ text))

/-- A part with the connector in front of it, or without. -/
structure NameStep where
  connected : Bool
  part : NamePart

/-- What stands between words in front of a part. -/
def NameStep.gap (s : NameStep) : List Char := if s.connected then " and ".toList else " ".toList

/-- The parts behind the first as a text. -/
def stepsText (steps : List NameStep) : List Char := steps.flatMap fun s => s.gap ++ s.part.spelling

/-- A row of parts with a space or the connector between neighbours. -/
def rowText (p : NamePart) (steps : List NameStep) : List Char := p.spelling ++ stepsText steps

theorem stepsText_cons (s : NameStep) (steps : List NameStep) :
    stepsText (s :: steps) = s.gap ++ rowText s.part steps := by
  simp [stepsText, rowText]

section Saying

variable {parts : List NamePart} {text : List Char} (h : Says parts text)
  (hparts : ∀ p ∈ parts, p ∈ NamePart.all)

include h hparts

/-- What is said begins with a letter. -/
theorem Says.head : text.head?.any isAlphabetic = true := by
  have hletter {p : NamePart} (hp : p ∈ NamePart.all) (rest : List Char) :
      (p.spelling ++ rest).head?.any isAlphabetic = true := by
    obtain ⟨hne, -, hletters⟩ := NamePart.spelling_letters p hp
    obtain ⟨c, w, hw⟩ := List.exists_cons_of_ne_nil hne
    rw [hw] at hletters ⊢
    exact isAlphabetic_of_isLetter (isLetter_of_isSmallLatin (hletters c List.mem_cons_self))
  cases h with
  | last p =>
    have := hletter (hparts p List.mem_cons_self) []
    rwa [List.append_nil] at this
  | next joint _ _ => exact hletter (hparts _ List.mem_cons_self) _

/-- Names are said in ASCII. -/
theorem Says.ascii : ∀ c ∈ text, c.toNat < 0x80 := by
  intro c hc
  induction h with
  | last p => exact NamePart.spelling_ascii p (hparts p List.mem_cons_self) c hc
  | @next p q rest text joint _ _ ih =>
    obtain ⟨hp, hrest⟩ := List.forall_mem_cons.mp hparts
    simp only [List.mem_append] at hc
    rcases hc with hc | hc | hc
    · exact NamePart.spelling_ascii p hp c hc
    · have hjoint : ∀ c ∈ joint.text, c.toNat < 0x80 := by cases joint <;> decide
      exact hjoint c hc
    · exact ih hrest hc

/-- A name is not long. -/
theorem Says.length_le : text.length ≤ 14 * parts.length := by
  induction h with
  | last p =>
    have := (NamePart.spelling_letters p (hparts p List.mem_cons_self)).2.1
    rw [List.length_singleton]
    omega
  | @next p q rest text joint _ _ ih =>
    obtain ⟨hp, hrest⟩ := List.forall_mem_cons.mp hparts
    have hlength := (NamePart.spelling_letters p hp).2.1
    have hjoint : joint.text.length ≤ 5 := by cases joint <;> decide
    have := ih hrest
    simp only [List.length_append, List.length_cons] at this ⊢
    omega

/-- With its hyphens split a name is a row of its parts. -/
theorem Says.exists_row : ∃ p steps, parts = p :: steps.map NameStep.part ∧ ∀ before tail,
    splitAtHyphens before (text ++ tail) =
      rowText p steps ++ splitAtHyphens (behind before text) tail := by
  have hletters {p : NamePart} (hp : p ∈ NamePart.all) : '-' ∉ p.spelling := by
    intro hmem
    have hhyphen := (NamePart.spelling_letters p hp).2.2 '-' hmem
    exact absurd hhyphen (by decide)
  induction h with
  | last p =>
    refine ⟨p, [], rfl, fun before tail => ?_⟩
    rw [splitAtHyphens_append (hletters (hparts p List.mem_cons_self)), rowText]
    simp [stepsText]
  | @next p q rest text joint _ hsays ih =>
    obtain ⟨hp, hrest⟩ := List.forall_mem_cons.mp hparts
    obtain ⟨p', steps, hcons, hsplit⟩ := ih hrest
    obtain ⟨rfl, rfl⟩ := List.cons.inj hcons
    have hhead := hsays.head hrest
    have hrow (connected : Bool) : rowText p (⟨connected, q⟩ :: steps) =
        p.spelling ++ ((⟨connected, q⟩ : NameStep).gap ++ rowText q steps) := by
      rw [rowText, stepsText_cons]
    have hown : '-' ∉ p.spelling := hletters hp
    cases joint with
    | space =>
      refine ⟨p, ⟨false, q⟩ :: steps, rfl, fun before tail => ?_⟩
      have hspace : '-' ∉ Joint.space.text := by decide
      rw [List.append_assoc, List.append_assoc, splitAtHyphens_append hown,
        splitAtHyphens_append hspace, hsplit, hrow]
      simp [Joint.text, NameStep.gap]
    | connector =>
      refine ⟨p, ⟨true, q⟩ :: steps, rfl, fun before tail => ?_⟩
      have hand : '-' ∉ Joint.connector.text := by decide
      rw [List.append_assoc, List.append_assoc, splitAtHyphens_append hown,
        splitAtHyphens_append hand, hsplit, hrow]
      simp [Joint.text, NameStep.gap]
    | hyphen =>
      refine ⟨p, ⟨false, q⟩ :: steps, rfl, fun before tail => ?_⟩
      -- a letter stands at each side of the hyphen
      have hbehind : (behind before p.spelling).any isAlphabetic = true := by
        obtain ⟨hne, -, hsmall⟩ := NamePart.spelling_letters p hp
        exact any_behind_of_ne_nil before hne fun c hc =>
          isAlphabetic_of_isLetter (isLetter_of_isSmallLatin (hsmall c hc))
      have hahead : (text ++ tail).head?.any isAlphabetic = true := by
        cases text with
        | nil => cases hhead
        | cons c text => exact hhead
      rw [List.append_assoc, List.append_assoc, splitAtHyphens_append hown, hrow]
      show _ ++ splitAtHyphens _ ('-' :: (text ++ tail)) = _
      rw [splitAtHyphens, if_pos ⟨rfl, hbehind, hahead⟩, hsplit]
      simp [Joint.text, NameStep.gap]

end Saying

end CalcSpeech
