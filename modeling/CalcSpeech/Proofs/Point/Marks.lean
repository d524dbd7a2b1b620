import CalcSpeech.Proofs.NumeralMark
import CalcSpeech.Proofs.Point.Fractions
import CalcSpeech.Proofs.Vocabulary.Found
import CalcSpeech.Proofs.Written.Marks

/-!
# Decimal points in front of decimals

A decimal point between two digits becomes a period, however it is given (`rewrite_between`). Hence
a numeral with a spoken decimal point and the same numeral with the decimal mark of the language
come to the same text (`rewrite_point`).
-/

namespace CalcSpeech.NumeralMark

open Unicode Pattern Vocabulary

/-! ## The decimal point of a language -/

/-- What a language has between the digits at the sides of a decimal point. -/
def pointPattern (pack : LanguagePack) : Pattern :=
  oneOf (inOrder [loose, Vocabulary.pattern (pack.words .decimalWords), loose] ::
    match pack.decimalMark with
    | .comma => [just ',']
    | .period => [])

/-- A decimal point between two digits. -/
def betweenDigits (pack : LanguagePack) : Pattern :=
  inOrder [group 1 digit, pointPattern pack, group 2 digit]

/-- Whether a decimal point may begin with this character. -/
def canPoint (c : Char) : Bool := isBlank c || canBegin c || c == ','

/-- A digit with what may be a decimal point behind it stands here. -/
def BeforePoint (_before : Option Char) (text : List Char) : Prop :=
  ∃ c r, text = c :: r ∧ isDecimalDigit c = true ∧ r.head?.any canPoint = true

theorem canPoint_of_isDecimalDigit {c : Char} (h : isDecimalDigit c = true) :
    canPoint c = false := by
  have hcomma : (c == ',') = false := by
    rw [beq_eq_false_iff_ne]
    rintro rfl
    exact Bool.false_ne_true (isDecimalDigit_comma.symm.trans h)
  rw [canPoint, isBlank_of_isDecimalDigit h, canBegin_of_isDecimalDigit h, hcomma]
  rfl

section Language

variable {pack : LanguagePack} (hpack : pack.IsOrdinary)

include hpack

theorem spokenPoint?_eq {w : String} (hw : w ∈ pack.words .decimalWords) :
    spokenPoint? pack = some (betweenDigits pack) := by
  have hsome := pattern?_of_mem (fun p hp => (hpack.words hp).1) hw
  unfold spokenPoint? betweenDigits pointPattern
  simp only [hsome, Option.map_some, Option.toList_some]
  cases pack.decimalMark <;> rfl

theorem opens_pointWords :
    (inOrder [loose, Vocabulary.pattern (pack.words .decimalWords), loose]).Opens
      fun c => isBlank c || canBegin c := by
  have hwords : (Vocabulary.pattern (pack.words .decimalWords)).OpensAt
      (Begins (pack.words .decimalWords)) := opensAt_pattern fun p hp => (hpack.words hp).1
  refine OpensAt.mono (opensAt_loose hwords.seq fun _ _ h => h.solid) ?_
  rintro b r ⟨g, y, rfl, hg, -, hy⟩
  cases g with
  | nil =>
    have hbegin := hy.canBegin
    cases y with
    | nil => cases hbegin
    | cons c y =>
      have hc : canBegin c = true := hbegin
      show (isBlank c || canBegin c) = true
      rw [hc, Bool.or_true]
  | cons c g =>
    show (isBlank c || canBegin c) = true
    rw [hg c List.mem_cons_self, Bool.true_or]

theorem opens_pointPattern : (pointPattern pack).Opens canPoint := by
  have hmono {f : Char → Bool} (hf : ∀ c, f c = true → canPoint c = true) {r : List Char}
      (hr : r.head?.any f = true) : r.head?.any canPoint = true := by
    cases r with
    | nil => cases hr
    | cons c r => exact hf c hr
  have hspoken := OpensAt.mono (opens_pointWords hpack) fun _ _ h =>
    hmono (fun c hc => by rw [canPoint, hc, Bool.true_or]) h
  unfold pointPattern
  cases pack.decimalMark with
  | period => exact hspoken
  | comma =>
    exact OpensAt.alt hspoken (OpensAt.mono opens_char fun _ _ h =>
      hmono (fun c hc => by rw [canPoint, hc, Bool.or_true]) h)

theorem opensAt_betweenDigits : (betweenDigits pack).OpensAt BeforePoint := by
  intro b w a k hread
  obtain ⟨u, v, _, _, rfl, -, hdigit, hrow⟩ := reads_inOrder_cons.mp hread
  obtain ⟨m, v', _, _, rfl, -, hpoint, -⟩ := reads_inOrder_cons.mp hrow
  cases hdigit with
  | group hdigit =>
    obtain ⟨c, rfl, hc, -⟩ := reads_digit.mp hdigit
    refine ⟨c, m ++ v' ++ a, by simp, hc, ?_⟩
    rw [List.append_assoc]
    exact opens_pointPattern hpack _ _ _ _ hpoint

end Language

/-- In front of more digits, or of what is no decimal point, there is none. -/
theorem nowhere_beforePoint {ds x : List Char} (hds : ∀ c ∈ ds, isDecimalDigit c = true)
    (hx : x.head?.any canPoint = false) {b : Option Char} : Nowhere BeforePoint b ds x := by
  rintro v c u hv ⟨d, r, htext, -, hr⟩
  obtain ⟨-, rfl⟩ := List.cons.inj htext
  cases u with
  | nil => exact Bool.false_ne_true (hx.symm.trans hr)
  | cons e u =>
    have he := canPoint_of_isDecimalDigit (hds e (by rw [hv]; simp))
    exact Bool.false_ne_true (he.symm.trans hr)

/-! ## Digits at both sides -/

section Between

variable {pack : LanguagePack} (hpack : pack.IsOrdinary) {a r m : List Char} {e : Char}
  (ha : IsDigits a) (he : isDecimalDigit e = true)

include hpack ha he

/-- A decimal point becomes a period. -/
theorem rewrite_between (hm : ∀ b, (pointPattern pack).Prefers b m (e :: r) []) :
    (betweenDigits pack).rewrite pointed (a ++ (m ++ e :: r)) =
      a ++ '.' :: e :: (betweenDigits pack).rewriteAfter pointed (some e) r := by
  obtain ⟨a, d, rfl⟩ : ∃ a' d, a = a' ++ [d] :=
    ⟨a.dropLast, a.getLast ha.1, (List.dropLast_append_getLast ha.1).symm⟩
  have hd : isDecimalDigit d = true := ha.2 d (by simp)
  have hend : (d :: (m ++ e :: r)).head?.any canPoint = false := canPoint_of_isDecimalDigit hd
  have hquiet := (opensAt_betweenDigits hpack).quiet (nowhere_beforePoint (b := none)
    (fun c hc => ha.2 c (List.mem_append_left _ hc)) hend)
  have hdigit {c : Char} (hc : isDecimalDigit c = true) (b : Option Char) (z : List Char) :
      digit.Prefers b [c] z [] := prefers_of_first fun _ _ hs => first_char hc hs
  have hlast {b : Option Char} : (pointPattern pack).Prefers b m ([e] ++ r) [] := hm b
  have hrow : (betweenDigits pack).Prefers (behind none a) ([d] ++ (m ++ [e])) r
      [(2, [e]), (1, [d])] :=
    ((hdigit hd _ _).group 1).seq (hlast.seq ((hdigit he _ r).group 2))
  have hfound := rewriteAfter_found (m := ⟨[d] ++ (m ++ [e]), [(2, [e]), (1, [d])]⟩) pointed
    (hrow.matchAt?_eq (by simp))
  have htext : a ++ [d] ++ (m ++ e :: r) = a ++ ([d] ++ (m ++ [e]) ++ r) := by simp
  rw [rewrite_eq_rewriteAfter, htext, rewriteAfter_quiet pointed (by simpa using hquiet), hfound]
  have hbehind : behind (behind none a) ([d] ++ (m ++ [e])) = some e := by simp
  rw [hbehind]
  show a ++ (([d] ++ '.' :: [e]) ++ _) = _
  simp

omit he in
/-- A period in front of decimals with no decimal point behind their first digit stays. -/
theorem rewrite_period (hno : (betweenDigits pack).matchAt? none (e :: r) = none) :
    (betweenDigits pack).rewrite pointed (a ++ '.' :: e :: r) =
      a ++ '.' :: e :: (betweenDigits pack).rewriteAfter pointed (some e) r := by
  have hpoint : canPoint '.' = false ∧ isDecimalDigit '.' = false := by decide
  have hend : ('.' :: e :: r).head?.any canPoint = false := hpoint.1
  have hquiet : (betweenDigits pack).Quiet none (a ++ ['.']) (e :: r) := by
    refine (opensAt_betweenDigits hpack).quiet (nowhere_append.mpr
      ⟨nowhere_beforePoint ha.2 hend, nowhere_cons.mpr ⟨?_, nowhere_nil _ _ _⟩⟩)
    rintro ⟨c, x, htext, hc, -⟩
    obtain ⟨rfl, -⟩ := List.cons.inj htext
    exact Bool.false_ne_true (hpoint.2.symm.trans hc)
  have hsame : (behind none (a ++ ['.'])).any isWordCharacter = (none : Option Char).any isWordCharacter := by
    rw [behind_append]
    show isWordCharacter '.' = false
    decide
  have htext : a ++ '.' :: e :: r = (a ++ ['.']) ++ (e :: r) := by simp
  rw [rewrite_eq_rewriteAfter, htext, rewriteAfter_quiet pointed hquiet,
    rewriteAfter_plain pointed (matchAt?_congr _ _ hsame ▸ hno)]
  simp

end Between

/-! ## Spoken and written -/

section Points

variable {pack : LanguagePack} (hpack : pack.IsOrdinary) {b : Option Char} {e : Char}
  {r : List Char}

include hpack

/-- A word for the decimal point between two spaces is a decimal point. -/
theorem prefers_pointWord (hpoints : pack.HasPointWords) {w : String}
    (hw : w ∈ pack.words .decimalWords) (he : isBlank e = false) :
    (pointPattern pack).Prefers b ([' '] ++ (w.toList ++ [' '])) (e :: r) [] := by
  have hproper : ∀ p ∈ pack.words .decimalWords, IsProper p.toList := fun p hp => (hpack.words hp).1
  have hdistinct : AreDistinct (pack.words .decimalWords) := fun p hp q hq =>
    hpoints.distinct _ (List.mem_map_of_mem hp) _ (List.mem_map_of_mem hq)
  have hspace : ∀ c ∈ [' '], isBlank c = true := by decide
  have hfits : Fits w.toList (some ' ') w.toList ([' '] ++ e :: r) :=
    fits_self (hproper w hw) behind_space head_space
  have hword := prefers_pattern hproper hdistinct hw hfits
  have hend : (w.toList ++ [' '] ++ e :: r).head?.any isBlank = false := by
    rw [List.append_assoc]
    exact (hproper w hw).head_solid
  have hrow : (inOrder [loose, Vocabulary.pattern (pack.words .decimalWords), loose]).Prefers b
      ([' '] ++ (w.toList ++ [' '])) (e :: r) [] :=
    (prefers_loose hspace hend).seq (hword.seq (prefers_loose hspace he))
  unfold pointPattern
  cases pack.decimalMark with
  | period => exact hrow
  | comma => exact hrow.left

/-- Where the decimal mark is a comma a comma is a decimal point. -/
theorem prefers_comma (hmark : pack.decimalMark = .comma) :
    (pointPattern pack).Prefers b [','] (e :: r) [] := by
  unfold pointPattern
  rw [hmark]
  refine Prefers.right (fun w a k htext hread => ?_) (prefers_of_first fun _ _ hs => first_just hs)
  have hopens := opens_pointWords hpack _ _ _ _ hread
  rw [← htext] at hopens
  have hcomma : (isBlank ',' || canBegin ',') = true := hopens
  exact absurd hcomma (by decide)

end Points

theorem opensAt_periodGroups : periodGroups.OpensAt (BehindDigits (CharAt '.')) := by
  have hgroups : (inOrder [atLeastOne (inOrder [just '.', times 3 digit]), just ',', digit]).OpensAt
      (CharAt '.') := OpensAt.seq (OpensAt.seq opensAt_just.seq)
  exact opensAt_boundary (opensAt_digits (fun _ _ _ _ h => isDigits_of_upToThree h) hgroups
    fun _ _ h => h.any (by decide))

section Stage

variable {pack : LanguagePack} (hpack : pack.IsOrdinary) (hpoints : pack.HasPointWords)
  {w : String} (hw : w ∈ pack.words .decimalWords) {a ds t : List Char} (ha : IsDigits a)
  (hds : IsDigits ds) (ht : IsTail t)

include ha hds ht in
/-- No group of digits begins in front of the decimals, nor with them. -/
theorem rewrite_periodGroups (hmark : pack.decimalMark = .comma) {u : List Char}
    (hu : IsFront pack a u) : periodGroups.rewrite (without '.') (u ++ (ds ++ t)) =
      u ++ (ds ++ periodGroups.rewriteAfter (without '.') (behind none ds) t) := by
  have hpoint : pack.decimalMark.point ≠ '.' := by
    rw [hmark]
    decide
  have hspace : ' ' ≠ '.' := by decide
  have hfront := hu.nowhere_behindDigits (x := ds ++ t) (S := CharAt '.') ha.2
    (fun _ _ _ h => hspace (Option.some.inj h)) fun _ h => hpoint (Option.some.inj h)
  have hend : ¬ CharAt '.' (behind none ds) t := fun h => by
    have hperiod := ht.head (f := (· == '.')) (by decide)
    rw [h] at hperiod
    exact Bool.noConfusion hperiod
  have hquiet := opensAt_periodGroups.quiet (nowhere_behindDigits (b := none) (u := []) (a := t)
    hds.2 (by simp) (ht.head (by decide)) hend)
  rw [hu.rewrite_append opensAt_periodGroups hfront, rewrite_eq_rewriteAfter,
    rewriteAfter_quiet _ (by simpa using hquiet)]

include hpack hpoints hw ha hds ht

/-- With a word for the decimal point and with its mark a numeral comes to the same, but that a
period does not take the digit behind it from another decimal point. -/
theorem rewriteSpoken_point (hlone : pack.decimalMark = .period →
      (betweenDigits pack).matchAt? none (ds ++ t) = none) :
    rewriteSpoken pack.decimalMark (spokenPoint? pack) (spokenFront a w.toList ++ (ds ++ t)) =
      rewriteSpoken pack.decimalMark (spokenPoint? pack)
        (writtenFront a pack.decimalMark.point ++ (ds ++ t)) := by
  obtain ⟨e, es, rfl⟩ := List.exists_cons_of_ne_nil hds.1
  have he : isDecimalDigit e = true := hds.2 e List.mem_cons_self
  have hspoken (r : List Char) : (betweenDigits pack).rewrite pointed
      (spokenFront a w.toList ++ e :: r) =
      a ++ '.' :: e :: (betweenDigits pack).rewriteAfter pointed (some e) r := by
    rw [← rewrite_between hpack ha he fun b =>
      prefers_pointWord hpack hpoints hw (isBlank_of_isDecimalDigit he)]
    simp [spokenFront]
  rw [spokenPoint?_eq hpack hw]
  cases hmark : pack.decimalMark with
  | period =>
    show (betweenDigits pack).rewrite pointed (spokenFront a w.toList ++ e :: (es ++ t)) =
      (betweenDigits pack).rewrite pointed (writtenFront a '.' ++ e :: (es ++ t))
    rw [hspoken, writtenFront, List.append_assoc]
    exact (rewrite_period hpack ha (hlone hmark)).symm
  | comma =>
    have hwritten (r : List Char) : (betweenDigits pack).rewrite pointed
        (writtenFront a ',' ++ e :: r) =
        a ++ '.' :: e :: (betweenDigits pack).rewriteAfter pointed (some e) r := by
      rw [← rewrite_between hpack ha he fun b => prefers_comma hpack hmark]
      simp [writtenFront]
    have hfront : IsFront pack a (spokenFront a w.toList) := .spoken (hpoints.word w hw)
    have hfront' : IsFront pack a (writtenFront a ',') := by
      have hpoint : IsFront pack a (writtenFront a pack.decimalMark.point) := .written
      rwa [hmark] at hpoint
    show (betweenDigits pack).rewrite pointed (periodGroups.rewrite _ _) =
      (betweenDigits pack).rewrite pointed (periodGroups.rewrite _ _)
    rw [rewrite_periodGroups ha hds ht hmark hfront, show DecimalMark.comma.point = ',' from rfl,
      rewrite_periodGroups ha hds ht hmark hfront']
    exact (hspoken _).trans (hwritten _).symm

/-- The stage makes the same of a numeral with a word for the decimal point and with its mark. -/
theorem rewrite_point (hlone : pack.decimalMark = .period →
      ∀ p, spokenPoint? pack = some p → p.matchAt? none ((ds ++ t).map plainSpace) = none) :
    rewrite pack.decimalMark (spokenPoint? pack) (spokenFront a w.toList ++ (ds ++ t)) =
      rewrite pack.decimalMark (spokenPoint? pack)
        (writtenFront a pack.decimalMark.point ++ (ds ++ t)) := by
  have hspace : plainSpace ' ' = ' ' := by decide
  have hdigits {u : List Char} (hu : ∀ c ∈ u, isDecimalDigit c = true) : u.map plainSpace = u :=
    plainSpaces_eq_self fun c hc => plainSpace_of_solid (isBlank_of_isDecimalDigit (hu c hc))
  have hword : w.toList.map plainSpace = w.toList := plainSpaces_eq_self fun c hc =>
    plainSpace_of_solid (isBlank_of_isLetter ((hpoints.word w hw).isWord.2 c hc))
  have hpoint : plainSpace pack.decimalMark.point = pack.decimalMark.point := by
    cases pack.decimalMark <;> decide
  have hspoken : (spokenFront a w.toList ++ (ds ++ t)).map plainSpace =
      spokenFront a w.toList ++ (ds ++ t.map plainSpace) := by
    simp only [spokenFront, List.map_append, List.map_cons, List.map_nil, hspace, hdigits ha.2,
      hdigits hds.2, hword]
  have hwritten : (writtenFront a pack.decimalMark.point ++ (ds ++ t)).map plainSpace =
      writtenFront a pack.decimalMark.point ++ (ds ++ t.map plainSpace) := by
    simp only [writtenFront, List.map_append, List.map_cons, List.map_nil, hdigits ha.2,
      hdigits hds.2, hpoint]
  have htail : IsTail (t.map plainSpace) := by
    rcases ht with rfl | ⟨r, rfl⟩
    · exact Or.inl rfl
    · exact Or.inr ⟨_, rfl⟩
  have hsame := rewriteSpoken_point hpack hpoints hw ha hds htail fun hperiod => by
    rw [← hdigits hds.2, ← List.map_append]
    exact hlone hperiod _ (spokenPoint?_eq hpack hw)
  unfold rewrite
  simp only
  rw [hspoken, hwritten, hsame]

end Stage

end CalcSpeech.NumeralMark
