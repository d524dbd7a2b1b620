import CalcSpeech.Proofs.Expression.Canonical
import CalcSpeech.Proofs.Transcript

/-!
# Expressions that are dictated as such

An expression whose numerals, signs and roots are spaced out has nothing for any stage to read, so
it comes to itself (`normalize_expression`): no word but `sqrt` is in it, no period has a gap at its
side, no hyphen joins two words, and once the roots are hidden every character is one that cleaning
keeps.
-/

namespace CalcSpeech

open Unicode Pattern Text Vocabulary

/-- In a row of tokens a hyphen that is one of them joins nothing. -/
theorem Transcript.splitAtHyphens_join {tokens : List (List Char)}
    (h : ∀ t ∈ tokens, '-' ∉ t ∨ t = ['-']) {before : Option Char}
    (hbefore : before.any isAlphabetic = false) :
    splitAtHyphens before (join [' '] tokens) = join [' '] tokens := by
  -- a hyphen of its own has a space in front, so it joins no letters
  have htoken {t : List Char} (ht : '-' ∉ t ∨ t = ['-']) {before : Option Char}
      (hbefore : before.any isAlphabetic = false) (rest : List Char) :
      splitAtHyphens before (t ++ rest) = t ++ splitAtHyphens (behind before t) rest := by
    rcases ht with ht | rfl
    · exact splitAtHyphens_append ht before rest
    · simp [splitAtHyphens, hbefore]
  induction tokens generalizing before with
  | nil => rfl
  | cons t tokens ih =>
    obtain ⟨ht, hrest⟩ := List.forall_mem_cons.mp h
    cases tokens with
    | nil =>
      have hlast := htoken ht hbefore []
      rw [List.append_nil] at hlast
      exact hlast.trans (List.append_nil t)
    | cons t' tokens =>
      have hspace : (some ' ').any isAlphabetic = false := isAlphabetic_of_isBlank (by decide)
      have hnext := ih hrest hspace
      show splitAtHyphens before (t ++ [' '] ++ join [' '] (t' :: tokens)) = _
      rw [List.append_assoc, htoken ht hbefore, splitAtHyphens_append (u := [' ']) (by decide)]
      show t ++ ([' '] ++ splitAtHyphens (some ' ') (join [' '] (t' :: tokens))) = _
      rw [hnext, ← List.append_assoc]
      rfl

namespace Expression

/-- What expressions are made of: unsigned numerals, signs, and the word for a root. -/
inductive IsSymbol : List Char → Prop
  | numeral {n} : IsNumeral n → IsSymbol n
  | sign {c} : c ∈ ['+', '-', '*', '/', '^', '(', ')'] → IsSymbol [c]
  | root : IsSymbol "sqrt".toList

/-- A symbol with the sign for a root in the place of its word. -/
def hiddenSymbol (t : List Char) : List Char := if t = rootWord then [rootSign] else t

namespace IsSymbol

variable {t : List Char} (h : IsSymbol t)

include h

theorem forall_mem {P : Char → Prop} (hdigit : ∀ c, isDecimalDigit c = true → P c)
    (hother : ∀ c ∈ ".+-*/^()sqrt".toList, P c) : ∀ c ∈ t, P c := by
  cases h with
  | numeral hn =>
    intro c hc
    rcases hn.mem hc with hd | rfl
    · exact hdigit c hd
    · exact hother '.' (by decide)
  | sign hc =>
    have hsigns : ['+', '-', '*', '/', '^', '(', ')'] ⊆ ".+-*/^()sqrt".toList := by decide
    exact List.forall_mem_singleton.mpr (hother _ (hsigns hc))
  | root =>
    have hroot : "sqrt".toList ⊆ ".+-*/^()sqrt".toList := by decide
    exact fun c hc => hother c (hroot hc)

theorem ne_nil : t ≠ [] := by
  cases h with
  | numeral hn => exact hn.ne_nil
  | sign => exact List.cons_ne_nil _ _
  | root => decide

theorem solid : ∀ c ∈ t, isBlank c = false :=
  h.forall_mem (fun _ => isBlank_of_isDecimalDigit) (by decide)

/-- A character that is a symbol by itself is in no other. -/
theorem not_mem_or_eq {c : Char} (hdigit : isDecimalDigit c = false)
    (hother : c ∉ ".sqrt".toList) : c ∉ t ∨ t = [c] := by
  cases h with
  | numeral hn =>
    left
    intro hc
    rcases hn.mem hc with hd | rfl
    · exact Bool.false_ne_true (hdigit.symm.trans hd)
    · exact hother (by decide)
  | @sign d =>
    by_cases hc : c = d
    · exact Or.inr (by rw [hc])
    · exact Or.inl fun hmem => hc (List.mem_singleton.mp hmem)
  | root => exact Or.inl fun hc => hother (List.mem_cons_of_mem _ hc)

theorem nowhere_exposed {b : Option Char} {a : List Char} : Nowhere ExposedPointAt b t a := by
  have hplain {t : List Char} (ht : '.' ∉ t) : Nowhere ExposedPointAt b t a :=
    nowhere_of_not_mem (fun _ _ => ExposedPointAt.head) ht
  cases h with
  | numeral hn => exact hn.nowhere_exposed
  | @sign c hc =>
    apply hplain
    rw [List.mem_singleton]
    rintro rfl
    exact absurd hc (by decide)
  | root => exact hplain (by decide)

/-- What holds of digits and of the characters of other symbols holds of those of a hidden one. -/
theorem forall_mem_hidden {P : Char → Prop} (hdigit : ∀ c, isDecimalDigit c = true → P c)
    (hother : ∀ c ∈ rootSign :: ".+-*/^()".toList, P c) : ∀ c ∈ hiddenSymbol t, P c := by
  unfold hiddenSymbol
  split
  · exact List.forall_mem_singleton.mpr (hother _ List.mem_cons_self)
  · rename_i hne
    cases h with
    | numeral hn =>
      intro c hc
      rcases hn.mem hc with hd | rfl
      · exact hdigit c hd
      · exact hother '.' (by decide)
    | sign hc =>
      have hsigns : ['+', '-', '*', '/', '^', '(', ')'] ⊆ ".+-*/^()".toList := by decide
      exact List.forall_mem_singleton.mpr (hother _ (List.mem_cons_of_mem _ (hsigns hc)))
    | root => exact absurd rfl hne

theorem showRoots_hiddenSymbol : showRoots (hiddenSymbol t) = t := by
  unfold hiddenSymbol
  split
  · rename_i hroot
    rw [hroot]
    rfl
  · apply showRoots_eq_self
    intro hmem
    refine h.forall_mem (P := (· ≠ rootSign)) ?_ (by decide) rootSign hmem rfl
    rintro c hc rfl
    exact absurd hc (by decide +kernel)

end IsSymbol

theorem showRoots_join (parts : List (List Char)) :
    showRoots (join [' '] parts) = join [' '] (parts.map showRoots) := by
  induction parts with
  | nil => rfl
  | cons p parts ih =>
    cases parts with
    | nil => rfl
    | cons q parts =>
      have happend (u v : List Char) : showRoots (u ++ v) = showRoots u ++ showRoots v :=
        List.flatMap_append
      show showRoots (p ++ [' '] ++ join [' '] (q :: parts)) = _
      rw [happend, happend, ih]
      rfl

section Rows

variable {symbols : List (List Char)} (hsymbols : ∀ t ∈ symbols, IsSymbol t)

include hsymbols

/-- What holds of digits, spaces and the characters of symbols holds of those of a row. -/
theorem forall_mem_row {P : Char → Prop} (hdigit : ∀ c, isDecimalDigit c = true → P c)
    (hother : ∀ c ∈ " .+-*/^()sqrt".toList, P c) : ∀ c ∈ join [' '] symbols, P c := by
  intro c hc
  rcases mem_join hc with rfl | ⟨t, ht, hc⟩
  · exact hother ' ' (by decide)
  · exact (hsymbols t ht).forall_mem hdigit (fun d hd => hother d (List.mem_cons_of_mem _ hd)) c hc

theorem silent_row : Silent (join [' '] symbols) :=
  forall_mem_row hsymbols (fun _ => isVerbal_of_isDecimalDigit) (by decide)

/-- A character that is no digit and in no symbol is not in a row. -/
theorem not_mem_row {d : Char} (hdigit : isDecimalDigit d = false)
    (hother : d ∉ " .+-*/^()sqrt".toList) : d ∉ join [' '] symbols := by
  intro hd
  refine forall_mem_row hsymbols (P := (· ≠ d)) ?_ ?_ d hd rfl
  · rintro c hc rfl
    exact Bool.false_ne_true (hdigit.symm.trans hc)
  · rintro c hc rfl
    exact hother hc

theorem nowhere_exposed_row : Nowhere ExposedPointAt none (join [' '] symbols) [] := by
  apply nowhere_join_of
  · intro b r h hspace
    rw [h.head] at hspace
    exact absurd hspace (by decide)
  · exact fun t ht b a => (hsymbols t ht).nowhere_exposed

/-- A row is read as it is. -/
theorem prepare_row : Transcript.prepare (join [' '] symbols) = join [' '] symbols := by
  have hsteady : ∀ c ∈ join [' '] symbols, Steady c := by
    have hlow : ∀ c ∈ " .+-*/^()sqrt".toList, c.toNat < 0x80 ∧ c.toLower = c := by decide
    exact forall_mem_row hsymbols (fun _ => steady_of_isDecimalDigit)
      fun c hc => steady_of_lt (hlow c hc).1 (hlow c hc).2
  -- the dashes that are written as hyphens are no symbols
  have hdash : (join [' '] symbols).map Transcript.plainDash = join [' '] symbols := by
    have hdashes : ∀ d ∈ ['\u2013', '\u2014', '\u2212'], isDecimalDigit d = false ∧
        d ∉ " .+-*/^()sqrt".toList := by decide +kernel
    rw [List.map_congr_left (g := id), List.map_id]
    intro c hc
    have hne {d : Char} (hd : d ∈ ['\u2013', '\u2014', '\u2212']) : c ≠ d := by
      rintro rfl
      exact not_mem_row hsymbols (hdashes c hd).1 (hdashes c hd).2 hc
    rw [Transcript.plainDash, if_neg]
    · rfl
    · simp only [not_or]
      exact ⟨hne (by decide), hne (by decide), hne (by decide)⟩
  have hhyphen : ∀ t ∈ symbols, '-' ∉ t ∨ t = ['-'] := fun t ht =>
    (hsymbols t ht).not_mem_or_eq (by decide) (by decide)
  rw [Transcript.prepare, lowercase_composed_of_steady hsteady, hdash]
  exact Transcript.splitAtHyphens_join hhyphen rfl

/-- The symbols with hidden roots are what cleaning works on. -/
theorem showRoots_hiddenRow : showRoots (join [' '] (symbols.map hiddenSymbol)) =
    join [' '] symbols := by
  rw [showRoots_join, List.map_map]
  refine congrArg _ ((List.map_congr_left fun t ht => ?_).trans (List.map_id symbols))
  exact (hsymbols t ht).showRoots_hiddenSymbol

theorem isKept_of_mem_hiddenRow : ∀ c ∈ join [' '] (symbols.map hiddenSymbol),
    isKept c = true := by
  intro c hc
  rcases mem_join hc with rfl | ⟨u, hu, hc⟩
  · decide
  · obtain ⟨t, ht, rfl⟩ := List.mem_map.mp hu
    exact (hsymbols t ht).forall_mem_hidden (fun _ => PercentPhrase.isKept_of_isDecimalDigit)
      (by decide +kernel) c hc

theorem nowhere_stop_hiddenRow :
    Nowhere StopAt none (join [' '] (symbols.map hiddenSymbol)) [] := by
  have hexposed : Nowhere ExposedPointAt none (join [' '] (symbols.map hiddenSymbol)) [] := by
    apply nowhere_join_of
    · intro b r h hspace
      rw [h.head] at hspace
      exact absurd hspace (by decide)
    · intro u hu b a
      obtain ⟨t, ht, rfl⟩ := List.mem_map.mp hu
      unfold hiddenSymbol
      split
      · exact nowhere_of_not_mem (fun _ _ => ExposedPointAt.head) (by decide)
      · exact (hsymbols t ht).nowhere_exposed
  exact hexposed.mono fun _ _ => ExposedPointAt.of_stop

variable (hplus : symbols.IsChain fun s t => ¬ (s = ['+'] ∧ t = ['+']))

include hplus

/-- Where no plus sign follows another in a row, none does once its gaps are left out. -/
theorem nowhere_doublePlus_row : Nowhere DoublePlusAt none (join [' '] symbols) [] := by
  have hsolid : symbols.flatten.filter (!isBlank ·) = symbols.flatten := by
    rw [List.filter_eq_self]
    intro c hc
    obtain ⟨t, ht, hc⟩ := List.mem_flatten.mp hc
    rw [(hsymbols t ht).solid c hc]
    rfl
  have hsingle {t : List Char} (ht : t ∈ symbols) (hc : '+' ∈ t) : t = ['+'] :=
    ((hsymbols t ht).not_mem_or_eq (by decide) (by decide)).resolve_left (· hc)
  -- without its blanks a row is its symbols put together, so it is enough to look at neighbours
  rw [nowhere_doublePlus_iff, filter_join, hsolid, List.isChain_flatten]
  · refine ⟨fun t ht => ?_, ?_⟩
    · by_cases hc : '+' ∈ t
      · rw [hsingle ht hc]
        exact List.isChain_singleton _
      · rw [List.isChain_iff_forall_rel_of_append_cons_cons]
        rintro c d u v rfl ⟨rfl, -⟩
        exact hc (by simp)
    · refine List.IsChain.imp_of_mem_imp ?_ hplus
      intro s t hs ht hno c hc d hd hboth
      obtain ⟨rfl, rfl⟩ := hboth
      exact hno ⟨hsingle hs (List.mem_of_mem_getLast? hc), hsingle ht (List.mem_of_mem_head? hd)⟩
  · exact fun hnil => (hsymbols _ hnil).ne_nil rfl

/-- A row is a clean expression. -/
theorem canonicalize_row : canonicalize (join [' '] symbols) = join [' '] symbols := by
  have hshown := showRoots_hiddenRow hsymbols
  have hno := nowhere_doublePlus_row hsymbols hplus
  have htidy : isTidy (join [' '] symbols) = true := by
    by_cases hne : symbols = []
    · rw [hne]
      rfl
    · rw [isTidy, isTidyAfter_join hne fun t ht => ⟨(hsymbols t ht).ne_nil, (hsymbols t ht).solid⟩,
        Bool.or_true]
  rw [← hshown] at hno htidy
  have hclean := canonicalize_showRoots (isKept_of_mem_hiddenRow hsymbols)
    (nowhere_stop_hiddenRow hsymbols) hno htidy
  rwa [hshown] at hclean

variable {pack : LanguagePack} (hpack : pack.IsOrdinary)

include hpack

/-- In a row no sum or difference with a percentage is found, before it is cleaned or after. -/
theorem rewrite_row :
    rewrite (PercentPhrase.Patterns.ofPack pack) (join [' '] symbols) = join [' '] symbols := by
  have hpercent : '%' ∉ join [' '] symbols := not_mem_row hsymbols (by decide) (by decide)
  rw [rewrite, canonicalize_row hsymbols hplus]
  exact PercentPhrase.rewritePlusMinus_of_silent hpack (silent_row hsymbols) hpercent

/-- No stage has anything to read in a row. -/
theorem rewriteAll_row {lexicon : Lexicon} (hof : lexicon.IsOf pack) :
    Stage.rewriteAll Stage.all lexicon (join [' '] symbols) = join [' '] symbols := by
  have hpercent : '%' ∉ join [' '] symbols := not_mem_row hsymbols (by decide) (by decide)
  have hcomma : ∀ c ∈ join [' '] symbols, c ≠ ',' := by
    rintro c hc rfl
    exact not_mem_row hsymbols (by decide) (by decide) hc
  have hplain : ∀ c ∈ join [' '] symbols, NumeralMark.plainSpace c = c := by
    have hspaces : ∀ d ∈ ['\u00A0', '\u202F', '\u2007', '\u2009'], isDecimalDigit d = false ∧
        d ∉ " .+-*/^()sqrt".toList := by decide +kernel
    intro c hc
    have hne {d : Char} (hd : d ∈ ['\u00A0', '\u202F', '\u2007', '\u2009']) : c ≠ d := by
      rintro rfl
      exact not_mem_row hsymbols (hspaces c hd).1 (hspaces c hd).2 hc
    rw [NumeralMark.plainSpace, if_neg]
    simp only [not_or]
    exact ⟨hne (by decide), hne (by decide), hne (by decide), hne (by decide)⟩
  have hpoints : NumeralMark.spacedPoint.rewrite NumeralMark.pointed (join [' '] symbols) =
      join [' '] symbols :=
    NumeralMark.spacedPoint_eq_self
      ((nowhere_exposed_row hsymbols).mono fun _ _ => ExposedPointAt.of_loose)
  rw [rewriteAll_of_silent hpack hof (silent_row hsymbols) hcomma hplain, hpoints, hof.percent,
    PercentPhrase.rewritePlusMinus_of_silent hpack (silent_row hsymbols) hpercent,
    rewrite_row hsymbols hplus hpack]

end Rows

end Expression

open Expression

/-- An expression whose symbols are spaced out is returned unchanged, in every built-in language. -/
theorem normalize_expression {pack : LanguagePack} (hpack : pack ∈ builtinPacks)
    {symbols : List (List Char)} (hsymbols : ∀ t ∈ symbols, IsSymbol t)
    (hplus : symbols.IsChain fun s t => ¬ (s = ['+'] ∧ t = ['+']))
    (hlength : (join [' '] symbols).length ≤ 1000) :
    (Lexicon.ofPack pack).map (·.normalize (join [' '] symbols)) = .ok (join [' '] symbols) := by
  have hordinary := isOrdinary_of_mem hpack
  obtain ⟨lexicon, hlexicon, hof⟩ := Lexicon.exists_of_mem hpack
  rw [hlexicon]
  show Except.ok (lexicon.normalize _) = _
  rw [lexicon.normalize_of_short hlength, prepare_row hsymbols,
    rewriteAll_row hsymbols hplus hordinary hof]

/-- `sqrt ( 2.5 - 1 ) + 3` -/
theorem normalize_expression_root :
    english ∈ builtinPacks ∧
      (∀ t ∈ ["sqrt".toList, ['('], "2.5".toList, ['-'], ['1'], [')'], ['+'], ['3']], IsSymbol t) ∧
      ["sqrt".toList, ['('], "2.5".toList, ['-'], ['1'], [')'], ['+'], ['3']].IsChain
        (fun s t => ¬ (s = ['+'] ∧ t = ['+'])) ∧
      "sqrt ( 2.5 - 1 ) + 3".length ≤ 1000 ∧
      (Lexicon.ofPack english).map (·.normalize "sqrt ( 2.5 - 1 ) + 3".toList) =
        .ok "sqrt ( 2.5 - 1 ) + 3".toList := by
  have hdigit {d : Char} (hd : isDecimalDigit d = true) : IsDigits [d] :=
    ⟨List.cons_ne_nil _ _, List.forall_mem_singleton.mpr hd⟩
  have hone : IsNumeral ['1'] := .whole (hdigit (by decide))
  have hthree : IsNumeral ['3'] := .whole (hdigit (by decide))
  have htwo : IsDigits ['2'] := hdigit (by decide)
  have hhalf : IsNumeral "2.5".toList := .decimal htwo (hdigit (by decide))
  have hsymbols : ∀ t ∈ ["sqrt".toList, ['('], "2.5".toList, ['-'], ['1'], [')'], ['+'], ['3']],
      IsSymbol t := by
    simp only [List.forall_mem_cons, List.not_mem_nil, false_imp_iff, implies_true, and_true]
    exact ⟨.root, .sign (by decide), .numeral hhalf, .sign (by decide), .numeral hone,
      .sign (by decide), .sign (by decide), .numeral hthree⟩
  have hplus : ["sqrt".toList, ['('], "2.5".toList, ['-'], ['1'], [')'], ['+'], ['3']].IsChain
      (fun s t => ¬ (s = ['+'] ∧ t = ['+'])) := by decide
  have hjoin : join [' '] ["sqrt".toList, ['('], "2.5".toList, ['-'], ['1'], [')'], ['+'], ['3']] =
      "sqrt ( 2.5 - 1 ) + 3".toList := by decide
  have h := normalize_expression List.mem_cons_self hsymbols hplus (by decide)
  rw [hjoin] at h
  exact ⟨List.mem_cons_self, hsymbols, hplus, by decide, h⟩

end CalcSpeech
