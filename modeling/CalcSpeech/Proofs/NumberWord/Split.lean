import CalcSpeech.Proofs.NumberWord
import CalcSpeech.Proofs.Vocabulary.Lettered
import Mathlib.Data.List.TakeWhile

/-!
# Cutting a run into its words

A run of number words is found in a text with one pattern, cut out of it, and searched once more
with another for the words it is made of. In the text the run is a first word and a `Row` of
further ones, each the preferred one behind its gap. Where all words end in letters the cut changes
nothing about that (`Row.cut`), so the second search finds just these words, with nothing but gaps
between them (`covers_of_row`).

At the beginning of the cut the second pattern may take a connector first, where in the text there
was a word to be taken. No connector and number word that begin with the same words exclude that
(`not_reads_connected`). Each word that is found has a value (`isSome_valueOf`), so that every run
is read (`run_covered`).
-/

namespace CalcSpeech.NumberWord

open Unicode Text Pattern Vocabulary

/-- Texts that make up a text in order, with nothing but blanks between them. -/
inductive Covers : List (List Char) → List Char → Prop
  | one {w} : w ≠ [] → Covers [w] w
  | more {w g rest ws} : w ≠ [] → g ≠ [] → (∀ c ∈ g, isBlank c = true) → Covers ws rest →
      Covers (w :: ws) (w ++ (g ++ rest))

theorem Covers.ne_nil {ws : List (List Char)} {text : List Char} (h : Covers ws text) :
    ws ≠ [] := by
  cases h with
  | one => exact List.cons_ne_nil _ _
  | more => exact List.cons_ne_nil _ _

/-- What follows a word in a run, in front of `a`: further words, each behind a gap and each the one
that the pattern prefers at its place. -/
inductive Row (p : Pattern) (a : List Char) : Option Char → List Char → Prop
  | done {b} : Row p a b []
  | more {b g t w} : g ≠ [] → (∀ c ∈ g, isBlank c = true) → t ≠ [] →
      (p.lengths (behind b g) (t ++ w ++ a)).head? = some t.length →
      Row p a (behind b (g ++ t)) w → Row p a b (g ++ t ++ w)

section Row

variable {p item : Pattern} {a w t : List Char} {b : Option Char}

/-- A row begins with a blank, if it is not empty. -/
theorem Row.head (h : Row p a b w) : w.head?.all isBlank = true := by
  cases h with
  | done => rfl
  | @more g _ _ _ hne hblank =>
    obtain ⟨c, g, rfl⟩ := List.exists_cons_of_ne_nil hne
    exact hblank c List.mem_cons_self

/-- A row is a row in the cut behind it. -/
theorem Row.cut (h : Row p a b w) (hcut : ∀ u v, w = u ++ v → p.CutAt (behind b u) v a) :
    Row p [] b w := by
  induction h with
  | done => exact .done
  | @more b g t w hne hblank ht hfirst _ ih =>
    have hhere : p.CutAt (behind b g) (t ++ w) a := hcut g (t ++ w) (List.append_assoc g t w)
    refine .more hne hblank ht (by rw [List.append_nil]; exact hhere.head?_eq hfirst) (ih ?_)
    intro u v huv
    rw [← behind_append]
    exact hcut (g ++ t ++ u) v (by rw [huv, ← List.append_assoc])

/-- A text is a run of blanks and something that does not begin with one. -/
theorem exists_blanks (text : List Char) : ∃ g x, text = g ++ x ∧ (∀ c ∈ g, isBlank c = true) ∧
    x.head?.any isBlank = false := by
  refine ⟨text.takeWhile isBlank, text.dropWhile isBlank, List.takeWhile_append_dropWhile.symm,
    fun c hc => List.mem_takeWhile_imp hc, ?_⟩
  have hnot := List.head?_dropWhile_not isBlank text
  cases hx : text.dropWhile isBlank with
  | nil => rfl
  | cons c x =>
    rw [hx] at hnot
    simpa using hnot

/-- What is preferred of a pattern behind a gap is the whole gap and what the pattern prefers
there. -/
theorem exists_of_head?_gap {Q : Option Char → List Char → Prop}
    (hopens : p.Opens fun c => !isBlank c) (hneeds : p.NeedsAt Q) {n : Nat} (hn : n ≤ w.length)
    (h : ((seq gap p).lengths b (w ++ a)).head? = some n) :
    ∃ g t rest, w = g ++ t ++ rest ∧ (g ++ t).length = n ∧ g ≠ [] ∧ (∀ c ∈ g, isBlank c = true) ∧
      t ≠ [] ∧ (p.lengths (behind b g) (t ++ rest ++ a)).head? = some t.length := by
  obtain ⟨g, x, hsplit, hblank, hsolid⟩ := exists_blanks (w ++ a)
  have hne : g ≠ [] := by
    rintro rfl
    have hgap : (seq gap p).Opens isBlank := opens_atLeastOne_char.seq
    have hsolid' : ¬ x.head?.any isBlank = true := by
      rw [hsolid]
      exact Bool.false_ne_true
    rw [hsplit, List.nil_append, hgap.lengths_eq_nil hsolid'] at h
    cases h
  rw [hsplit, lengths_gap_seq hopens hne hblank hsolid, List.head?_map, Option.map_eq_some_iff] at h
  obtain ⟨m, hm, rfl⟩ := h
  have hgw : g.length ≤ w.length := by omega
  obtain ⟨v, rfl, rfl⟩ : ∃ v, w = g ++ v ∧ x = v ++ a := by
    rcases List.append_eq_append_iff.mp hsplit with ⟨y, rfl, rfl⟩ | ⟨y, rfl, rfl⟩
    · obtain rfl : y = [] := by
        rw [List.length_append] at hgw
        exact List.length_eq_zero_iff.mp (by omega)
      exact ⟨[], by simp, by simp⟩
    · exact ⟨y, rfl, rfl⟩
  have hlength : (v.take m).length = m := by
    rw [List.length_append] at hn
    exact List.length_take_of_le (by omega)
  have hpos : 0 < m := hneeds.pos_of_mem_lengths (List.mem_of_head? hm)
  refine ⟨g, v.take m, v.drop m, ?_, ?_, hne, hblank, ?_, ?_⟩
  · rw [List.append_assoc, List.take_append_drop]
  · rw [List.length_append, hlength]
  · exact List.length_pos_iff.mp (hlength.symm ▸ hpos)
  · rw [List.take_append_drop, hlength]
    exact hm

/-- A repetition that is preferred is a row, if its item is the pattern behind a gap. -/
theorem row_of_head? {Q : Option Char → List Char → Prop} (hopens : p.Opens fun c => !isBlank c)
    (hneeds : p.NeedsAt Q)
    (hitem : ∀ b rest, item.lengths b rest = (seq gap p).lengths b rest)
    (hitemNeeds : item.NeedsAt Q)
    (h : ((many item).lengths b (w ++ a)).head? = some w.length) : Row p a b w := by
  -- the row goes on behind each item with what is left of it, which is shorter
  induction hsize : w.length using Nat.strongRecOn generalizing b w with
  | ind size ih =>
    rcases head?_lengths_many hitemNeeds h with hzero | ⟨m, k, hlength, hfirst, hrow⟩
    · rw [List.length_eq_zero_iff.mp hzero]
      exact .done
    · rw [hitem] at hfirst
      obtain ⟨g, t, rest, rfl, rfl, hne, hblank, ht, hnext⟩ :=
        exists_of_head?_gap hopens hneeds (by omega) hfirst
      rw [show (g ++ t ++ rest).length = (g ++ t).length + rest.length from List.length_append]
        at hlength
      obtain rfl : rest.length = k := Nat.add_left_cancel hlength
      rw [List.append_assoc (g ++ t), List.take_left, List.drop_left] at hrow
      refine .more hne hblank ht hnext (ih rest.length ?_ hrow rfl)
      have := List.length_pos_iff.mpr ht
      rw [← hsize, List.length_append, List.length_append]
      omega

/-- In a text of its own a word and the row behind it are what a search for words finds. -/
theorem covers_of_row (hopens : p.Opens fun c => !isBlank c) (h : Row p [] (behind b t) w)
    (ht : t ≠ []) (hfirst : (p.lengths b (t ++ w)).head? = some t.length) :
    Covers ((p.matchesAfter b (t ++ w)).map (·.text)) (t ++ w) := by
  generalize hb : behind b t = b' at h
  induction h generalizing b t with
  | done =>
    obtain ⟨m, hm, rfl⟩ := exists_matchAt?_of_head? ht hfirst
    rw [matchesAfter_found hm, matchesAfter_nil, List.append_nil]
    exact .one ht
  | @more b' g u w hne hblank hu hnext _ ih =>
    obtain ⟨m, hm, rfl⟩ := exists_matchAt?_of_head? ht hfirst
    have hquiet : p.Quiet b' g (u ++ w) :=
      hopens.quiet (nowhere_head fun c hc => by rw [hblank c hc]; rfl)
    rw [List.append_nil] at hnext
    rw [matchesAfter_found hm, hb, List.append_assoc, matchesAfter_quiet hquiet]
    exact .more ht hne hblank (ih hu hnext (behind_append b' g u).symm)

end Row

/-! ## The patterns for runs and for words -/

section Patterns

variable {words connectors : List String} {b : Option Char} {rest a : List Char}

/-- What goes on in a run is a word with its connector, behind a gap. -/
theorem lengths_item (word : Pattern) (connector : Option Pattern) :
    (inOrder [innerGap connector, word]).lengths b rest =
      (seq gap (tokenPattern word connector)).lengths b rest := by
  cases connector with
  | none =>
    show (seq gap word).lengths b rest = (seq gap (group 2 word)).lengths b rest
    simp only [lengths_seq, lengths_group]
  | some connector =>
    show (seq (seq gap (alt (seq connector gap) empty)) word).lengths b rest =
      (seq gap (seq (alt (seq (group 1 connector) gap) empty) (group 2 word))).lengths b rest
    rw [lengths_seq_assoc]
    simp only [lengths_seq, lengths_alt, lengths_group]

theorem needs_token (connector : Option Pattern) :
    (tokenPattern (pattern words) connector).Needs fun c => !isBlank c := by
  cases connector with
  | none => exact (needs_solid words).group 2
  | some connector => exact ((needs_solid words).group 2).seq_right

theorem cutAt_token
    (hcut : (behind b rest).any isAlphanumeric = true → a.head?.any isWordCharacter = false) :
    (tokenPattern (pattern words) (pattern? connectors)).CutAt b rest a := by
  have hword {u v : List Char} (hrest : rest = u ++ v) :
      (group 2 (pattern words)).CutAt (behind b u) v a :=
    (cutAt_pattern (by rwa [← behind_append, ← hrest]) words).group 2
  cases hconnector : pattern? connectors with
  | none => exact hword (List.nil_append rest).symm
  | some connector =>
    rw [eq_pattern_of_pattern? hconnector]
    have hfront : (seq (group 1 (pattern connectors)) gap).CutAt b rest a :=
      ((cutAt_pattern hcut connectors).group 1).seq fun _ _ _ _ _ => cutAt_gap
    exact hfront.optional.seq fun u v _ hrest _ => hword hrest

/-- In the preferred run a word is the preferred one, and the others make a row. -/
theorem exists_row {run : List Char}
    (h : ((runPattern (pattern words) (pattern? connectors)).lengths b (run ++ a)).head? =
      some run.length) :
    ∃ t w, run = t ++ w ∧ ((pattern words).lengths b (t ++ w ++ a)).head? = some t.length ∧
      Row (tokenPattern (pattern words) (pattern? connectors)) a (behind b t) w := by
  obtain ⟨m, k, hlength, hfirst, hrow⟩ := head?_lengths_seq h (lengths_many_ne_nil _)
  have hle : m ≤ run.length := by omega
  refine ⟨run.take m, run.drop m, (List.take_append_drop m run).symm, ?_, ?_⟩
  · rw [List.take_append_drop, List.length_take_of_le hle]
    exact hfirst
  · refine row_of_head? opens_tokenPattern (needs_token _) (fun _ _ => lengths_item _ _)
      (needsAt_inOrder (List.mem_cons_of_mem _ List.mem_cons_self) (needs_solid words)) ?_
    have hk : (run.drop m).length = k := by
      rw [List.length_drop]
      omega
    have htake : (run ++ a).take m = run.take m := List.take_append_of_le_length hle
    have hdrop : (run ++ a).drop m = run.drop m ++ a := List.drop_append_of_le_length hle
    rw [← htake, ← hdrop, hk]
    exact hrow

end Patterns

/-! ## The beginning of a run -/

/-- No entry of one list begins with all the words of an entry of the other. -/
def AreForeign (connectors words : List String) : Prop :=
  ∀ c ∈ connectors, ∀ p ∈ words, ¬ Text.words (entry c) <+: Text.words (entry p) ∧
    ¬ Text.words (entry p) <+: Text.words (entry c)

instance (connectors words : List String) : Decidable (AreForeign connectors words) :=
  inferInstanceAs (Decidable (∀ c ∈ connectors, ∀ p ∈ words, _ ∧ _))

/-- Where a text that spells an entry goes on at most with a blank, an entry that begins with this
one has all its words. -/
theorem words_prefix {e z v : List Char} (htidy : isTidyAfter false (e ++ z) = true)
    (h : Spells z v) (hv : v.head?.all isBlank = true) : words e <+: words (e ++ z) := by
  cases z with
  | nil => simp only [List.append_nil, List.prefix_refl]
  | cons f z =>
    have hspace : f = ' ' := by
      cases h with
      | gap => rfl
      | own =>
        have hblank : isBlank f = true := hv
        exact (eq_space_of_tidy htidy hblank).1
    rw [hspace, words_append_blank e (by decide)]
    exact List.prefix_append _ _

/-- In front of a number word no connector is read that has nothing in common with it. -/
theorem not_reads_connected {connectors words : List String}
    (hforeign : AreForeign connectors words) {e t rest : List Char} (he : e ∈ entries words) (hspells : Spells e t)
    (hrest : rest.head?.all isBlank = true) {q : Pattern} {b : Option Char} {w a : List Char}
    {k : List (Nat × List Char)} (htext : t ++ rest = w ++ a) :
    ¬ (seq (seq (group 1 (pattern connectors)) gap) q).Reads b w a k := by
  intro hread
  cases hread with
  | @seq _ _ _ front v _ _ _ hfront _ =>
    cases hfront with
    | @seq _ _ _ x g _ _ _ hx hg =>
      obtain ⟨hne, hblank, -⟩ := reads_gap.mp hg
      cases hx with
      | group hx =>
        obtain ⟨-, c, hc, hfits⟩ := reads_pattern.mp hx
        obtain ⟨-, p, hp, rfl⟩ := mem_entries.mp he
        obtain ⟨-, o, ho, rfl⟩ := mem_entries.mp hc
        obtain ⟨hshort, hlong⟩ := hforeign o ho p hp
        have hptidy := tidy_of_mem he
        have hotidy := tidy_of_mem hc
        have hgap {y : List Char} : (g ++ y).head?.all isBlank = true := by
          obtain ⟨d, g, rfl⟩ := List.exists_cons_of_ne_nil hne
          exact hblank d List.mem_cons_self
        -- the shorter of connector and number word is one of the first words of the longer
        rw [List.append_assoc, List.append_assoc] at htext
        rcases List.append_eq_append_iff.mp htext with ⟨y, rfl, hy⟩ | ⟨y, rfl, hy⟩
        · obtain ⟨z, hz, hspells'⟩ := spells_prefix hspells hfits.spells hptidy hotidy
          refine hlong (hz ▸ words_prefix (hz ▸ hotidy) hspells' ?_)
          cases y with
          | nil => rfl
          | cons d y =>
            rw [hy] at hrest
            exact hrest
        · obtain ⟨z, hz, hspells'⟩ := spells_prefix hfits.spells hspells hotidy hptidy
          refine hshort (hz ▸ words_prefix (hz ▸ hptidy) hspells' ?_)
          cases y with
          | nil => rfl
          | cons d y =>
            have hhead := hgap (y := v ++ a)
            rw [hy] at hhead
            exact hhead

/-- At the beginning of a run of its own the word that was preferred in the text still is. -/
theorem head?_lengths_token {connectors words : List String} (hletters : ∀ p ∈ words, IsLettered p)
    (hforeign : AreForeign connectors words) {b : Option Char} {t w a : List Char}
    (hfirst : ((pattern words).lengths b (t ++ w ++ a)).head? = some t.length)
    (hrest : w.head?.all isBlank = true)
    (hcut : (behind b (t ++ w)).any isAlphanumeric = true → a.head?.any isWordCharacter = false) :
    t ≠ [] ∧ ((tokenPattern (pattern words) (pattern? connectors)).lengths none (t ++ w)).head? =
      some t.length := by
  obtain ⟨v, r, k, hsplit, hlength, hread⟩ := mem_lengths.mp (List.mem_of_head? hfirst)
  obtain ⟨rfl, rfl⟩ := List.append_inj ((List.append_assoc t w a).symm.trans hsplit) hlength.symm
  obtain ⟨-, e, he, hfits⟩ := reads_pattern.mp hread
  have htidy := tidy_of_mem he
  have hnone : b.any isWordCharacter = (none : Option Char).any isWordCharacter :=
    hfits.before (hasWordEnds_of_mem hletters he) htidy
  have hword : ((group 2 (pattern words)).lengths none (t ++ w)).head? = some t.length := by
    rw [lengths_group, ← lengths_congr _ _ hnone]
    exact (cutAt_pattern hcut words).head?_eq hfirst
  refine ⟨ne_nil_of_spells hfits.spells htidy, ?_⟩
  cases hconnector : pattern? connectors with
  | none => exact hword
  | some connector =>
    rw [eq_pattern_of_pattern? hconnector]
    have hfront : (seq (seq (group 1 (pattern connectors)) gap) (group 2 (pattern words))).lengths
        none (t ++ w) = [] := by
      rw [List.eq_nil_iff_forall_not_mem]
      intro n hn
      obtain ⟨u, v, k, hsplit, -, hread⟩ := mem_lengths.mp hn
      exact not_reads_connected hforeign he hfits.spells hrest hsplit hread
    show ((seq (optional (seq (group 1 (pattern connectors)) gap))
      (group 2 (pattern words))).lengths none (t ++ w)).head? = _
    rw [lengths_optional_seq, hfront, List.nil_append]
    exact hword

/-! ## The values of the words -/

/-- Each number word has a value under its kept form. -/
theorem isSome_lookup {code : String} {numbers : List (String × String)}
    {values : List (List Char × Nat)} (h : readValues code numbers = .ok values) {word : String}
    (hword : word ∈ numbers.map (·.1)) : (values.lookup (entry word)).isSome = true := by
  induction numbers generalizing values with
  | nil => cases hword
  | cons number numbers ih =>
    obtain ⟨name, digits⟩ := number
    rw [readValues] at h
    split at h
    · cases h
    · cases hrest : readValues code numbers with
      | error fault =>
        rw [hrest] at h
        cases h
      | ok rest =>
        rw [hrest] at h
        cases h
        rw [List.lookup_append, Option.isSome_or, Bool.or_eq_true]
        rcases List.mem_cons.mp hword with rfl | hword
        · refine Or.inr ?_
          rw [List.lookup_cons_self, Option.isSome_some]
        · exact Or.inl (ih hrest hword)

/-- What is kept of a match for a word is a number word. -/
theorem exists_word {words : List String} {connector : Option Pattern} {b : Option Char}
    {w a : List Char} {k : List (Nat × List Char)}
    (h : (tokenPattern (pattern words) connector).Reads b w a k) :
    ∃ b v, k.lookup 2 = some v ∧ Finds words b v a := by
  have hword {b : Option Char} {v : List Char} {kept : List (Nat × List Char)}
      (h : (group 2 (pattern words)).Reads b v a kept) :
      kept = [(2, v)] ∧ Finds words b v a := by
    cases h with
    | group h =>
      obtain ⟨rfl, hfinds⟩ := reads_pattern.mp h
      exact ⟨rfl, hfinds⟩
  cases connector with
  | none =>
    obtain ⟨rfl, hfinds⟩ := hword h
    exact ⟨b, w, rfl, hfinds⟩
  | some connector =>
    cases h with
    | @seq _ _ _ u v _ _ _ _ hv =>
      obtain ⟨rfl, hfinds⟩ := hword hv
      exact ⟨behind b u, v, rfl, hfinds⟩

/-- Each word that is found in any text has a value. -/
theorem isSome_valueOf {pack : LanguagePack} {reader : Reader}
    (h : Reader.ofPack? pack = .ok (some reader)) {text : List Char} {m : Match}
    (hm : m ∈ reader.token.matchesIn text) : (reader.valueOf? (m.group 2)).isSome = true := by
  obtain ⟨-, htoken, hvalues⟩ := reader_of_ofPack? h
  obtain ⟨b, a, hm⟩ := exists_of_mem_matchesAfter hm
  obtain ⟨-, a', -, hread⟩ := reads_of_matchAt? hm
  rw [htoken] at hread
  obtain ⟨b', v, hkept, e, he, hfits⟩ := exists_word hread
  have hcollapse := collapse_of_spells hfits.spells (tidy_of_mem he)
  obtain ⟨-, word, hword, rfl⟩ := mem_entries.mp he
  have hkey : lowercase (collapse (m.group 2)) = entry word := by
    rw [Match.group, Match.group?, hkept, Option.getD_some, hcollapse, entry, lowercase_lowercase]
  rw [Reader.valueOf?, hkey]
  exact isSome_lookup hvalues hword

/-- Where each word has a value a run has tokens, one for each word. -/
theorem exists_tokens {reader : Reader} {run : List Char}
    (h : ∀ m ∈ reader.token.matchesIn run, (reader.valueOf? (m.group 2)).isSome = true) :
    ∃ tokens, reader.tokens? run = some tokens ∧
      tokens.length = (reader.token.matchesIn run).length := by
  unfold Reader.tokens?
  generalize reader.token.matchesIn run = found at h
  induction found with
  | nil => exact ⟨[], rfl, rfl⟩
  | cons m ms ih =>
    obtain ⟨hm, hms⟩ := List.forall_mem_cons.mp h
    obtain ⟨tokens, htokens, hlength⟩ := ih hms
    obtain ⟨value, hvalue⟩ := Option.isSome_iff_exists.mp hm
    refine ⟨⟨value, m.group? 1⟩ :: tokens, ?_, by rw [List.length_cons, hlength, List.length_cons]⟩
    rw [List.mapM_cons, htokens, Reader.tokenOf?, hvalue]
    rfl

/-! ## Runs are read -/

/-- A match for a run, as against one for a protected phrase. -/
theorem of_matchAt?_run {pack : LanguagePack} {b : Option Char} {rest run : List Char} {m : Match}
    (hm : (runOf pack).matchAt? b rest = some m) (hrun : m.group? 2 = some run) :
    run = m.text ∧ (group 2 (runPattern (pattern (numberNames pack))
      (pattern? (pack.words .numberConnectors)))).matchAt? b rest = some m := by
  rw [runOf, matchAt?_alt] at hm
  cases hprotected : (group 1 (pattern (protectedPhrases pack))).matchAt? b rest with
  | some m' =>
    rw [hprotected, Option.some_or, Option.some.injEq] at hm
    obtain ⟨-, a, -, hread⟩ := reads_of_matchAt? (hm ▸ hprotected)
    obtain ⟨-, hgroups⟩ := reads_protected hread
    rw [Match.group?, hgroups] at hrun
    cases hrun
  | none =>
    rw [hprotected, Option.none_or] at hm
    obtain ⟨-, a, -, hread⟩ := reads_of_matchAt? hm
    refine ⟨?_, hm⟩
    generalize hgroups : m.groups = groups at hread
    cases hread with
    | group hread =>
      rw [Match.group?, hgroups] at hrun
      exact (Option.some.inj hrun).symm

/-- Where the number words and connectors of a pack begin and end with letters and no connector and
number word begin one with all words of the other, cutting a run into its words finds every one of
them: the words cover the run, each has a value, and the run is read as their tokens. -/
theorem run_covered {pack : LanguagePack} {lexicon : Lexicon}
    (hlexicon : Lexicon.ofPack pack = .ok lexicon) {reader : Reader}
    (hreader : lexicon.numberWords = some reader)
    (hletters : ∀ p ∈ numberNames pack ++ pack.words .numberConnectors, IsLettered p)
    (hforeign : AreForeign (pack.words .numberConnectors) (numberNames pack))
    {text run : List Char} {m : Match} (hm : m ∈ reader.run.matchesIn text)
    (hrun : m.group? 2 = some run) :
    run = m.text ∧ Covers ((reader.token.matchesIn run).map (·.text)) run ∧
      (∀ t ∈ reader.token.matchesIn run, (reader.valueOf? (t.group 2)).isSome = true) ∧
      ∃ tokens, reader.tokens? run = some tokens ∧ tokens ≠ [] ∧
        reader.decode run = foldText tokens := by
  have hof : Reader.ofPack? pack = .ok (some reader) :=
    hreader ▸ (Lexicon.isOf_of_ofPack hlexicon).numberWords
  obtain ⟨hrunOf, htoken, -⟩ := reader_of_ofPack? hof
  have hwords : ∀ p ∈ numberNames pack, IsLettered p :=
    fun p hp => hletters p (List.mem_append_left _ hp)
  obtain ⟨b, a, hm⟩ := exists_of_mem_matchesAfter hm
  rw [hrunOf] at hm
  obtain ⟨rfl, hm⟩ := of_matchAt?_run hm hrun
  obtain ⟨-, a', ha, hread⟩ := reads_of_matchAt? hm
  obtain rfl := List.append_cancel_left ha
  -- the run in the text: no word goes on behind it, and it is a word and a row
  have hneeds : (group 2 (runPattern (pattern (numberNames pack))
      (pattern? (pack.words .numberConnectors)))).Needs fun c => !isBlank c :=
    (needsAt_inOrder List.mem_cons_self (needs_solid _)).group 2
  have hsealed :=
    (((seals_pattern hwords).seq_many (seals_pattern hwords).seq).group 2) _ _ _ _ hread
  have hfirst := head?_lengths_of_matchAt? hneeds hm
  rw [lengths_group] at hfirst
  obtain ⟨t, w, hsplit, hword, hrow⟩ := exists_row hfirst
  rw [hsplit] at hsealed
  -- the run cut out of the text
  obtain ⟨ht, hstart⟩ := head?_lengths_token hwords hforeign hword hrow.head hsealed
  have hcut := hrow.cut fun u v huv => cutAt_token fun hlast => hsealed (by
    rw [behind_append, huv, behind_append]
    exact hlast)
  rw [behind_congr ht b none] at hcut
  have hcovers : Covers ((reader.token.matchesIn m.text).map (·.text)) m.text := by
    rw [htoken, hsplit]
    exact covers_of_row opens_tokenPattern hcut ht hstart
  have hvalues : ∀ t ∈ reader.token.matchesIn m.text, (reader.valueOf? (t.group 2)).isSome = true :=
    fun t ht => isSome_valueOf hof ht
  obtain ⟨tokens, htokens, hlength⟩ := exists_tokens hvalues
  have hne : tokens ≠ [] := by
    rintro rfl
    have hnone := List.length_eq_zero_iff.mp hlength.symm
    exact hcovers.ne_nil (by rw [hnone]; rfl)
  refine ⟨rfl, hcovers, hvalues, tokens, htokens, hne, ?_⟩
  rw [Reader.decode, htokens]
  cases tokens with
  | nil => exact absurd rfl hne
  | cons => rfl

/-- A number word with a connector in it is found before the shorter ones that it begins with. -/
theorem run_covered_connected : ∃ lexicon reader m, Lexicon.ofPack connectedPack = .ok lexicon ∧
    lexicon.numberWords = some reader ∧
    m ∈ reader.run.matchesIn "so twenty and  five and twenty five".toList ∧
    m.group? 2 = some "twenty and  five and twenty five".toList ∧
    Covers ((reader.token.matchesIn m.text).map (·.text)) m.text ∧
    ∃ tokens, reader.tokens? m.text = some tokens ∧ tokens ≠ [] ∧
      reader.decode m.text = foldText tokens := by
  have hlexicon : Lexicon.ofPack connectedPack = .ok _ := rfl
  obtain ⟨m, hm, hrun⟩ : ∃ m ∈ (runOf connectedPack).matchesIn
      "so twenty and  five and twenty five".toList,
      m.group? 2 = some "twenty and  five and twenty five".toList := by decide +kernel
  obtain ⟨htext, hcovers, -, htokens⟩ :=
    run_covered hlexicon rfl (by decide +kernel) (by decide +kernel) hm hrun
  rw [htext] at hcovers htokens
  exact ⟨_, _, m, hlexicon, rfl, hm, hrun, hcovers, htokens⟩

end CalcSpeech.NumberWord
