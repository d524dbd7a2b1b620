import CalcSpeech.Proofs.Json.Spelling
import Mathlib.Data.List.DropRight

/-!
# What is spelled is read

Reading a text that spells a value gives the value, whatever comes behind it (`readValue_spelled`).
What comes behind a number must not go on with it: `Stops` says of a rest that it begins with what may
stand behind a value. The fuel that is spent is at most three for each character.
-/

namespace CalcSpeech.Json

/-- A rest of a text that begins with what may stand behind a value, or with nothing. -/
def Stops (rest : List Char) : Prop :=
  ∀ c, rest.head? = some c → isSpace c = true ∨ c = ',' ∨ c = ']' ∨ c = '\x7d'

theorem stops_nil : Stops [] := by
  intro c h
  cases h

theorem stops_cons {c : Char} {rest : List Char}
    (h : isSpace c = true ∨ c = ',' ∨ c = ']' ∨ c = '\x7d') : Stops (c :: rest) := by
  intro d hd
  obtain rfl := Option.some.inj hd
  exact h

/-- Blanks in front of a rest that stops are a rest that stops. -/
theorem IsSpace.stops {blanks rest : List Char} (h : IsSpace blanks) (hrest : Stops rest) :
    Stops (blanks ++ rest) := by
  cases blanks with
  | nil => exact hrest
  | cons c blanks => exact stops_cons (Or.inl (h c List.mem_cons_self))

/-- What stops a value is none of the characters with which a number goes on. -/
theorem Stops.head {rest : List Char} (h : Stops rest) {c : Char} (hc : rest.head? = some c) :
    c.isDigit = false ∧ c ≠ '.' ∧ c ≠ 'e' ∧ c ≠ 'E' := by
  rcases h c hc with hspace | rfl | rfl | rfl
  · simp only [isSpace, Bool.or_eq_true, beq_iff_eq] at hspace
    rcases hspace with ((rfl | rfl) | rfl) | rfl <;> decide
  · decide
  · decide
  · decide

/-- Blanks in front of something else are skipped. -/
theorem skipSpace_append {blanks : List Char} (h : IsSpace blanks) {c : Char}
    (hc : isSpace c = false) (rest : List Char) :
    skipSpace (blanks ++ c :: rest) = c :: rest := by
  rw [skipSpace, List.dropWhile_append_of_pos h, List.dropWhile_cons_of_neg (by rw [hc]; decide)]

/-! ## Quoted texts -/

/-- The units of a quoted text are read up to the quote behind them. -/
theorem readUnits?_spelled {units : List Unit16} {parts : List (List Char)}
    (h : List.Forall₂ SpellsUnit units parts) (rest : List Char) {fuel : Nat}
    (hfuel : parts.flatten.length < fuel) :
    readUnits? fuel (parts.flatten ++ '"' :: rest) = some (units, rest) := by
  induction h generalizing fuel with
  | nil =>
    obtain ⟨fuel, rfl⟩ : ∃ n, fuel = n + 1 := ⟨fuel - 1, by omega⟩
    rw [List.flatten_nil, List.nil_append, readUnits?]
  | cons hunit _ ih =>
    rw [List.flatten_cons, List.length_append] at hfuel
    rw [List.flatten_cons, List.append_assoc]
    obtain ⟨fuel, rfl⟩ : ∃ n, fuel = n + 1 := ⟨fuel - 1, by omega⟩
    cases hunit with
    | plain hquote hslash hlow =>
      have hrest := ih (show _ < fuel by rw [List.length_singleton] at hfuel; omega)
      rw [List.singleton_append, readUnits?, if_neg (by rintro (h | h) <;> [exact hslash h; omega]),
        hrest]
      · rfl
      · exact hquote
      · exact fun _ h => absurd h hslash
      · exact fun _ _ h => absurd h hslash
    | escape hescape =>
      have hrest := ih (show _ < fuel by rw [List.length_cons] at hfuel; omega)
      rw [List.cons_append, List.singleton_append, readUnits?, hescape, Option.bind_eq_bind,
        Option.bind_some, hrest]
      · rfl
      · rintro rfl
        have hnone : escaped? 'u' = none := by decide
        rw [hnone] at hescape
        cases hescape
    | hex ha hb hc hd =>
      have hrest := ih (show _ < fuel by rw [List.length_cons] at hfuel; omega)
      show readUnits? (fuel + 1) ('\\' :: 'u' :: _ :: _ :: _ :: _ :: (_ ++ _)) = _
      rw [readUnits?, readHex?, ha, hb, hc, hd]
      simp only [Option.bind_eq_bind, Option.bind_some, Option.pure_def, List.nil_append, hrest]

/-- A quoted text is read behind its opening quote. -/
theorem readQuoted?_spelled {s : Option String} {quoted : List Char} (h : SpellsQuoted s quoted)
    (rest : List Char) : ∃ body cs, quoted = '"' :: body ∧ s = cs.map String.ofList ∧
      readQuoted? (body ++ rest) = some (cs, rest) := by
  obtain ⟨units, body, ⟨parts, hparts, rfl⟩, rfl, rfl⟩ := h
  refine ⟨parts.flatten ++ ['"'], joinUnits? units, rfl, rfl, ?_⟩
  rw [List.append_assoc, List.singleton_append, readQuoted?,
    readUnits?_spelled hparts rest (by rw [List.length_append]; omega)]
  rfl

/-! ## Numbers -/

/-- Digits are read up to what is no digit. -/
theorem readDigits?_append {digits rest : List Char} (h : IsPlainDigits digits)
    (hrest : ∀ c, rest.head? = some c → c.isDigit = false) :
    readDigits? (digits ++ rest) = some (digits, rest) := by
  have htake : rest.takeWhile Char.isDigit = [] := by
    cases rest with
    | nil => rfl
    | cons c rest => rw [List.takeWhile_cons_of_neg (by rw [hrest c rfl]; decide)]
  have hdrop : rest.dropWhile Char.isDigit = rest := by
    cases rest with
    | nil => rfl
    | cons c rest => rw [List.dropWhile_cons_of_neg (by rw [hrest c rfl]; decide)]
  rw [readDigits?, List.takeWhile_append_of_pos h.2, List.dropWhile_append_of_pos h.2, htake, hdrop,
    List.append_nil, List.isEmpty_eq_false_iff.mpr h.1]
  rfl

/-- The digits in front of the point are read up to it. -/
theorem readWhole?_append {whole rest : List Char} (h : IsWhole whole)
    (hrest : ∀ c, rest.head? = some c → c.isDigit = false) :
    readWhole? (whole ++ rest) = some (whole, rest) := by
  rw [readWhole?, readDigits?_append h.1 hrest]
  exact if_neg fun hzero => hzero.2 (h.2 hzero.1)

/-- The decimals are read with their point. -/
theorem readFraction?_append {decimals point rest : List Char} (h : SpellsFraction decimals point)
    (hrest : ∀ c, rest.head? = some c → c.isDigit = false ∧ c ≠ '.') :
    readFraction? (point ++ rest) = some (decimals, rest) := by
  cases h with
  | none =>
    cases rest with
    | nil => rfl
    | cons c rest =>
      rw [List.nil_append, readFraction?]
      exact fun _ h => (hrest c rfl).2 (List.cons.inj h).1
  | point hdigits => exact readDigits?_append hdigits fun c hc => (hrest c hc).1

/-- The exponent is read with its letter and its sign. -/
theorem readExponent?_append {exponent : Int} {power rest : List Char}
    (h : SpellsExponent exponent power)
    (hrest : ∀ c, rest.head? = some c → c.isDigit = false ∧ c ≠ 'e' ∧ c ≠ 'E') :
    readExponent? (power ++ rest) = some (exponent, rest) := by
  have hdigit : ∀ c, rest.head? = some c → c.isDigit = false := fun c hc => (hrest c hc).1
  have hletter {letter : Char} (h : letter = 'e' ∨ letter = 'E') (source : List Char) :
      readExponent? (letter :: source) = readSigned? source := by
    rcases h with rfl | rfl <;> rw [readExponent?]
  cases h with
  | none =>
    cases rest with
    | nil => rfl
    | cons c rest =>
      rw [List.nil_append, readExponent?]
      · exact fun _ h => (hrest c rfl).2.1 (List.cons.inj h).1
      · exact fun _ h => (hrest c rfl).2.2 (List.cons.inj h).1
  | @bare letter digits hl hdigits =>
    rw [List.cons_append, hletter hl]
    obtain ⟨c, digits, rfl⟩ := List.exists_cons_of_ne_nil hdigits.1
    have hc := hdigits.2 c List.mem_cons_self
    have hread := readDigits?_append hdigits hdigit
    rw [List.cons_append] at hread ⊢
    rw [readSigned?, hread, Option.map_some]
    · rintro _ h
      rw [(List.cons.inj h).1] at hc
      exact absurd hc (by decide)
    · rintro _ h
      rw [(List.cons.inj h).1] at hc
      exact absurd hc (by decide)
  | plus hl hdigits =>
    rw [List.cons_append, hletter hl, List.cons_append, readSigned?,
      readDigits?_append hdigits hdigit, Option.map_some]
  | minus hl hdigits =>
    rw [List.cons_append, hletter hl, List.cons_append, readSigned?,
      readDigits?_append hdigits hdigit, Option.map_some]

/-- What follows the digits in front of a point is the point, an exponent or the end. -/
theorem readNumber?_spelled {inRange : Bool} {text : List Char} (h : SpellsUnsigned inRange text)
    {rest : List Char} (hrest : Stops rest) :
    readNumber? (text ++ rest) = some (inRange, rest) := by
  cases h with
  | @mk whole decimals point exponent power hwhole hpoint hpower =>
    -- an exponent is told from digits and from a point by its letter, a point from digits
    have hbehindPoint : ∀ c, (power ++ rest).head? = some c → c.isDigit = false ∧ c ≠ '.' := by
      intro c hc
      cases hpower with
      | none => exact ⟨(hrest.head hc).1, (hrest.head hc).2.1⟩
      | bare hl | plus hl | minus hl =>
        obtain rfl := Option.some.inj hc
        rcases hl with rfl | rfl <;> decide
    have hbehindWhole : ∀ c, (point ++ (power ++ rest)).head? = some c → c.isDigit = false := by
      intro c hc
      cases hpoint with
      | none => exact (hbehindPoint c hc).1
      | point =>
        obtain rfl := Option.some.inj hc
        decide
    rw [List.append_assoc, List.append_assoc, readNumber?, readWhole?_append hwhole hbehindWhole]
    simp only [Option.bind_eq_bind, Option.bind_some]
    rw [readFraction?_append hpoint hbehindPoint]
    simp only [Option.bind_some]
    rw [readExponent?_append hpower fun c hc =>
      ⟨(hrest.head hc).1, (hrest.head hc).2.2.1, (hrest.head hc).2.2.2⟩]
    rfl

/-- The first character of a number without a sign is a digit. -/
theorem SpellsUnsigned.head {inRange : Bool} {text : List Char} (h : SpellsUnsigned inRange text) :
    ∃ c rest, text = c :: rest ∧ c.isDigit = true := by
  cases h with
  | mk hwhole hpoint hpower =>
    obtain ⟨c, rest, rfl⟩ := List.exists_cons_of_ne_nil hwhole.1.1
    exact ⟨c, _, rfl, hwhole.1.2 c List.mem_cons_self⟩

/-- The first character of a number opens no list and no record. -/
theorem SpellsNumber.head {inRange : Bool} {text : List Char} (h : SpellsNumber inRange text) :
    ∃ c rest, text = c :: rest ∧ c ≠ '[' ∧ c ≠ '\x7b' := by
  cases h with
  | minus _ => exact ⟨'-', _, rfl, by decide⟩
  | plain hnumber =>
    obtain ⟨c, rest, rfl, hc⟩ := hnumber.head
    refine ⟨c, rest, rfl, ?_, ?_⟩ <;>
    · rintro rfl
      exact absurd hc (by decide)

/-! ## Values -/

/-- A number is read with its sign. -/
theorem readScalar?_number {inRange : Bool} {text : List Char} (h : SpellsNumber inRange text)
    {rest : List Char} (hrest : Stops rest) :
    readScalar? (text ++ rest) = some (.number inRange, rest) := by
  cases h with
  | minus hnumber =>
    rw [List.cons_append, readScalar?, readNumber?_spelled hnumber hrest]
    rfl
  | plain hnumber =>
    have hread := readNumber?_spelled hnumber hrest
    obtain ⟨c, digits, rfl, hc⟩ := hnumber.head
    have hne {d : Char} (hd : d.isDigit = false) : c ≠ d := by
      rintro rfl
      rw [hd] at hc
      cases hc
    rw [List.cons_append] at hread ⊢
    rw [readScalar?, hread, Option.map_some]
    · exact fun _ h => absurd (List.cons.inj h).1 (hne (by decide))
    · exact fun _ h => absurd (List.cons.inj h).1 (hne (by decide))
    · exact fun _ h => absurd (List.cons.inj h).1 (hne (by decide))
    · exact fun _ h => absurd (List.cons.inj h).1 (hne (by decide))
    · exact fun _ h => absurd (List.cons.inj h).1 (hne (by decide))

/-- The first character of a value is no blank and ends no list or record. -/
theorem Spells.exists_cons {value : Draft} {text : List Char} (h : Spells value text) :
    ∃ c rest, text = c :: rest ∧ isSpace c = false ∧ c ≠ ']' := by
  cases value with
  | broken => exact absurd h (by simp [Spells])
  | null =>
    rw [Spells] at h
    exact ⟨'n', _, h, by decide⟩
  | bool b =>
    rw [Spells] at h
    cases b with
    | true => exact ⟨'t', _, h, by decide⟩
    | false => exact ⟨'f', _, h, by decide⟩
  | number inRange =>
    rw [Spells] at h
    cases h with
    | minus _ => exact ⟨'-', _, rfl, by decide⟩
    | plain hnumber =>
      obtain ⟨c, rest, rfl, hc⟩ := hnumber.head
      refine ⟨c, rest, rfl, ?_, ?_⟩
      · rw [Bool.eq_false_iff]
        intro hspace
        simp only [isSpace, Bool.or_eq_true, beq_iff_eq] at hspace
        rcases hspace with ((rfl | rfl) | rfl) | rfl <;> exact absurd hc (by decide)
      · rintro rfl
        exact absurd hc (by decide)
  | text s =>
    rw [Spells] at h
    obtain ⟨_, _, _, rfl, _⟩ := h
    exact ⟨'"', _, rfl, by decide⟩
  | list items closed =>
    rw [Spells] at h
    obtain ⟨_, _, rfl, _⟩ := h
    exact ⟨'[', _, rfl, by decide⟩
  | record fields closed =>
    rw [Spells] at h
    obtain ⟨_, _, rfl, _⟩ := h
    exact ⟨'\x7b', _, rfl, by decide⟩

/-- What a value without parts is read as. -/
theorem readValue_scalar {source rest : List Char} {value : Draft}
    (hlist : ∀ more, skipSpace source ≠ '[' :: more)
    (hrecord : ∀ more, skipSpace source ≠ '\x7b' :: more)
    (h : readScalar? (skipSpace source) = some (value, rest)) (fuel : Nat) :
    readValue (fuel + 1) source = (value, some rest) := by
  rw [readValue]
  split
  · exact absurd ‹_› (hlist _)
  · exact absurd ‹_› (hrecord _)
  · rw [h]

/-- Blanks in front make no difference to what is read. -/
theorem readValue_skipSpace (fuel : Nat) (source : List Char) :
    readValue fuel (skipSpace source) = readValue fuel source := by
  cases fuel with
  | zero => rfl
  | succ fuel => rw [readValue, readValue, skipSpace, skipSpace, List.dropWhile_idempotent]

theorem readItem_skipSpace (fuel : Nat) (source : List Char) :
    readItem fuel (skipSpace source) = readItem fuel source := by
  cases fuel with
  | zero => rfl
  | succ fuel => rw [readItem, readItem, readValue_skipSpace]

/-- The end of an empty list. -/
theorem readItems_end {first : Bool} {blanks : List Char} (h : IsSpace blanks) (rest : List Char)
    (fuel : Nat) : readItems (fuel + 1) first (blanks ++ ']' :: rest) = ([], some rest) := by
  unfold readItems
  rw [skipSpace_append h (by decide)]
  cases first <;> rfl

/-- The first item of a list. -/
theorem readItems_first {source : List Char} {c : Char} {more : List Char}
    (h : skipSpace source = c :: more) (hc : c ≠ ']') (fuel : Nat) :
    readItems (fuel + 1) true source = readItem fuel source := by
  rw [← readItem_skipSpace fuel source, h]
  unfold readItems
  rw [h]
  split
  · rename_i heq
    exact absurd (List.cons.inj heq).1 hc
  · rename_i hfirst _
    cases hfirst
  · rfl
  · rename_i hnot _ _
    exact absurd rfl hnot

/-- A further item of a list, behind a comma. -/
theorem readItems_comma {blanks : List Char} (h : IsSpace blanks) (source : List Char)
    (fuel : Nat) : readItems (fuel + 1) false (blanks ++ ',' :: source) = readItem fuel source := by
  unfold readItems
  rw [skipSpace_append h (by decide)]
  rfl

/-- The end of an empty record. -/
theorem readFields_end {first : Bool} {blanks : List Char} (h : IsSpace blanks) (rest : List Char)
    (fuel : Nat) : readFields (fuel + 1) first (blanks ++ '\x7d' :: rest) = ([], some rest) := by
  unfold readFields
  rw [skipSpace_append h (by decide)]
  cases first <;> rfl

/-- The first field of a record. -/
theorem readFields_first {source more : List Char} (h : skipSpace source = '"' :: more)
    (fuel : Nat) : readFields (fuel + 1) true source = readField fuel (skipSpace source) := by
  unfold readFields
  rw [h]
  rfl

/-- A further field of a record, behind a comma. -/
theorem readFields_comma {blanks : List Char} (h : IsSpace blanks) (source : List Char)
    (fuel : Nat) :
    readFields (fuel + 1) false (blanks ++ ',' :: source) = readField fuel (skipSpace source) := by
  unfold readFields
  rw [skipSpace_append h (by decide)]
  rfl

/-- The first item of a list does not begin like its end. -/
theorem spellsItems_head {item : Draft} {items : List Draft} {body : List Char}
    (h : SpellsItems (item :: items) body) (rest : List Char) :
    ∃ c more, skipSpace (body ++ ']' :: rest) = c :: more ∧ c ≠ ']' := by
  rw [SpellsItems] at h
  obtain ⟨lead, text, trail, behind, rfl, hlead, -, hitem, -⟩ := h
  obtain ⟨c, more, rfl, hspace, hc⟩ := hitem.exists_cons
  refine ⟨c, more ++ (trail ++ (behind ++ ']' :: rest)), ?_, hc⟩
  simp only [List.append_assoc, List.cons_append, skipSpace_append hlead hspace]

/-- The first field of a record begins with a quote. -/
theorem spellsFields_head {field : Option String × Draft}
    {fields : List (Option String × Draft)} {body : List Char}
    (h : SpellsFields (field :: fields) body) (rest : List Char) :
    ∃ more, skipSpace (body ++ '\x7d' :: rest) = '"' :: more := by
  obtain ⟨name, value⟩ := field
  rw [SpellsFields] at h
  obtain ⟨lead, quoted, gap, front, text, trail, behind, rfl, hlead, -, -, -, hname, -, -⟩ := h
  obtain ⟨units, inner, -, rfl, -⟩ := hname
  simp only [List.append_assoc, List.cons_append,
    skipSpace_append hlead (show isSpace '"' = false by decide)]
  exact ⟨_, rfl⟩

mutual

/-- A value that is spelled is read, and what stands behind it is left. -/
theorem readValue_spelled : ∀ (value : Draft) (fuel : Nat) {lead source rest : List Char},
    Spells value source → IsSpace lead → Stops rest → 3 * source.length ≤ fuel →
    readValue fuel (lead ++ (source ++ rest)) = (value, some rest)
  | value, fuel, lead, source, rest, h, hlead, hrest, hfuel => by
    obtain ⟨c, more, htext, hspace, -⟩ := h.exists_cons
    have hskip : skipSpace (lead ++ (source ++ rest)) = source ++ rest := by
      rw [htext, List.cons_append, skipSpace_append hlead hspace]
    obtain ⟨fuel, rfl⟩ : ∃ n, fuel = n + 1 :=
      ⟨fuel - 1, by rw [htext, List.length_cons] at hfuel; omega⟩
    match value with
    | .broken => exact absurd h (by simp [Spells])
    | .null =>
      rw [Spells] at h
      subst h
      exact readValue_scalar (by rw [hskip]; simp) (by rw [hskip]; simp) (by rw [hskip]; rfl) fuel
    | .bool b =>
      rw [Spells] at h
      subst h
      cases b <;>
        exact readValue_scalar (by rw [hskip]; simp) (by rw [hskip]; simp) (by rw [hskip]; rfl) fuel
    | .number inRange =>
      rw [Spells] at h
      obtain ⟨d, digits, hd, hlist, hrecord⟩ := h.head
      refine readValue_scalar ?_ ?_ (by rw [hskip]; exact readScalar?_number h hrest) fuel
      · intro tail heq
        rw [hskip, hd] at heq
        exact hlist (List.cons.inj heq).1
      · intro tail heq
        rw [hskip, hd] at heq
        exact hrecord (List.cons.inj heq).1
    | .text s =>
      rw [Spells] at h
      obtain ⟨body, cs, rfl, rfl, hread⟩ := readQuoted?_spelled h rest
      refine readValue_scalar (by rw [hskip]; simp) (by rw [hskip]; simp) ?_ fuel
      rw [hskip, List.cons_append, readScalar?, hread]
      rfl
    | .list items closed =>
      rw [Spells] at h
      obtain ⟨rfl, body, rfl, hbody⟩ := h
      -- the brackets pay for the steps that lead to the first item
      have hsource : '[' :: body ++ [']'] ++ rest = '[' :: (body ++ ']' :: rest) := by simp
      rw [hsource] at hskip
      rw [List.length_append, List.length_cons, List.length_singleton] at hfuel
      unfold readValue
      rw [hsource, hskip]
      obtain ⟨fuel, rfl⟩ : ∃ n, fuel = n + 1 := ⟨fuel - 1, by omega⟩
      match items with
      | [] =>
        rw [SpellsItems] at hbody
        simp only [readItems_end hbody, Option.isSome_some]
      | item :: items =>
        obtain ⟨d, tail, hfirst, hd⟩ := spellsItems_head hbody rest
        have hread := readItem_spelled item items rest fuel hbody (by omega)
        simp only [readItems_first hfirst hd, hread, Option.isSome_some]
    | .record fields closed =>
      rw [Spells] at h
      obtain ⟨rfl, body, rfl, hbody⟩ := h
      have hsource : '\x7b' :: body ++ ['\x7d'] ++ rest = '\x7b' :: (body ++ '\x7d' :: rest) := by
        simp
      rw [hsource] at hskip
      rw [List.length_append, List.length_cons, List.length_singleton] at hfuel
      unfold readValue
      rw [hsource, hskip]
      obtain ⟨fuel, rfl⟩ : ∃ n, fuel = n + 1 := ⟨fuel - 1, by omega⟩
      match fields with
      | [] =>
        rw [SpellsFields] at hbody
        simp only [readFields_end hbody, Option.isSome_some]
      | field :: fields =>
        obtain ⟨tail, hfirst⟩ := spellsFields_head hbody rest
        have hread := readField_spelled field fields rest fuel hbody (by omega)
        simp only [readFields_first hfirst, hread, Option.isSome_some]
termination_by _ fuel => fuel

/-- The items of a list are read up to its end. -/
theorem readItem_spelled : ∀ (item : Draft) (items : List Draft) (rest : List Char) (fuel : Nat)
    {body : List Char}, SpellsItems (item :: items) body → 3 * body.length < fuel →
    readItem fuel (body ++ ']' :: rest) = (item :: items, some rest)
  | item, items, rest, fuel, body, h, hfuel => by
    rw [SpellsItems] at h
    obtain ⟨lead, text, trail, behind, rfl, hlead, htrail, hitem, hbehind⟩ := h
    obtain ⟨c, more, htext, -, -⟩ := hitem.exists_cons
    have hlength : 0 < text.length := by
      rw [htext]
      exact Nat.succ_pos _
    simp only [List.length_append] at hfuel
    obtain ⟨fuel, rfl⟩ : ∃ n, fuel = n + 2 := ⟨fuel - 2, by omega⟩
    have hsource : lead ++ text ++ trail ++ behind ++ ']' :: rest =
        lead ++ (text ++ (trail ++ (behind ++ ']' :: rest))) := by
      simp only [List.append_assoc]
    have hstops : Stops (trail ++ (behind ++ ']' :: rest)) := by
      apply htrail.stops
      rcases hbehind with ⟨-, rfl⟩ | ⟨-, more, rfl, -⟩
      · exact stops_cons (Or.inr (Or.inr (Or.inl rfl)))
      · exact stops_cons (Or.inr (Or.inl rfl))
    have hvalue := readValue_spelled item (fuel + 1) hitem hlead hstops (by omega)
    rw [hsource, readItem, hvalue]
    -- behind the value stands the end of the list, or a comma and the next item
    rcases hbehind with ⟨rfl, rfl⟩ | ⟨hsome, more, rfl, hmore⟩
    · simp only [List.nil_append, readItems_end htrail]
    · obtain ⟨next, later, rfl⟩ := List.exists_cons_of_ne_nil hsome
      simp only [List.length_cons] at hfuel
      have hread := readItem_spelled next later rest fuel hmore (by omega)
      simp only [List.cons_append, readItems_comma htrail, hread]
termination_by _ _ _ fuel => fuel

/-- The fields of a record are read up to its end. -/
theorem readField_spelled : ∀ (field : Option String × Draft) (fields : List (Option String × Draft))
    (rest : List Char) (fuel : Nat) {body : List Char}, SpellsFields (field :: fields) body →
    3 * body.length < fuel →
    readField fuel (skipSpace (body ++ '\x7d' :: rest)) = (field :: fields, some rest)
  | (name, value), fields, rest, fuel, body, h, hfuel => by
    rw [SpellsFields] at h
    obtain ⟨lead, quoted, gap, front, text, trail, behind, rfl, hlead, hgap, hfront, htrail, hname,
      hvalue, hbehind⟩ := h
    simp only [List.length_append, List.length_cons] at hfuel
    obtain ⟨fuel, rfl⟩ : ∃ n, fuel = n + 2 := ⟨fuel - 2, by omega⟩
    obtain ⟨inner, cs, rfl, rfl, hread⟩ :=
      readQuoted?_spelled hname (gap ++ ':' :: (front ++ (text ++ (trail ++ (behind ++ '\x7d' :: rest)))))
    have hsource : lead ++ '"' :: inner ++ gap ++ ':' :: front ++ text ++ trail ++ behind ++
        '\x7d' :: rest = lead ++ '"' :: (inner ++ (gap ++ ':' ::
          (front ++ (text ++ (trail ++ (behind ++ '\x7d' :: rest)))))) := by
      simp only [List.append_assoc, List.cons_append]
    have hstops : Stops (trail ++ (behind ++ '\x7d' :: rest)) := by
      apply htrail.stops
      rcases hbehind with ⟨-, rfl⟩ | ⟨-, more, rfl, -⟩
      · exact stops_cons (Or.inr (Or.inr (Or.inr rfl)))
      · exact stops_cons (Or.inr (Or.inl rfl))
    have hread' := readValue_spelled value (fuel + 1) hvalue hfront hstops (by omega)
    rw [hsource, skipSpace_append hlead (by decide), readField, hread]
    simp only [skipSpace_append hgap (show isSpace ':' = false by decide), hread']
    rcases hbehind with ⟨rfl, rfl⟩ | ⟨hsome, more, rfl, hmore⟩
    · simp only [List.nil_append, readFields_end htrail]
    · obtain ⟨next, later, rfl⟩ := List.exists_cons_of_ne_nil hsome
      simp only [List.length_cons] at hfuel
      have hlater := readField_spelled next later rest fuel hmore (by omega)
      simp only [List.cons_append, readFields_comma htrail, hlater]
termination_by _ _ _ fuel => fuel

end

/-- A text that spells a value is read as that value, with nothing left behind it. -/
theorem read_spelled {value : Draft} {text : String} (h : SpellsAll value text.toList) :
    ∃ rest, read text = (value, some rest) ∧ endsThere (some rest) = true := by
  obtain ⟨lead, body, trail, htext, hlead, htrail, hbody⟩ := h
  have hlength : text.toList.length = text.length := String.length_toList
  refine ⟨trail, ?_, ?_⟩
  · rw [read, htext, List.append_assoc]
    refine readValue_spelled value _ hbody hlead ?_ ?_
    · rw [← List.append_nil trail]
      exact htrail.stops stops_nil
    · rw [← hlength, htext]
      simp only [List.length_append]
      omega
  · rw [endsThere, skipSpace, List.isEmpty_iff, List.dropWhile_eq_nil_iff]
    exact htrail

end CalcSpeech.Json
