import CalcSpeech.Json.Basic
import CalcSpeech.Proofs.Decimal.Reduced
import CalcSpeech.Proofs.Json.Reading

/-!
# What is written is read

The text that a value is written as spells it (`spells_write`), whatever characters its texts hold;
so it is read as that value.
-/

namespace CalcSpeech.Json

mutual

/-- The draft of a value: all of it, and of a number its range. -/
def toDraft : Json → Draft
  | null => .null
  | bool b => .bool b
  | number n => .number (isInRange n.natAbs 0)
  | text s => .text (some s)
  | list items => .list (toDrafts items) true
  | record fields => .record (toFieldDrafts fields) true

/-- The drafts of the items of a list. -/
def toDrafts : List Json → List Draft
  | [] => []
  | item :: rest => item.toDraft :: toDrafts rest

/-- The drafts of the fields of a record. -/
def toFieldDrafts : List (String × Json) → List (Option String × Draft)
  | [] => []
  | (name, value) :: rest => (some name, value.toDraft) :: toFieldDrafts rest

end

theorem toDrafts_eq_map : ∀ items : List Json, toDrafts items = items.map toDraft
  | [] => by rw [toDrafts, List.map_nil]
  | item :: rest => by rw [toDrafts, toDrafts_eq_map rest, List.map_cons]

theorem toFieldDrafts_eq_map : ∀ fields : List (String × Json),
    toFieldDrafts fields = fields.map fun field => (some field.1, field.2.toDraft)
  | [] => by rw [toFieldDrafts, List.map_nil]
  | (name, value) :: rest => by rw [toFieldDrafts, toFieldDrafts_eq_map rest, List.map_cons]

/-- Two images of one list correspond where those of each member do. -/
theorem forall₂_map_map {α β γ : Type} {R : β → γ → Prop} {f : α → β} {g : α → γ} {as : List α}
    (h : ∀ a ∈ as, R (f a) (g a)) : List.Forall₂ R (as.map f) (as.map g) :=
  List.forall₂_map_left_iff.mpr (List.forall₂_map_right_iff.mpr (List.forall₂_same.mpr h))

theorem isSpace_nil : IsSpace [] := by
  intro c hc
  cases hc

/-! ## Numbers and texts -/

/-- The digits of a number spell it. -/
theorem spellsUnsigned_toDigits (n : Nat) :
    SpellsUnsigned (isInRange n 0) (Nat.toDigits 10 n) := by
  have h := SpellsUnsigned.mk ⟨isPlainDigits_toDigits n, toDigits_of_head n⟩ .none .none
  rw [List.append_nil, Nat.ofDigitChars_ten_toDigits] at h
  simpa using h

/-- A number is written as it is spelled. -/
theorem spellsNumber_toString (n : Int) :
    SpellsNumber (isInRange n.natAbs 0) (toString n).toList := by
  cases n with
  | ofNat n =>
    have htext : (toString (Int.ofNat n)).toList = Nat.toDigits 10 n := Nat.toList_repr
    rw [htext]
    exact .plain (spellsUnsigned_toDigits n)
  | negSucc n =>
    have htext : (toString (Int.negSucc n)).toList = '-' :: Nat.toDigits 10 (n + 1) := by
      show ("-" ++ Nat.repr (n + 1)).toList = _
      rw [String.toList_append, Nat.toList_repr]
      rfl
    rw [htext]
    exact .minus (spellsUnsigned_toDigits (n + 1))

theorem hexValue?_hexDigit : ∀ n < 16, hexValue? (hexDigit n) = some n := by
  decide

/-- A character is written as it is spelled, escaped where it has to be. -/
theorem spellsUnit_escape (c : Char) : SpellsUnit (.whole c) (escape c) := by
  unfold escape
  split_ifs with hquote hslash hb ht hn hf hr hlow
  · exact .escape (by rw [hquote]; rfl)
  · exact .escape (by rw [hslash]; rfl)
  · exact .escape (by rw [hb]; rfl)
  · exact .escape (by rw [ht]; rfl)
  · exact .escape (by rw [hn]; rfl)
  · exact .escape (by rw [hf]; rfl)
  · exact .escape (by rw [hr]; rfl)
  · -- a control character: two zeros, then its two digits
    have hzero : hexValue? '0' = some 0 := by decide
    have h := SpellsUnit.hex hzero hzero (hexValue?_hexDigit (c.toNat / 16) (by omega))
      (hexValue?_hexDigit (c.toNat % 16) (by omega))
    have hvalue : ((0 * 16 + 0) * 16 + c.toNat / 16) * 16 + c.toNat % 16 = c.toNat := by omega
    rw [hvalue, Unit16.ofNat, if_neg (by omega), Char.ofNat_toNat] at h
    exact h
  · exact .plain hquote hslash (by omega)

theorem joinUnits?_whole (cs : List Char) : joinUnits? (cs.map .whole) = some cs := by
  induction cs with
  | nil => rfl
  | cons c cs ih => rw [List.map_cons, joinUnits?, ih, Option.map_some]

/-- A text is written as it is spelled. -/
theorem spellsQuoted_quote (s : String) : SpellsQuoted (some s) (quote s.toList) := by
  refine ⟨s.toList.map .whole, s.toList.flatMap escape, ⟨s.toList.map escape, ?_, ?_⟩, rfl, ?_⟩
  · exact forall₂_map_map fun c _ => spellsUnit_escape c
  · rw [List.flatMap_def]
  · rw [joinUnits?_whole, Option.map_some, String.ofList_toList]

/-! ## Values -/

/-- A list of one item, without blanks. -/
theorem spellsItems_single {item : Draft} {text : List Char} (h : Spells item text) :
    SpellsItems [item] text := by
  rw [SpellsItems]
  exact ⟨[], text, [], [], by simp, isSpace_nil, isSpace_nil, h, Or.inl ⟨rfl, rfl⟩⟩

/-- An item in front of others, without blanks. -/
theorem spellsItems_cons {item : Draft} {text more : List Char} {rest : List Draft}
    (h : Spells item text) (hrest : rest ≠ []) (hmore : SpellsItems rest more) :
    SpellsItems (item :: rest) (text ++ ',' :: more) := by
  rw [SpellsItems]
  exact ⟨[], text, [], _, by simp, isSpace_nil, isSpace_nil, h, Or.inr ⟨hrest, more, rfl, hmore⟩⟩

/-- A record of one field, without blanks. -/
theorem spellsFields_single {name : Option String} {value : Draft} {quoted text : List Char}
    (hname : SpellsQuoted name quoted) (h : Spells value text) :
    SpellsFields [(name, value)] (quoted ++ ':' :: text) := by
  rw [SpellsFields]
  exact ⟨[], quoted, [], [], text, [], [], by simp, isSpace_nil, isSpace_nil, isSpace_nil,
    isSpace_nil, hname, h, Or.inl ⟨rfl, rfl⟩⟩

/-- A field in front of others, without blanks. -/
theorem spellsFields_cons {name : Option String} {value : Draft} {quoted text more : List Char}
    {rest : List (Option String × Draft)} (hname : SpellsQuoted name quoted)
    (h : Spells value text) (hrest : rest ≠ []) (hmore : SpellsFields rest more) :
    SpellsFields ((name, value) :: rest) (quoted ++ ':' :: text ++ ',' :: more) := by
  rw [SpellsFields]
  exact ⟨[], quoted, [], [], text, [], _, by simp, isSpace_nil, isSpace_nil, isSpace_nil,
    isSpace_nil, hname, h, Or.inr ⟨hrest, more, rfl, hmore⟩⟩

mutual

/-- A value is written as it is spelled. -/
theorem spells_write : ∀ j : Json, Spells j.toDraft j.write
  | null => by rw [toDraft, Spells, write]
  | bool b => by rw [toDraft, Spells, write]
  | number n => by
    rw [toDraft, Spells, write]
    exact spellsNumber_toString n
  | text s => by
    rw [toDraft, Spells, write]
    exact spellsQuoted_quote s
  | list items => by
    rw [toDraft, Spells, write]
    exact ⟨rfl, _, rfl, spellsItems_write items⟩
  | record fields => by
    rw [toDraft, Spells, write]
    exact ⟨rfl, _, rfl, spellsFields_write fields⟩

/-- The items of a list are written as they are spelled. -/
theorem spellsItems_write : ∀ items : List Json,
    SpellsItems (toDrafts items) (commaSeparated (writeItems items))
  | [] => by
    rw [toDrafts, SpellsItems, writeItems, commaSeparated]
    exact isSpace_nil
  | [item] => spellsItems_single (spells_write item)
  | item :: next :: rest => by
    rw [toDrafts]
    refine spellsItems_cons (spells_write item) ?_ (spellsItems_write (next :: rest))
    rw [toDrafts]
    exact List.cons_ne_nil _ _

/-- The fields of a record are written as they are spelled. -/
theorem spellsFields_write : ∀ fields : List (String × Json),
    SpellsFields (toFieldDrafts fields) (commaSeparated (writeFields fields))
  | [] => by
    rw [toFieldDrafts, SpellsFields, writeFields, commaSeparated]
    exact isSpace_nil
  | [(name, value)] => spellsFields_single (spellsQuoted_quote name) (spells_write value)
  | (name, value) :: next :: rest => by
    rw [toFieldDrafts]
    refine spellsFields_cons (spellsQuoted_quote name) (spells_write value) ?_
      (spellsFields_write (next :: rest))
    rw [toFieldDrafts]
    exact List.cons_ne_nil _ _

end

/-- The text of a value holds nothing else. -/
theorem spellsAll_render (j : Json) : SpellsAll j.toDraft j.render.toList := by
  refine ⟨[], j.write, [], ?_, isSpace_nil, isSpace_nil, spells_write j⟩
  rw [render, String.toList_ofList, List.nil_append, List.append_nil]

end CalcSpeech.Json
