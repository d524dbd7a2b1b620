import CalcSpeech.Proofs.NumberWord.Spelled

/-!
# Names of numbers

The name of a number below a million is a row of parts: of the number of thousands, `thousand`, and
of the rest, each with `hundred` behind its hundreds. Such a row spells a number below a thousand
(`spells_of_parts`), or two with `thousand` between them, so it is written as the number
(`foldText_of_parts`).
-/

namespace CalcSpeech

/-- A part of the name of a number: a number below twenty, a number of tens, `hundred` or
`thousand`. -/
inductive NamePart where
  | small (n : Nat)
  | tens (n : Nat)
  | hundred
  | thousand
  deriving DecidableEq

/-- The number that a part stands for. -/
def NamePart.value : NamePart → Nat
  | small n => n
  | tens n => 10 * n
  | hundred => 100
  | thousand => 1000

/-- The parts of the name of a number below a hundred. -/
def partsBelowHundred (n : Nat) : List NamePart :=
  if n = 0 then []
  else if n < 20 then [.small n]
  else if n % 10 = 0 then [.tens (n / 10)]
  else [.tens (n / 10), .small (n % 10)]

/-- The parts of the name of a number below a thousand. -/
def partsBelowThousand (n : Nat) : List NamePart :=
  (if n / 100 = 0 then [] else [.small (n / 100), .hundred]) ++ partsBelowHundred (n % 100)

/-- The parts of the name of a number below a million. -/
def numberParts (n : Nat) : List NamePart :=
  (if n / 1000 = 0 then [] else partsBelowThousand (n / 1000) ++ [.thousand]) ++
    partsBelowThousand (n % 1000)

namespace NumberWord

variable {n : Nat} {tokens : List Token}

theorem spellsUnits_of_parts (hn : n < 100)
    (htokens : tokens.map Token.value = (partsBelowHundred n).map NamePart.value) :
    SpellsUnits n tokens := by
  unfold partsBelowHundred at htokens
  split at htokens
  · rename_i hzero
    rw [List.map_nil, List.map_eq_nil_iff] at htokens
    rw [htokens, hzero]
    exact .none
  · split at htokens
    · obtain ⟨t, rest, rfl, ht, hrest⟩ := List.map_eq_cons_iff.mp htokens
      obtain rfl := List.map_eq_nil_iff.mp hrest
      obtain rfl : t.value = n := ht
      exact .whole (by omega) hn
    · split at htokens
      · obtain ⟨t, rest, rfl, ht, hrest⟩ := List.map_eq_cons_iff.mp htokens
        obtain rfl := List.map_eq_nil_iff.mp hrest
        have hvalue : t.value = 10 * (n / 10) := ht
        obtain rfl : t.value = n := by omega
        exact .whole (by omega) hn
      · obtain ⟨t, rest, rfl, ht, hrest⟩ := List.map_eq_cons_iff.mp htokens
        obtain ⟨u, rest, rfl, hu, hnil⟩ := List.map_eq_cons_iff.mp hrest
        obtain rfl := List.map_eq_nil_iff.mp hnil
        have htens : t.value = 10 * (n / 10) := ht
        have hunits : u.value = n % 10 := hu
        obtain rfl : t.value + u.value = n := by omega
        exact .tens htens (by omega) (by omega) (by omega) (by omega)

/-- The name of a number below a thousand spells it. -/
theorem spells_of_parts (hn : n < 1000)
    (htokens : tokens.map Token.value = (partsBelowThousand n).map NamePart.value) :
    SpellsNumber n tokens := by
  unfold partsBelowThousand at htokens
  rw [List.map_append] at htokens
  obtain ⟨front, back, rfl, hfront, hback⟩ := List.map_eq_append_iff.mp htokens
  have hunits := spellsUnits_of_parts (Nat.mod_lt n (by decide)) hback
  have hhundreds : SpellsHundreds (n / 100) front := by
    by_cases hnone : n / 100 = 0
    · rw [if_pos hnone, List.map_nil, List.map_eq_nil_iff] at hfront
      rw [hfront, hnone]
      exact .none
    · rw [if_neg hnone] at hfront
      obtain ⟨t, rest, rfl, ht, hrest⟩ := List.map_eq_cons_iff.mp hfront
      obtain ⟨u, rest, rfl, hu, hnil⟩ := List.map_eq_cons_iff.mp hrest
      obtain rfl := List.map_eq_nil_iff.mp hnil
      have hcount : t.value = n / 100 := ht
      have hone : SpellsUnits (n / 100) [t] := hcount ▸ .whole (by omega) (by omega)
      exact .counted hone (by omega) hu
  have hall : 100 * (n / 100) + n % 100 = n := Nat.div_add_mod n 100
  exact hall ▸ .intro hhundreds hunits

/-- The parts of the name of a number, with any connectors between them, are written as the
number. -/
theorem foldText_of_parts (hpos : 0 < n) (hn : n < 1000000)
    (htokens : tokens.map Token.value = (numberParts n).map NamePart.value) :
    foldText tokens = Nat.toDigits 10 n := by
  unfold numberParts at htokens
  by_cases hthousands : n / 1000 = 0
  · have hmod : n % 1000 = n := by omega
    rw [if_pos hthousands, List.nil_append, hmod] at htokens
    exact foldText_of_numerals (numerals_of_spells hpos (spells_of_parts (by omega) htokens))
  · rw [if_neg hthousands, List.map_append, List.map_append] at htokens
    obtain ⟨front, back, rfl, hfront, hback⟩ := List.map_eq_append_iff.mp htokens
    obtain ⟨count, rest, rfl, hcount, hrest⟩ := List.map_eq_append_iff.mp hfront
    obtain ⟨t, rest, rfl, ht, hnil⟩ := List.map_eq_cons_iff.mp hrest
    obtain rfl := List.map_eq_nil_iff.mp hnil
    have hthousand : t.value = 1000 := ht
    have hone := numerals_of_magnitude (spells_of_parts (by omega) hcount) (by omega)
      (spells_of_parts (Nat.mod_lt n (by decide)) hback) (t := t)
    have hall : max (n / 1000) 1 * t.value + n % 1000 = n := by
      rw [hthousand, Nat.max_eq_left (Nat.pos_of_ne_zero hthousands)]
      omega
    rw [hall, capped_of_lt hn] at hone
    rw [List.append_assoc, List.singleton_append]
    exact foldText_of_numerals hone

end NumberWord

end CalcSpeech
