import CalcSpeech.Proofs.NumberWord.Spelled
import Mathlib.Data.List.Chain

/-!
# The tokens of each number

A row of tokens is read as numbers one after the other, each from a group of neighbouring tokens
(`exists_groups`). The connector in front of a number is that of the token that showed the number
before it to be over: its own first token, unless the number before it ends in a magnitude, which
only the next magnitude shows to be over. Behind a zero nothing is left to be closed, and no
connector stays. So a number keeps the connector of its first token where neither a zero nor a
magnitude is read (`exists_groups_of_values`).
-/

namespace CalcSpeech.NumberWord

/-- A number of its own. -/
def Token.isZero (t : Token) : Bool := t.value == 0

/-- A token that multiplies all that was read since the last one of its kind. -/
def Token.isMagnitude (t : Token) : Bool := decide (1000 ≤ t.value)

/-- The tokens that a number is read from. -/
structure Group where
  tokens : List Token
  number : Numeral

/-- Alone the tokens are read as one number of the same value. -/
def Group.IsRead (g : Group) : Prop := (numerals g.tokens).map Numeral.value = [g.number.value]

/-- The token of a group that shows the number before the group to be over. -/
def closer? (before group : List Token) : Option Token :=
  if before.getLast?.any Token.isMagnitude then group.find? fun t => t.isZero || t.isMagnitude
  else group.head?

/-- The connector that stays in front of the number of a group. -/
def keptConnector (before group : List Token) : Option (List Char) :=
  if before.getLast?.any Token.isZero && !group.getLast?.any Token.isZero then none
  else (closer? before group).bind Token.connector

/-- Groups for the numbers of a list, the connectors of all but the first being those that stay. -/
structure Groups (groups : List Group) (numbers : List Numeral) : Prop where
  numbers_eq : groups.map Group.number = numbers
  read : ∀ g ∈ groups, g.IsRead
  connectors : groups.IsChain fun g h => h.number.connector = keptConnector g.tokens h.tokens

section Connectors

variable {before group more : List Token} {t : Token}

theorem last_isZero_of_forall (h : ∀ t ∈ group, t.isZero = false) :
    group.getLast?.any Token.isZero = false := by
  cases hlast : group.getLast? with
  | none => rfl
  | some t => exact h t (List.mem_of_getLast? hlast)

/-- Which connector stays is settled by the tokens up to the first magnitude, or by the first token
where no magnitude has to be waited for. -/
theorem keptConnector_append (hne : group ≠ []) (hgroup : ∀ t ∈ group, t.isZero = false)
    (hmore : ∀ t ∈ more, t.isZero = false)
    (hmagnitude : before.getLast?.any Token.isMagnitude = true →
      group.any Token.isMagnitude = true) :
    keptConnector before (group ++ more) = keptConnector before group := by
  have hall : ∀ t ∈ group ++ more, t.isZero = false := by
    intro t ht
    rcases List.mem_append.mp ht with ht | ht
    · exact hgroup t ht
    · exact hmore t ht
  have hcloser : closer? before (group ++ more) = closer? before group := by
    unfold closer?
    split
    · rename_i hbefore
      obtain ⟨t, ht, hlarge⟩ := List.any_eq_true.mp (hmagnitude hbefore)
      rw [List.find?_append]
      cases hfind : group.find? fun t => t.isZero || t.isMagnitude with
      | some found => rfl
      | none =>
        have hno := List.find?_eq_none.mp hfind t ht
        rw [hlarge, Bool.or_true] at hno
        exact absurd rfl hno
    · exact List.head?_append_of_ne_nil _ hne
  rw [keptConnector, keptConnector, hcloser, last_isZero_of_forall hgroup,
    last_isZero_of_forall hall]

/-- Behind a zero no connector stays. -/
theorem keptConnector_zero (hbefore : before.getLast?.any Token.isZero = true)
    (hgroup : ∀ t ∈ group, t.isZero = false) : keptConnector before group = none := by
  rw [keptConnector, hbefore, last_isZero_of_forall hgroup]
  rfl

/-- Behind a value the first token has the connector. -/
theorem keptConnector_head (hbefore : ∃ t ∈ before.getLast?, 0 < t.value ∧ t.value < 1000) :
    keptConnector before (t :: more) = t.connector := by
  obtain ⟨last, hlast, hpos, hsmall⟩ := hbefore
  obtain hlast : before.getLast? = some last := hlast
  have hzero : last.isZero = false := beq_false_of_ne (Nat.ne_of_gt hpos)
  have hmagnitude : last.isMagnitude = false := decide_eq_false (Nat.not_le_of_lt hsmall)
  simp [keptConnector, closer?, hlast, hzero, hmagnitude]

/-- A zero has its own connector. -/
theorem keptConnector_of_zero (ht : t.isZero = true) : keptConnector before [t] = t.connector := by
  simp [keptConnector, closer?, ht]

/-- Behind a magnitude the next one has the connector. -/
theorem keptConnector_magnitude (hbefore : before.getLast?.any Token.isMagnitude = true)
    (hgroup : ∀ t ∈ group, 0 < t.value ∧ t.value < 1000) (ht : t.isMagnitude = true) :
    keptConnector before (group ++ [t]) = t.connector := by
  have hnone : group.find? (fun t => t.isZero || t.isMagnitude) = none := by
    rw [List.find?_eq_none]
    intro u hu
    obtain ⟨hpos, hsmall⟩ := hgroup u hu
    simp [Token.isZero, Token.isMagnitude, Nat.ne_of_gt hpos, hsmall]
  have hlast : before.getLast?.any Token.isZero = false := by
    cases hlast : before.getLast? with
    | none => rfl
    | some u =>
      rw [hlast, Option.any_some, Token.isMagnitude, decide_eq_true_eq] at hbefore
      exact beq_false_of_ne (by omega)
  rw [keptConnector, hlast, closer?, if_pos hbefore, List.find?_append, hnone]
  simp [ht]

end Connectors

section Groups

variable {groups : List Group} {finished : List Numeral} {g : Group}

/-- One more number is finished. -/
theorem Groups.append (h : Groups groups finished.reverse) (hread : g.IsRead)
    (hconnector : ∀ before ∈ groups.getLast?,
      g.number.connector = keptConnector before.tokens g.tokens) :
    Groups (groups ++ [g]) (g.number :: finished).reverse := by
  refine ⟨?_, ?_, ?_⟩
  · rw [List.map_append, h.numbers_eq, List.reverse_cons]
    rfl
  · intro k hk
    rcases List.mem_append.mp hk with hk | hk
    · exact h.read k hk
    · exact List.mem_singleton.mp hk ▸ hread
  · refine List.isChain_append.mpr ⟨h.connectors, List.isChain_singleton g, ?_⟩
    intro before hbefore k hk
    obtain rfl : g = k := Option.some.inj hk
    exact hconnector before hbefore

end Groups

namespace Fold

/-! ## What one token does -/

/-- A value below a thousand goes on with the number under way. -/
def Continues (current : Nat) (t : Token) : Prop :=
  if t.value = 100 then current < 100 else extends? current t.value = true

/-- What was read since the last magnitude, with one more value. -/
def grown (current : Nat) (t : Token) : Nat :=
  if t.value = 100 then max current 1 * 100 else current + t.value

section Read

variable {f : Fold} {t : Token}

/-- A value that goes on with the number under way is all that changes it. -/
theorem read_small (hpos : 0 < t.value) (hsmall : t.value < 1000)
    (hcontinues : Continues f.current t) :
    f.read t = { f with current := grown f.current t, pending := true } := by
  unfold Continues at hcontinues
  unfold grown
  split at hcontinues
  · rename_i hundred
    rw [if_pos hundred]
    exact read_hundred hundred hcontinues
  · rename_i hother
    rw [if_neg hother]
    exact read_part hcontinues hpos hsmall hother

/-- A value that does not go on with the number under way begins the next one. -/
theorem read_next (hpos : 0 < t.value) (hsmall : t.value < 1000)
    (hends : ¬ Continues f.current t) :
    f.read t = {
      finished := f.flush.finished
      current := t.value
      pending := true
      connector := t.connector } := by
  have hzero : t.value ≠ 0 := Nat.ne_of_gt hpos
  have hmagnitude : ¬ 1000 ≤ t.value := Nat.not_le_of_lt hsmall
  unfold Continues at hends
  split at hends
  · rename_i hundred
    have hcapped : capped 100 = 100 := capped_of_lt (by decide)
    rw [read, if_neg hzero, if_neg hmagnitude, if_pos hundred, readHundred,
      if_pos (Nat.le_of_not_lt hends), hundred]
    simp [breakBefore, flush, hcapped]
  · rename_i hother
    rw [read, if_neg hzero, if_neg hmagnitude, if_neg hother, readPart, if_neg hends]
    simp [breakBefore, flush]

/-- A second magnitude ends the number at the first one and multiplies what came since. -/
theorem read_second_magnitude (ht : 1000 ≤ t.value) (htotal : 0 < f.total)
    (hpending : f.pending = true) :
    f.read t = {
      finished := ⟨f.connector, capped f.total⟩ :: f.finished
      total := capped (max f.current 1 * t.value)
      pending := true
      connector := t.connector } := by
  have hzero : t.value ≠ 0 := by omega
  simp [read, hzero, ht, readMagnitude, htotal, breakBefore, flush, hpending, emit]

/-- A zero ends the number under way and is a number of its own. -/
theorem read_zero (ht : t.value = 0) :
    f.read t = { finished := ⟨t.connector, 0⟩ :: f.flush.finished } := by
  simp [read, ht, readZero, breakBefore, flush, emit]

theorem grown_pos (hpos : 0 < t.value) (current : Nat) : 0 < grown current t := by
  unfold grown
  split <;> omega

theorem capped_pos {n : Nat} (h : 0 < n) : 0 < capped n :=
  Nat.lt_min.mpr ⟨h, by decide⟩

end Read

/-! ## The number under way -/

/-- The number under way: `front` are its tokens up to its magnitude, `back` those since, and each
part is read from nothing as it was read in its place. -/
structure UnderWay (front back : List Token) (f : Fold) : Prop where
  front_read : front.foldl read {} = { total := f.total, pending := !front.isEmpty }
  back_read : back.foldl read {} = { current := f.current, pending := !back.isEmpty }
  all_read : (front ++ back).foldl read {} =
    { total := f.total, current := f.current, pending := f.pending }
  pending_eq : f.pending = !(front ++ back).isEmpty
  total_pos : front ≠ [] → 0 < f.total
  current_pos : back ≠ [] → 0 < f.current
  front_last : front ≠ [] → front.getLast?.any Token.isMagnitude = true
  front_ne_zero : ∀ t ∈ front, t.isZero = false
  back_small : ∀ t ∈ back, 0 < t.value ∧ t.value < 1000

/-- What was read: the groups of the numbers finished, and the number under way, with the connector
that is to stay in front of it. -/
structure Grouped (groups : List Group) (front back : List Token) (f : Fold) : Prop
    extends UnderWay front back f where
  finished : Groups groups f.finished.reverse
  waiting : ∀ g ∈ groups.getLast?, front ++ back = [] →
    f.connector = none ∧ g.tokens.getLast?.any Token.isZero = true
  connector : ∀ g ∈ groups.getLast?, front ++ back ≠ [] →
    f.connector = keptConnector g.tokens (front ++ back)
  closed : ∀ g ∈ groups.getLast?, g.tokens.getLast?.any Token.isMagnitude = true → front ≠ []

section UnderWay

variable {front back : List Token} {f : Fold} (h : UnderWay front back f)

include h

theorem UnderWay.total_eq (hfront : front = []) : f.total = 0 := by
  have hread := h.front_read
  rw [hfront] at hread
  exact (congrArg Fold.total hread).symm

theorem UnderWay.current_eq (hback : back = []) : f.current = 0 := by
  have hread := h.back_read
  rw [hback] at hread
  exact (congrArg Fold.current hread).symm

theorem UnderWay.ne_zero : ∀ t ∈ front ++ back, t.isZero = false := by
  intro t ht
  rcases List.mem_append.mp ht with ht | ht
  · exact h.front_ne_zero t ht
  · exact beq_false_of_ne (Nat.ne_of_gt (h.back_small t ht).1)

/-- The part up to the last magnitude holds one. -/
theorem UnderWay.any_isMagnitude (hfront : front ≠ []) : front.any Token.isMagnitude = true := by
  have hlarge := h.front_last hfront
  cases hlast : front.getLast? with
  | none =>
    rw [hlast] at hlarge
    cases hlarge
  | some t =>
    rw [hlast] at hlarge
    exact List.any_eq_true.mpr ⟨t, List.mem_of_getLast? hlast, hlarge⟩

end UnderWay

section Steps

variable {groups : List Group} {front back : List Token} {f : Fold} {t : Token}

/-- Nothing is under way. -/
theorem underWay_none {finished : List Numeral} {connector : Option (List Char)} :
    UnderWay [] [] { finished := finished, connector := connector } where
  front_read := rfl
  back_read := rfl
  all_read := rfl
  pending_eq := rfl
  total_pos h := absurd rfl h
  current_pos h := absurd rfl h
  front_last h := absurd rfl h
  front_ne_zero _ h := absurd h List.not_mem_nil
  back_small _ h := absurd h List.not_mem_nil

/-- The number under way is finished as it stands. -/
theorem Grouped.finish (h : Grouped groups front back f) (hne : front ++ back ≠ []) :
    Groups (groups ++ [⟨front ++ back, ⟨f.connector, capped (f.total + f.current)⟩⟩])
      f.flush.finished.reverse := by
  have hpending : f.pending = true := by
    rw [h.pending_eq, List.isEmpty_eq_false_iff.mpr hne]
    rfl
  have hflush : f.flush.finished = ⟨f.connector, capped (f.total + f.current)⟩ :: f.finished := by
    rw [flush, hpending]
    rfl
  rw [hflush]
  refine h.finished.append ?_ fun g hg => h.connector g hg hne
  rw [Group.IsRead, numerals, h.all_read, hpending]
  rfl

/-- What is under way is finished, or nothing was. -/
theorem Grouped.exists_flush (h : Grouped groups front back f) :
    ∃ groups', Groups groups' f.flush.finished.reverse ∧
      groups'.flatMap Group.tokens = groups.flatMap Group.tokens ++ (front ++ back) := by
  by_cases hnone : front ++ back = []
  · have hpending : f.pending = false := by
      rw [h.pending_eq, hnone]
      rfl
    have hflush : f.flush.finished = f.finished := by
      rw [flush, hpending]
      rfl
    exact ⟨groups, hflush ▸ h.finished, by rw [hnone, List.append_nil]⟩
  · exact ⟨_, h.finish hnone, by rw [List.flatMap_append, List.flatMap_singleton]⟩

/-- One more token of the number under way does not change the connector in front of it. -/
theorem Grouped.connector_concat (h : Grouped groups front back f) (ht : t.isZero = false) :
    ∀ g ∈ groups.getLast?, f.connector = keptConnector g.tokens (front ++ back ++ [t]) := by
  intro g hg
  have hone : ∀ u ∈ [t], u.isZero = false := List.forall_mem_singleton.mpr ht
  by_cases hnone : front ++ back = []
  · obtain ⟨hconnector, hzero⟩ := h.waiting g hg hnone
    rw [hnone, List.nil_append, hconnector, keptConnector_zero hzero hone]
  · rw [keptConnector_append hnone h.ne_zero hone, h.connector g hg hnone]
    intro hmagnitude
    rw [List.any_append, h.any_isMagnitude (h.closed g hg hmagnitude), Bool.true_or]

/-- A value that goes on with the number under way is one more token of it. -/
theorem Grouped.small (h : Grouped groups front back f) (hpos : 0 < t.value)
    (hsmall : t.value < 1000) (hcontinues : Continues f.current t) :
    Grouped groups front (back ++ [t]) (f.read t) := by
  have hback : back ++ [t] ≠ [] := List.append_ne_nil_of_right_ne_nil _ (List.cons_ne_nil t [])
  have hall : front ++ (back ++ [t]) ≠ [] := List.append_ne_nil_of_right_ne_nil _ hback
  have hread (g : Fold) (hg : g.current = f.current) :
      g.read t = { g with current := grown f.current t, pending := true } :=
    hg ▸ read_small hpos hsmall (hg ▸ hcontinues)
  rw [hread f rfl]
  refine { h with
    back_read := ?_
    all_read := ?_
    pending_eq := ?_
    current_pos := fun _ => grown_pos hpos _
    back_small := ?_
    waiting := fun g hg hnone => absurd hnone hall
    connector := fun g hg _ => ?_ }
  · rw [List.foldl_append, h.back_read, List.isEmpty_eq_false_iff.mpr hback]
    exact hread _ rfl
  · rw [← List.append_assoc, List.foldl_append, h.all_read]
    exact hread _ rfl
  · rw [List.isEmpty_eq_false_iff.mpr hall]
    rfl
  · intro u hu
    rcases List.mem_append.mp hu with hu | hu
    · exact h.back_small u hu
    · exact List.mem_singleton.mp hu ▸ ⟨hpos, hsmall⟩
  · rw [← List.append_assoc]
    exact h.connector_concat (beq_false_of_ne (Nat.ne_of_gt hpos)) g hg

/-- The tokens since the last magnitude, with a magnitude behind them, are a number under way. -/
theorem UnderWay.magnitude (h : UnderWay front back f) (ht : 1000 ≤ t.value)
    (finished : List Numeral) (connector : Option (List Char)) :
    UnderWay (back ++ [t]) [] {
      finished := finished
      total := capped (max f.current 1 * t.value)
      pending := true
      connector := connector } := by
  have hne : back ++ [t] ≠ [] := List.append_ne_nil_of_right_ne_nil _ (List.cons_ne_nil t [])
  have hread : (back ++ [t]).foldl read {} =
      { total := capped (max f.current 1 * t.value), pending := true } := by
    rw [List.foldl_append, h.back_read]
    exact read_magnitude ht rfl
  refine {
    front_read := ?_
    back_read := rfl
    all_read := ?_
    pending_eq := ?_
    total_pos := fun _ => capped_pos (Nat.mul_pos (Nat.le_max_right _ _) (by omega))
    current_pos := fun hback => absurd rfl hback
    front_last := fun _ => ?_
    front_ne_zero := ?_
    back_small := fun _ hu => absurd hu List.not_mem_nil }
  · rw [hread, List.isEmpty_eq_false_iff.mpr hne]
    rfl
  · rw [List.append_nil, hread]
  · rw [List.append_nil, List.isEmpty_eq_false_iff.mpr hne]
    rfl
  · rw [List.getLast?_concat]
    exact decide_eq_true ht
  · intro u hu
    rcases List.mem_append.mp hu with hu | hu
    · exact h.ne_zero u (List.mem_append_right _ hu)
    · rw [List.mem_singleton.mp hu]
      exact beq_false_of_ne (by omega)

/-- A first magnitude is one more token of the number under way. -/
theorem Grouped.magnitude (h : Grouped groups front back f) (ht : 1000 ≤ t.value)
    (hfront : front = []) : Grouped groups (back ++ [t]) [] (f.read t) := by
  have hne : back ++ [t] ≠ [] := List.append_ne_nil_of_right_ne_nil _ (List.cons_ne_nil t [])
  have hunder := h.toUnderWay.magnitude ht f.finished f.connector
  rw [read_magnitude ht (h.total_eq hfront)]
  refine { hunder with
    finished := h.finished
    waiting := fun g hg hnone => absurd hnone (List.append_ne_nil_of_left_ne_nil hne [])
    connector := fun g hg _ => ?_
    closed := fun _ _ _ => hne }
  have hconnector := h.connector_concat (t := t) (beq_false_of_ne (by omega)) g hg
  rw [hfront] at hconnector
  rw [List.append_nil]
  exact hconnector

/-- A second magnitude closes the number at the first, and the tokens since belong to the next. -/
theorem Grouped.second_magnitude (h : Grouped groups front back f) (ht : 1000 ≤ t.value)
    (hfront : front ≠ []) :
    Grouped (groups ++ [⟨front, ⟨f.connector, capped f.total⟩⟩]) (back ++ [t]) [] (f.read t) := by
  have hne : back ++ [t] ≠ [] := List.append_ne_nil_of_right_ne_nil _ (List.cons_ne_nil t [])
  have hall : front ++ back ≠ [] := List.append_ne_nil_of_left_ne_nil hfront back
  have hpending : f.pending = true := by
    rw [h.pending_eq, List.isEmpty_eq_false_iff.mpr hall]
    rfl
  have hunder := h.toUnderWay.magnitude ht (⟨f.connector, capped f.total⟩ :: f.finished) t.connector
  have hread : Group.IsRead ⟨front, ⟨f.connector, capped f.total⟩⟩ := by
    rw [Group.IsRead, numerals, h.front_read, List.isEmpty_eq_false_iff.mpr hfront]
    rfl
  rw [read_second_magnitude ht (h.total_pos hfront) hpending]
  refine { hunder with
    finished := h.finished.append hread fun g hg => ?_
    waiting := fun g hg hnone => absurd hnone (List.append_ne_nil_of_left_ne_nil hne [])
    connector := fun g hg _ => ?_
    closed := fun _ _ _ => hne }
  · rw [h.connector g hg hall]
    exact keptConnector_append hfront h.front_ne_zero
      (fun u hu => h.ne_zero u (List.mem_append_right _ hu))
      fun hmagnitude => h.any_isMagnitude (h.closed g hg hmagnitude)
  · rw [List.getLast?_concat] at hg
    obtain rfl := Option.some.inj hg
    rw [List.append_nil]
    exact (keptConnector_magnitude (h.front_last hfront) h.back_small (decide_eq_true ht)).symm

/-- A value alone is a number under way. -/
theorem underWay_one (hpos : 0 < t.value) (hsmall : t.value < 1000) (finished : List Numeral)
    (connector : Option (List Char)) :
    UnderWay [] [t] {
      finished := finished
      current := t.value
      pending := true
      connector := connector } := by
  have hcontinues : Continues 0 t := by
    unfold Continues
    split
    · decide
    · rfl
  have hgrown : grown 0 t = t.value := by
    unfold grown
    split <;> omega
  have hread : [t].foldl read {} = { current := t.value, pending := true } := by
    rw [← hgrown]
    exact read_small hpos hsmall hcontinues
  exact {
    front_read := rfl
    back_read := hread
    all_read := hread
    pending_eq := rfl
    total_pos := fun hfront => absurd rfl hfront
    current_pos := fun _ => hpos
    front_last := fun hfront => absurd rfl hfront
    front_ne_zero := fun _ hu => absurd hu List.not_mem_nil
    back_small := List.forall_mem_singleton.mpr ⟨hpos, hsmall⟩ }

/-- A value that does not go on closes the number under way and begins the next one. -/
theorem Grouped.next (h : Grouped groups front back f) (hpos : 0 < t.value)
    (hsmall : t.value < 1000) (hends : ¬ Continues f.current t) :
    Grouped (groups ++ [⟨front ++ back, ⟨f.connector, capped (f.total + f.current)⟩⟩]) [] [t]
      (f.read t) := by
  have hback : back ≠ [] := by
    intro hnone
    apply hends
    rw [h.current_eq hnone, Continues]
    split
    · decide
    · rfl
  have hall : front ++ back ≠ [] := List.append_ne_nil_of_right_ne_nil _ hback
  -- the number before ends in a value, so that this token shows it to be over
  have hlast : ∃ u ∈ (front ++ back).getLast?, 0 < u.value ∧ u.value < 1000 := by
    rw [List.getLast?_append_of_ne_nil _ hback]
    exact ⟨_, List.getLast?_eq_some_getLast hback, h.back_small _ (List.getLast_mem hback)⟩
  rw [read_next hpos hsmall hends]
  refine { underWay_one hpos hsmall _ _ with
    finished := h.finish hall
    waiting := fun g hg hnone => absurd hnone (List.cons_ne_nil t [])
    connector := fun g hg _ => ?_
    closed := fun g hg hmagnitude => ?_ }
  · rw [List.getLast?_concat] at hg
    obtain rfl := Option.some.inj hg
    exact (keptConnector_head hlast).symm
  · rw [List.getLast?_concat] at hg
    obtain rfl := Option.some.inj hg
    obtain ⟨u, hu, -, hvalue⟩ := hlast
    rw [show (front ++ back).getLast? = some u from hu, Option.any_some, Token.isMagnitude,
      decide_eq_true_eq] at hmagnitude
    omega

/-- A zero closes the number under way and is the next one. -/
theorem Grouped.exists_zero (h : Grouped groups front back f) (ht : t.value = 0) :
    ∃ groups', Grouped groups' [] [] (f.read t) ∧
      groups'.flatMap Group.tokens = groups.flatMap Group.tokens ++ (front ++ back) ++ [t] := by
  have hzero : t.isZero = true := beq_iff_eq.mpr ht
  obtain ⟨groups', hgroups, htokens⟩ := h.exists_flush
  have hread : Group.IsRead ⟨[t], ⟨t.connector, 0⟩⟩ := by
    rw [Group.IsRead, numerals, List.foldl_cons, read_zero ht]
    rfl
  rw [read_zero ht]
  refine ⟨groups' ++ [⟨[t], ⟨t.connector, 0⟩⟩], { underWay_none with
    finished := hgroups.append hread fun _ _ => (keptConnector_of_zero hzero).symm
    waiting := fun g hg _ => ?_
    connector := fun g hg hne => absurd rfl hne
    closed := fun g hg hmagnitude => ?_ }, ?_⟩
  · rw [List.getLast?_concat] at hg
    obtain rfl := Option.some.inj hg
    exact ⟨rfl, hzero⟩
  · rw [List.getLast?_concat] at hg
    obtain rfl := Option.some.inj hg
    have hlarge : 1000 ≤ t.value := by simpa [Token.isMagnitude] using hmagnitude
    omega
  · rw [List.flatMap_append, htokens, List.flatMap_singleton]

/-- Every token belongs to the number under way or to one that is finished. -/
theorem Grouped.exists_read (h : Grouped groups front back f) (t : Token) :
    ∃ groups' front' back', Grouped groups' front' back' (f.read t) ∧
      groups'.flatMap Group.tokens ++ (front' ++ back') =
        groups.flatMap Group.tokens ++ (front ++ back) ++ [t] := by
  by_cases hzero : t.value = 0
  · obtain ⟨groups', hgroups, htokens⟩ := h.exists_zero hzero
    exact ⟨groups', [], [], hgroups, by simpa using htokens⟩
  by_cases hmagnitude : 1000 ≤ t.value
  · by_cases hfront : front = []
    · refine ⟨groups, back ++ [t], [], h.magnitude hmagnitude hfront, ?_⟩
      simp [hfront]
    · refine ⟨_, back ++ [t], [], h.second_magnitude hmagnitude hfront, ?_⟩
      simp
  have hpos : 0 < t.value := Nat.pos_of_ne_zero hzero
  have hsmall : t.value < 1000 := Nat.lt_of_not_le hmagnitude
  by_cases hcontinues : Continues f.current t
  · refine ⟨groups, front, back ++ [t], h.small hpos hsmall hcontinues, ?_⟩
    simp
  · refine ⟨_, [], [t], h.next hpos hsmall hcontinues, ?_⟩
    simp

end Steps

/-- Reading tokens leaves them in groups, and those of the number under way. -/
theorem exists_grouped (tokens : List Token) :
    ∃ groups front back, Grouped groups front back (tokens.foldl read {}) ∧
      groups.flatMap Group.tokens ++ (front ++ back) = tokens := by
  induction tokens using List.reverseRecOn with
  | nil =>
    refine ⟨[], [], [], { underWay_none with
      finished := ⟨rfl, fun _ hg => absurd hg List.not_mem_nil, List.isChain_nil⟩
      waiting := fun g hg => absurd hg (by simp)
      connector := fun g hg => absurd hg (by simp)
      closed := fun g hg => absurd hg (by simp) }, rfl⟩
  | append_singleton tokens t ih =>
    obtain ⟨groups, front, back, hgrouped, htokens⟩ := ih
    obtain ⟨groups', front', back', hgrouped', htokens'⟩ := hgrouped.exists_read t
    rw [htokens] at htokens'
    rw [List.foldl_append]
    exact ⟨groups', front', back', hgrouped', htokens'⟩

end Fold

/-- Every row of tokens is read in groups, one for each number, and in front of each number but the
first stands the connector that stays. -/
theorem exists_groups (tokens : List Token) :
    ∃ groups, Groups groups (numerals tokens) ∧ groups.flatMap Group.tokens = tokens := by
  obtain ⟨groups, front, back, hgrouped, htokens⟩ := Fold.exists_grouped tokens
  obtain ⟨groups', hgroups', htokens'⟩ := hgrouped.exists_flush
  exact ⟨groups', hgroups', htokens'.trans htokens⟩

example : foldText [⟨0, none⟩, ⟨5, some "and".toList⟩] = "0 5".toList := by decide

example : foldText [⟨2, none⟩, ⟨1000, none⟩, ⟨3, some "and".toList⟩, ⟨1000, none⟩] =
    "2000 3000".toList := by decide

/-- A group has tokens. -/
theorem Group.IsRead.ne_nil {g : Group} (h : g.IsRead) : g.tokens ≠ [] := by
  intro hnil
  rw [Group.IsRead, hnil] at h
  cases h

/-- Of values below a thousand without a zero every number keeps the connector of its first
token. -/
theorem exists_groups_of_values {tokens : List Token}
    (htokens : ∀ t ∈ tokens, 0 < t.value ∧ t.value < 1000) :
    ∃ groups, Groups groups (numerals tokens) ∧ groups.flatMap Group.tokens = tokens ∧
      groups.IsChain fun _ h => h.number.connector = h.tokens.head?.bind Token.connector := by
  obtain ⟨groups, hgroups, hall⟩ := exists_groups tokens
  refine ⟨groups, hgroups, hall, hgroups.connectors.imp_of_mem_imp fun g h hg hh hkept => ?_⟩
  have hmem : ∀ u ∈ g.tokens, u ∈ tokens := by
    intro u hu
    rw [← hall]
    exact List.mem_flatMap.mpr ⟨g, hg, hu⟩
  have hne := (hgroups.read g hg).ne_nil
  have hlast := List.getLast?_eq_some_getLast hne
  obtain ⟨t, more, ht⟩ := List.exists_cons_of_ne_nil (hgroups.read h hh).ne_nil
  rw [hkept, ht, keptConnector_head ⟨_, hlast, htokens _ (hmem _ (List.getLast_mem hne))⟩]
  rfl

end CalcSpeech.NumberWord
