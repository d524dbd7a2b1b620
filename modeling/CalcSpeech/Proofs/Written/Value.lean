import CalcSpeech.Proofs.ScaleNumber
import CalcSpeech.Proofs.Written.Reading

/-!
# The values of written numerals

A written numeral of which a plain numeral is left is read by its groups and its decimal mark as a
decimal of the same value (`exists_ofNumeral?`).
-/

namespace CalcSpeech

open Unicode NumeralMark

/-! ## Digits with marks between them -/

theorem IsMarked.cons {d : Char} (hd : d.isDigit = true) {n : List Char} (h : IsMarked n) :
    IsMarked (d :: n) := by
  have hdigits {ds : List Char} (hds : IsPlainDigits ds) : IsPlainDigits (d :: ds) :=
    ⟨List.cons_ne_nil d ds, List.forall_mem_cons.mpr ⟨hd, hds.2⟩⟩
  cases h with
  | digits hds => exact .digits (hdigits hds)
  | mark hds hm hrest => exact .mark (hdigits hds) hm hrest

/-- In a written numeral without marks side by side each mark stands between digits. -/
theorem isMarked_of_apart {t : List Char} (ht : IsWritten t)
    (hapart : ∀ y c e z, t = y ++ c :: e :: z → c.isDigit = true ∨ e.isDigit = true) :
    IsMarked t := by
  induction hlength : t.length using Nat.strongRecOn generalizing t with
  | ind n ih =>
    obtain ⟨hnumeric, hhead, hlast⟩ := ht
    have hrest (front : List Char) {d : Char} {r : List Char} (hfront : t = front ++ d :: r)
        (hd : d.isDigit = true) (hne : front ≠ []) : IsMarked (d :: r) := by
      refine ih (d :: r).length ?_ ⟨?_, hd, ?_⟩ ?_ rfl
      · rw [← hlength, hfront, List.length_append]
        have := List.length_pos_iff.mpr hne
        omega
      · exact fun c hc => hnumeric c (by rw [hfront]; exact List.mem_append_right _ hc)
      · rwa [hfront, List.getLast?_append_of_ne_nil _ (List.cons_ne_nil d r)] at hlast
      · exact fun y c e z hr => hapart (front ++ y) c e z (by rw [hfront, hr, List.append_assoc])
    cases t with
    | nil => exact Bool.noConfusion hhead
    | cons d r =>
      have hd : d.isDigit = true := hhead
      have hone : IsPlainDigits [d] := ⟨List.cons_ne_nil _ _, List.forall_mem_singleton.mpr hd⟩
      cases r with
      | nil => exact .digits hone
      | cons c r =>
        rcases hnumeric c (by simp) with hc | hc
        · exact (hrest [d] rfl hc (List.cons_ne_nil _ _)).cons hd
        · have hmark : c.isDigit = false := by rcases hc with rfl | rfl <;> decide
          cases r with
          | nil => exact absurd (hmark.symm.trans hlast) (by decide)
          | cons e r =>
            have he : e.isDigit = true := by
              refine (hapart [d] c e r rfl).resolve_left ?_
              rw [hmark]
              exact Bool.false_ne_true
            exact .mark hone hc (hrest [d, c] rfl he (List.cons_ne_nil _ _))

/-! ## Groups and the decimal mark -/

section Ungrouped

variable {mark : DecimalMark} {t v : List Char} {x : ℚ} (ht : IsWritten t)
  (hv : Replaces mark.grouping Thousand [] none t v) (hnone : mark.grouping ∉ v)
  (hn : HasValue (pointedBy mark v) x)

theorem mark_cases (mark : DecimalMark) {c : Char} (hc : c = '.' ∨ c = ',') :
    c = mark.grouping ∨ c = mark.point := by
  cases mark with
  | period => exact hc.symm
  | comma => exact hc

/-- Where there are no groups the decimal mark can be put back. -/
theorem map_pointedBy (hnone : mark.grouping ∉ v) :
    ((pointedBy mark v).map fun c => if c = '.' then mark.point else c) = v := by
  rw [pointedBy, List.map_map, List.map_congr_left (g := id), List.map_id]
  intro c hc
  by_cases hpoint : c = mark.point
  · simp [hpoint]
  · have hperiod : c ≠ '.' := by
      rintro rfl
      rcases mark_cases mark (Or.inl rfl) with hgroup | hmark
      · exact hnone (hgroup ▸ hc)
      · exact hpoint hmark
    simp [hpoint, hperiod]

include ht hv hnone hn

/-- The groups stand between digits, and there is one decimal mark at most. -/
theorem isMarked_of_ungrouped : IsMarked t := by
  apply isMarked_of_apart ht
  rintro y c e z hyz
  by_contra hmarks
  rw [not_or] at hmarks
  have hc := (ht.numeric c (by rw [hyz]; simp)).resolve_left hmarks.1
  have he := (ht.numeric e (by rw [hyz]; simp)).resolve_left hmarks.2
  have hdigit {d : Char} (hd : d ∈ t) (h : isDecimalDigit d = true) : d.isDigit = true :=
    isDigit_of_numeric ht.numeric hd h
  rcases mark_cases mark hc with rfl | rfl
  · have hplace := (hv.place hnone hyz).2
    exact hmarks.2 (hdigit (by rw [hyz]; simp) hplace.head)
  · rcases mark_cases mark he with rfl | rfl
    · have hplace := (hv.place hnone (x := y ++ [mark.point]) (y := z) (by rw [hyz]; simp)).1
      rw [behind_append] at hplace
      exact hmarks.1 (hdigit (by rw [hyz]; simp) hplace)
    · have hcount := hv.count (point_ne_grouping mark) (by simp)
      have hmap := List.count_le_count_map (l := v) (x := mark.point)
        (f := fun c => if c = mark.point then '.' else c)
      have hone := hn.count_point
      rw [if_pos rfl] at hmap
      rw [pointedBy] at hone
      rw [hyz, List.count_append, List.count_cons_self, List.count_cons_self] at hcount
      omega

/-- A written numeral is read as a decimal of the value that it has without its groups. -/
theorem exists_ofNumeral? : ∃ d, Decimal.ofNumeral? mark t = some d ∧ d.value = x := by
  have hdigits : t.filter (· != mark.grouping) = v := by
    rw [← hv.filter (f := (· != mark.grouping)) (by simp) (by simp), List.filter_eq_self]
    intro c hc
    rw [bne_iff_ne]
    rintro rfl
    exact hnone hc
  have hmarks : isDecimalDigit mark.grouping = false ∧ isDecimalDigit mark.point = false := by
    cases mark <;> decide
  have hhead := hv.head hmarks.1 (any_isDecimalDigit ht.head)
  have hback := map_pointedBy hnone
  have hsame {ds : List Char} (hds : ∀ c ∈ ds, c.isDigit = true) :
      (ds.map fun c => if c = '.' then mark.point else c) = ds := by
    rw [List.map_congr_left (g := id), List.map_id]
    intro c hc
    rw [if_neg]
    · rfl
    · rintro rfl
      exact absurd (hds '.' hc) (by decide)
  generalize pointedBy mark v = n at hn hback
  cases hn with
  | @whole ds hds =>
    rw [hsame hds.2, ← hdigits] at hback
    refine ⟨_, ofNumeral?_whole hds hback.symm, ?_⟩
    simp [Decimal.value_ofDigits]
  | @decimal ds es hds hes =>
    rw [List.map_append, List.map_cons, if_pos rfl, hsame hds, hsame hes.2] at hback
    have hne : ds ≠ [] := by
      rintro rfl
      rw [← hback] at hhead
      exact absurd (hmarks.2.symm.trans hhead) (by decide)
    rw [← hdigits] at hback
    exact ⟨_, ofNumeral?_decimal ⟨hne, hds⟩ hes.2 hback.symm, Decimal.value_ofDigits ds es⟩

end Ungrouped

end CalcSpeech
