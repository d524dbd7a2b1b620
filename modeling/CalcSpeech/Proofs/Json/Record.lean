import CalcSpeech.Json.Decode
import CalcSpeech.Proofs.Json.Writing
import Mathlib.Data.List.Forall2
import Mathlib.Data.List.Nodup

/-!
# The ways to give a record

A record may be given by the names of its fields, in any order and among other fields, or by their
places; `IsRecord` says so without a word on how drafts are taken apart. Every draft of these gives the
record (`Fields.Builds.decode`), because what was taken apart so far depends on the names that were
read and not on their order.
-/

namespace CalcSpeech.Json

/-- One field of a record that is to be given: its name, the drafts that give it, and whether it holds
what a missing field is filled with, so that it may be left out. -/
structure FieldForm where
  name : String
  gives : Draft → Prop
  isDefault : Prop

/-- A record with fields of these forms, in the order of their declaration. -/
inductive IsRecord (forms : List FieldForm) : Draft → Prop
  /-- fields by their names: a known one once and with a draft for it, every known one unless it holds
  its default, and any of other names -/
  | named {fields : List (String × Draft)} :
      ((fields.map Prod.fst).filter (· ∈ forms.map FieldForm.name)).Nodup →
      (∀ form ∈ forms, ∀ draft, (form.name, draft) ∈ fields → form.gives draft) →
      (∀ form ∈ forms, form.name ∉ fields.map Prod.fst → form.isDefault) →
      IsRecord forms (.record (fields.map fun field => (some field.1, field.2)) true)
  /-- fields by their places, of which the last ones may be left out if they hold their defaults -/
  | placed {front behind : List FieldForm} {items : List Draft} : forms = front ++ behind →
      List.Forall₂ FieldForm.gives front items → (∀ form ∈ behind, form.isDefault) →
      IsRecord forms (.list items true)

/-- A field is written in one of the ways to give it. -/
def Writes (form : FieldForm) (field : String × Json) : Prop :=
  field.1 = form.name ∧ form.gives field.2.toDraft

theorem exists_form_of_mem {forms : List FieldForm} {fields : List (String × Json)}
    (h : List.Forall₂ Writes forms fields) {field : String × Json} (hfield : field ∈ fields) :
    ∃ form ∈ forms, Writes form field := by
  induction h with
  | nil => exact absurd hfield List.not_mem_nil
  | @cons form first forms fields hfirst _ ih =>
    rcases List.mem_cons.mp hfield with rfl | hfield
    · exact ⟨form, List.mem_cons_self, hfirst⟩
    · obtain ⟨other, hother, hwrites⟩ := ih hfield
      exact ⟨other, List.mem_cons_of_mem _ hother, hwrites⟩

/-- A record written with all its fields is one of the ways to give it. -/
theorem isRecord_record {forms : List FieldForm} {fields : List (String × Json)}
    (hnames : (forms.map FieldForm.name).Nodup) (h : List.Forall₂ Writes forms fields) :
    IsRecord forms (record fields).toDraft := by
  have hgiven : (fields.map fun field => (field.1, field.2.toDraft)).map Prod.fst =
      forms.map FieldForm.name := by
    rw [List.map_map, ← List.forall₂_eq_eq_eq, List.forall₂_map_left_iff, List.forall₂_map_right_iff]
    exact (h.imp fun _ _ hfield => hfield.1).flip
  have hdraft : (record fields).toDraft = .record ((fields.map fun field =>
      (field.1, field.2.toDraft)).map fun field => (some field.1, field.2)) true := by
    rw [toDraft, toFieldDrafts_eq_map, List.map_map]
    rfl
  rw [hdraft]
  refine .named ?_ ?_ ?_
  · rw [hgiven]
    exact hnames.filter _
  · intro form hform draft hmem
    obtain ⟨field, hfield, heq⟩ := List.mem_map.mp hmem
    obtain ⟨hname, rfl⟩ := Prod.mk.inj heq
    obtain ⟨other, hother, hwrites⟩ := exists_form_of_mem h hfield
    rw [List.inj_on_of_nodup_map hnames hform hother (hname.symm.trans hwrites.1)]
    exact hwrites.2
  · intro form hform hnot
    rw [hgiven] at hnot
    exact absurd (List.mem_map_of_mem hform) hnot

/-- The list of all fields of a record is one of the ways to give it. -/
theorem isRecord_list {forms : List FieldForm} {fields : List (String × Json)}
    (h : List.Forall₂ Writes forms fields) :
    IsRecord forms (list (fields.map Prod.snd)).toDraft := by
  rw [toDraft, toDrafts_eq_map, List.map_map]
  refine .placed (List.append_nil forms).symm ?_ (fun _ hform => absurd hform List.not_mem_nil)
  exact List.forall₂_map_right_iff.mpr (h.imp fun _ _ hfield => hfield.2)

/-! ## Whole drafts -/

namespace Draft

theorem areComplete_iff : ∀ {items : List Draft},
    areComplete items = true ↔ ∀ item ∈ items, item.isComplete = true
  | [] => by simp [areComplete]
  | item :: rest => by
    rw [areComplete, Bool.and_eq_true, areComplete_iff, List.forall_mem_cons]

theorem fieldsAreComplete_iff : ∀ {fields : List (Option String × Draft)},
    fieldsAreComplete fields = true ↔ ∀ field ∈ fields, field.2.isComplete = true
  | [] => by simp [fieldsAreComplete]
  | (name, value) :: rest => by
    rw [fieldsAreComplete, Bool.and_eq_true, fieldsAreComplete_iff, List.forall_mem_cons]

end Draft

mutual

/-- What a text spells is complete. -/
theorem Spells.isComplete : ∀ {value : Draft} {text : List Char}, Spells value text →
    value.isComplete = true
  | .broken, _, h => absurd h (by simp [Spells])
  | .null, _, _ | .bool _, _, _ | .number _, _, _ | .text _, _, _ => by rw [Draft.isComplete] <;> simp
  | .list items closed, _, h => by
    rw [Spells] at h
    obtain ⟨rfl, body, -, hbody⟩ := h
    rw [Draft.isComplete, hbody.areComplete]
    rfl
  | .record fields closed, _, h => by
    rw [Spells] at h
    obtain ⟨rfl, body, -, hbody⟩ := h
    rw [Draft.isComplete, hbody.fieldsAreComplete]
    rfl

theorem SpellsItems.areComplete : ∀ {items : List Draft} {body : List Char},
    SpellsItems items body → Draft.areComplete items = true
  | [], _, _ => by rw [Draft.areComplete]
  | item :: rest, _, h => by
    rw [SpellsItems] at h
    obtain ⟨_, _, _, _, -, -, -, hitem, hbehind⟩ := h
    rw [Draft.areComplete, hitem.isComplete, Bool.true_and]
    rcases hbehind with ⟨rfl, -⟩ | ⟨-, more, -, hmore⟩
    · rw [Draft.areComplete]
    · exact hmore.areComplete

theorem SpellsFields.fieldsAreComplete : ∀ {fields : List (Option String × Draft)}
    {body : List Char}, SpellsFields fields body → Draft.fieldsAreComplete fields = true
  | [], _, _ => by rw [Draft.fieldsAreComplete]
  | (name, value) :: rest, _, h => by
    rw [SpellsFields] at h
    obtain ⟨_, _, _, _, _, _, _, -, -, -, -, -, -, hvalue, hbehind⟩ := h
    rw [Draft.fieldsAreComplete, hvalue.isComplete, Bool.true_and]
    rcases hbehind with ⟨rfl, -⟩ | ⟨-, more, -, hmore⟩
    · rw [Draft.fieldsAreComplete]
    · exact hmore.fieldsAreComplete

end

/-! ## Texts -/

/-- A list of values is taken apart if each of them is. -/
theorem mapM_eq_ok {α β ε : Type} {f : α → Except ε β} {as : List α} {bs : List β}
    (h : List.Forall₂ (fun a b => f a = .ok b) as bs) : as.mapM f = .ok bs := by
  induction h with
  | nil => rfl
  | cons hfirst _ ih =>
    rw [List.mapM_cons, hfirst, ih]
    rfl

/-- A list of texts, as a draft. -/
def Draft.ofTexts (texts : List String) : Draft := .list (texts.map fun s => .text (some s)) true

theorem asTexts_ofTexts (texts : List String) : (Draft.ofTexts texts).asTexts = .ok texts := by
  have hitems : (texts.map fun s => Draft.text (some s)).mapM Draft.asText = .ok texts :=
    mapM_eq_ok (List.forall₂_map_left_iff.mpr (List.forall₂_same.mpr fun s _ => rfl))
  rw [Draft.ofTexts, Draft.asTexts, hitems]
  rfl

/-- Texts under names, as a draft. -/
def Draft.ofTextFields (texts : List (String × String)) : Draft :=
  .record (texts.map fun text => (some text.1, .text (some text.2))) true

theorem asTextFields_ofTextFields (texts : List (String × String)) :
    (Draft.ofTextFields texts).asTextFields = .ok texts := by
  rw [Draft.ofTextFields, Draft.asTextFields, @mapM_eq_ok _ _ _ _ _ texts]
  · rfl
  · exact List.forall₂_map_left_iff.mpr (List.forall₂_same.mpr fun text _ => rfl)

/-! ## Fields in any order -/

namespace Fields

variable {α : Type} {known : Fields α} {forms : List FieldForm} {part : List String → α}

/-- How the fields of a record are put into a value: `part` is what becomes of it when the fields of
some names were read, and a draft that gives a further field makes the one of the other. -/
def Builds (known : Fields α) (forms : List FieldForm) (part : List String → α) : Prop :=
  List.Forall₂ (fun field form => field.1 = form.name ∧ ∀ seen draft,
    draft.isComplete = true → form.gives draft →
      field.2 (part seen) draft = .ok (part (form.name :: seen))) known forms

/-- A name under which a field is found is that of its form. -/
theorem Builds.lookup (h : Builds known forms part) (name : String) :
    (known.lookup name = none ∧ name ∉ forms.map FieldForm.name) ∨
      ∃ put, ∃ form ∈ forms, known.lookup name = some put ∧ form.name = name ∧
        ∀ seen draft, draft.isComplete = true → form.gives draft →
          put (part seen) draft = .ok (part (name :: seen)) := by
  induction h with
  | nil => exact Or.inl ⟨rfl, List.not_mem_nil⟩
  | @cons field form known forms hfield _ ih =>
    obtain ⟨fieldName, put⟩ := field
    obtain ⟨rfl, hput⟩ := hfield
    by_cases hname : name = form.name
    · refine Or.inr ⟨put, form, List.mem_cons_self, ?_, hname.symm, ?_⟩
      · rw [List.lookup_cons, hname, beq_self_eq_true]
      · rw [hname]
        exact hput
    · rw [List.lookup_cons, beq_eq_false_iff_ne.mpr hname]
      rcases ih with ⟨hnone, hnot⟩ | ⟨put, other, hother, hsome, heq, hput⟩
      · refine Or.inl ⟨hnone, ?_⟩
        rw [List.map_cons, List.mem_cons, not_or]
        exact ⟨hname, hnot⟩
      · exact Or.inr ⟨put, other, List.mem_cons_of_mem _ hother, hsome, heq, hput⟩

/-- A field of an unknown name is passed over. -/
theorem readNamed_unknown {name : String} (h : known.lookup name = none) {draft : Draft}
    (hdraft : draft.isComplete = true) (seen : List String) (value : α)
    (rest : List (Option String × Draft)) :
    known.readNamed seen value ((some name, draft) :: rest) = known.readNamed seen value rest := by
  simp only [Fields.readNamed, Draft.fieldName, bind, Except.bind, h, Draft.skip, hdraft, if_true]

/-- A known field is put into the value. -/
theorem readNamed_known {name : String} {put : α → Draft → Except Fault α}
    (h : known.lookup name = some put) {seen : List String} (hnew : name ∉ seen) {value next : α}
    {draft : Draft} (hput : put value draft = .ok next) (rest : List (Option String × Draft)) :
    known.readNamed seen value ((some name, draft) :: rest) =
      known.readNamed (name :: seen) next rest := by
  simp only [Fields.readNamed, Draft.fieldName, bind, Except.bind, h, List.contains_eq_mem, hnew,
    decide_false, hput]
  rfl

/-- Named fields are read up to the last one, whatever their order and whatever stands among them. -/
theorem Builds.readNamed (h : Builds known forms part) {fields : List (String × Draft)}
    {seen : List String} (hcomplete : ∀ field ∈ fields, field.2.isComplete = true)
    (honce : ((fields.map Prod.fst).filter (· ∈ forms.map FieldForm.name)).Nodup)
    (hnew : ∀ form ∈ forms, form.name ∈ fields.map Prod.fst → form.name ∉ seen)
    (hgives : ∀ form ∈ forms, ∀ draft, (form.name, draft) ∈ fields → form.gives draft) :
    ∃ read, known.readNamed seen (part seen) (fields.map fun field => (some field.1, field.2)) =
        .ok (read, part read) ∧
      ∀ form ∈ forms, form.name ∈ read ↔ form.name ∈ seen ∨ form.name ∈ fields.map Prod.fst := by
  induction fields generalizing seen with
  | nil => exact ⟨seen, rfl, fun form _ => by rw [List.map_nil, or_iff_left List.not_mem_nil]⟩
  | cons field rest ih =>
    obtain ⟨name, draft⟩ := field
    obtain ⟨hdraft, hrest⟩ := List.forall_mem_cons.mp hcomplete
    have hgivesRest : ∀ form ∈ forms, ∀ draft, (form.name, draft) ∈ rest → form.gives draft :=
      fun form hform draft hmem => hgives form hform draft (List.mem_cons_of_mem _ hmem)
    rcases h.lookup name with ⟨hnone, hunknown⟩ | ⟨put, form, hform, hsome, rfl, hput⟩
    · -- a field of another name changes nothing, neither the value nor what was read
      rw [List.map_cons, List.filter_cons_of_neg (by simpa using hunknown)] at honce
      obtain ⟨read, hread, hmem⟩ := ih hrest honce
        (fun form hform hlater => hnew form hform (List.mem_cons_of_mem _ hlater)) hgivesRest
      refine ⟨read, (readNamed_unknown hnone hdraft seen _ _).trans hread, ?_⟩
      intro other hother
      have hne : other.name ≠ name := by
        rintro rfl
        exact hunknown (List.mem_map_of_mem hother)
      rw [hmem other hother, List.map_cons, List.mem_cons, or_iff_right hne]
    · -- a known field comes only once, so its name is none of those that are read later
      have hknown : form.name ∈ forms.map FieldForm.name := List.mem_map_of_mem hform
      rw [List.map_cons, List.filter_cons_of_pos (by simpa using hknown), List.nodup_cons] at honce
      have hlater : ∀ other ∈ forms, other.name ∈ rest.map Prod.fst →
          other.name ∉ form.name :: seen := by
        intro other hother hmem
        rw [List.mem_cons, not_or]
        refine ⟨?_, hnew other hother (List.mem_cons_of_mem _ hmem)⟩
        intro heq
        rw [heq] at hmem
        exact honce.1 (List.mem_filter.mpr ⟨hmem, by simpa using hknown⟩)
      obtain ⟨read, hread, hmem⟩ := ih hrest honce.2 hlater hgivesRest
      have hfirst := hput seen draft hdraft (hgives form hform draft List.mem_cons_self)
      refine ⟨read, (readNamed_known hsome (hnew form hform List.mem_cons_self) hfirst _).trans hread,
        ?_⟩
      intro other hother
      rw [hmem other hother, List.map_cons, List.mem_cons, List.mem_cons, or_assoc, or_left_comm]

/-- Placed fields are read up to the last one that is given. -/
theorem Builds.readPlaced {front behind : List FieldForm} {items : List Draft}
    (h : Builds known (front ++ behind) part) (seen : List String)
    (hcomplete : ∀ item ∈ items, item.isComplete = true)
    (hgives : List.Forall₂ FieldForm.gives front items) :
    ∃ read, known.readPlaced seen (part seen) items = .ok (read, part read) ∧
      ∀ name, name ∈ seen ∨ name ∈ front.map FieldForm.name → name ∈ read := by
  induction hgives generalizing known seen with
  | nil =>
    refine ⟨seen, by rw [Fields.readPlaced], fun name hname => ?_⟩
    exact hname.resolve_right List.not_mem_nil
  | @cons form draft front items hdraft _ ih =>
    cases h with
    | @cons field _ known _ hfield hknown =>
      obtain ⟨fieldName, put⟩ := field
      obtain ⟨rfl, hput⟩ := hfield
      obtain ⟨hfirst, hrest⟩ := List.forall_mem_cons.mp hcomplete
      obtain ⟨read, hread, hmem⟩ := ih hknown (form.name :: seen) hrest
      have hnext : put (part seen) draft = .ok (part (form.name :: seen)) :=
        hput seen draft hfirst hdraft
      refine ⟨read, ?_, ?_⟩
      · rw [Fields.readPlaced, hnext]
        exact hread
      · intro name hname
        apply hmem
        rwa [List.map_cons, List.mem_cons, or_left_comm, ← or_assoc, ← List.mem_cons] at hname

/-- A record none of whose fields is required is read from every draft that gives it. -/
theorem Builds.decode (h : Builds known forms part) {whole : α}
    (hwhole : ∀ read, (∀ form ∈ forms, form.name ∈ read ∨ form.isDefault) → part read = whole)
    {draft : Draft} (hdraft : IsRecord forms draft) (hcomplete : draft.isComplete = true) :
    known.decode [] (part []) draft = .ok whole := by
  cases hdraft with
  | @named fields honce hgives hdefault =>
    rw [Draft.isComplete, Bool.true_and, Draft.fieldsAreComplete_iff, List.forall_mem_map] at hcomplete
    obtain ⟨read, hread, hmem⟩ := h.readNamed hcomplete honce
      (fun _ _ _ => List.not_mem_nil) hgives
    have hpart := hwhole read fun form hform =>
      or_iff_not_imp_left.mpr fun hnot => hdefault form hform fun hgiven =>
        hnot ((hmem form hform).mpr (Or.inr hgiven))
    rw [Fields.decode, hread, hpart]
    rfl
  | @placed front behind items hforms hgives hdefault =>
    subst hforms
    rw [Draft.isComplete, Bool.true_and, Draft.areComplete_iff] at hcomplete
    obtain ⟨read, hread, hmem⟩ := h.readPlaced [] hcomplete hgives
    have hpart := hwhole read fun form hform => (List.mem_append.mp hform).imp
      (fun hfront => hmem form.name (Or.inr (List.mem_map_of_mem hfront))) (hdefault form)
    rw [Fields.decode, hread, hpart]
    rfl

end Fields

end CalcSpeech.Json
