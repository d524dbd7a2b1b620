import CalcSpeech.Files.FileTree
import Mathlib.Data.List.Basic
import Mathlib.Data.List.Infix

/-!
# What stands at a place

A file tree seen from outside: what stands at each row of names, a directory or a file with its
content. Two trees differ in nothing that matters where the same stands at every row, and each change
of a tree is told by the rows at which it changes something.
-/

namespace CalcSpeech

namespace FileTree

/-- A directory, whatever is in it, or a file with its content. -/
inductive Entry where
  | directory
  | file (content : ByteArray)

/-- A tree without what is in it. -/
def entry : FileTree → Entry
  | .file content => .file content
  | .directory _ => .directory

/-- What stands at a row of names. -/
def standing (names : List String) (tree : FileTree) : Option Entry := (tree.find? names).map entry

@[simp] theorem standing_nil (tree : FileTree) : standing [] tree = some tree.entry := rfl

@[simp] theorem standing_file_cons (name : String) (rest : List String) (content : ByteArray) :
    standing (name :: rest) (file content) = none := rfl

theorem standing_directory_cons (name : String) (rest : List String)
    (entries : List (String × FileTree)) :
    standing (name :: rest) (directory entries) = (entries.lookup name).bind (standing rest) := by
  rw [standing, find?]
  cases entries.lookup name with
  | none => rfl
  | some tree => rfl

/-- Whether a directory stands somewhere. -/
theorem kind_eq_directory_iff {names : List String} {tree : FileTree} :
    (tree.find? names).map (·.kind) = some .directory ↔ tree.standing names = some .directory := by
  rw [standing]
  cases tree.find? names with
  | none => simp
  | some found => cases found <;> simp [kind, entry]

/-- Whether a plain file stands somewhere. -/
theorem kind_eq_file_iff {names : List String} {tree : FileTree} :
    (tree.find? names).map (·.kind) = some .file ↔
      ∃ content, tree.standing names = some (.file content) := by
  rw [standing]
  cases tree.find? names with
  | none => simp
  | some found => cases found <;> simp [kind, entry]

/-- Around everything stand directories. -/
theorem directory_around {names more : List String} {tree : FileTree} {found : Entry}
    (h : tree.standing (names ++ more) = some found) (hmore : more ≠ []) :
    tree.standing names = some .directory := by
  induction names generalizing tree with
  | nil =>
    cases tree with
    | directory entries => rfl
    | file content =>
      obtain ⟨name, rest, rfl⟩ := List.exists_cons_of_ne_nil hmore
      cases h
  | cons name rest ih =>
    cases tree with
    | file content => cases h
    | directory entries =>
      rw [List.cons_append, standing_directory_cons] at h
      rw [standing_directory_cons]
      obtain ⟨old, hold, h⟩ := Option.bind_eq_some_iff.mp h
      rw [hold]
      exact ih h

theorem directory_of_append {names more : List String} {tree : FileTree}
    (h : tree.standing (names ++ more) = some .directory) : tree.standing names = some .directory := by
  by_cases hmore : more = []
  · rwa [hmore, List.append_nil] at h
  · exact directory_around h hmore

/-! ## Entries of a directory -/

theorem lookup_entry (name old : String) (value : FileTree) (rest : List (String × FileTree)) :
    ((old, value) :: rest).lookup name = if name = old then some value else rest.lookup name := by
  by_cases h : name = old
  · rw [if_pos h, h, List.lookup_cons, beq_self_eq_true]
  · rw [if_neg h, List.lookup_cons, beq_eq_false_iff_ne.mpr h]

theorem lookup_setEntry (name other : String) (tree : FileTree) (entries : List (String × FileTree)) :
    (setEntry name tree entries).lookup other =
      if other = name then some tree else entries.lookup other := by
  induction entries with
  | nil => rw [setEntry, lookup_entry]
  | cons first rest ih =>
    obtain ⟨old, value⟩ := first
    rw [setEntry]
    by_cases hold : old = name
    · rw [if_pos hold, lookup_entry, lookup_entry, hold]
      by_cases h : other = name <;> simp only [h, if_true, if_false]
    · rw [if_neg hold, lookup_entry, lookup_entry, ih]
      by_cases h : other = old
      · rw [if_pos h, if_pos h, if_neg (by rw [h]; exact hold)]
      · rw [if_neg h, if_neg h]

/-- Something is put in the place of an entry. -/
theorem standing_setEntry (name other : String) (more : List String) (tree : FileTree)
    (entries : List (String × FileTree)) :
    standing (other :: more) (directory (setEntry name tree entries)) =
      if other = name then tree.standing more
      else standing (other :: more) (directory entries) := by
  rw [standing_directory_cons, standing_directory_cons, lookup_setEntry]
  by_cases h : other = name
  · rw [if_pos h, if_pos h]
    rfl
  · rw [if_neg h, if_neg h]

/-- An entry that is put in its own place. -/
theorem setEntry_lookup {name : String} {tree : FileTree} {entries : List (String × FileTree)}
    (h : entries.lookup name = some tree) : setEntry name tree entries = entries := by
  induction entries with
  | nil => cases h
  | cons first rest ih =>
    obtain ⟨old, value⟩ := first
    rw [setEntry]
    rw [lookup_entry] at h
    by_cases hold : old = name
    · rw [if_pos hold.symm] at h
      rw [if_pos hold, Option.some.inj h, hold]
    · rw [if_neg (Ne.symm hold)] at h
      rw [if_neg hold, ih h]

/-- Of two entries put in one place the last one stays. -/
theorem setEntry_setEntry (name : String) (tree other : FileTree)
    (entries : List (String × FileTree)) :
    setEntry name tree (setEntry name other entries) = setEntry name tree entries := by
  induction entries with
  | nil => simp only [setEntry, if_true]
  | cons first rest ih =>
    obtain ⟨old, value⟩ := first
    by_cases hold : old = name
    · rw [setEntry, if_pos hold, setEntry, if_pos rfl, setEntry, if_pos hold]
    · rw [setEntry, if_neg hold, setEntry, if_neg hold, setEntry, if_neg hold, ih]

/-! ## Making directories -/

theorem standing_nested (names other : List String) :
    (nested names).standing other = if other <+: names then some .directory else none := by
  induction names generalizing other with
  | nil => cases other <;> simp [nested, entry, standing_directory_cons]
  | cons name rest ih =>
    cases other with
    | nil => simp [nested, entry]
    | cons first more =>
      rw [nested, standing_directory_cons, lookup_entry]
      by_cases h : first = name <;> simp [h, ih]

/-- Making directories puts directories on the way and changes nothing else. -/
theorem standing_makeDirectories? {names : List String} {tree new : FileTree}
    (h : tree.makeDirectories? names = some new) (other : List String) :
    new.standing other = if other <+: names then some .directory else tree.standing other := by
  induction names generalizing tree new other with
  | nil =>
    cases tree with
    | file content => cases h
    | directory entries =>
      obtain rfl := Option.some.inj h
      cases other <;> simp [entry]
  | cons name rest ih =>
    cases tree with
    | file content => cases h
    | directory entries =>
      rw [makeDirectories?] at h
      cases hlookup : entries.lookup name with
      | none =>
        -- from the first missing name on every directory is new
        rw [hlookup] at h
        obtain rfl := Option.some.inj h
        cases other with
        | nil => simp [entry]
        | cons first more =>
          rw [standing_setEntry, standing_nested]
          by_cases hname : first = name
          · simp [hname, standing_directory_cons, hlookup]
          · simp [hname]
      | some old =>
        rw [hlookup] at h
        obtain ⟨made, hmade, rfl⟩ := Option.map_eq_some_iff.mp h
        cases other with
        | nil => simp [entry]
        | cons first more =>
          rw [standing_setEntry, ih hmade]
          by_cases hname : first = name
          · simp [hname, standing_directory_cons, hlookup]
          · simp [hname]

/-- Directories are not made in the place of a file. -/
theorem makeDirectories?_ne_file {names : List String} {tree new : FileTree}
    (h : tree.makeDirectories? names = some new) (content : ByteArray) :
    tree.standing names ≠ some (.file content) := by
  induction names generalizing tree new with
  | nil =>
    cases tree with
    | file _ => cases h
    | directory entries => simp [entry]
  | cons name rest ih =>
    cases tree with
    | file content => cases h
    | directory entries =>
      rw [makeDirectories?] at h
      rw [standing_directory_cons]
      cases hlookup : entries.lookup name with
      | none => simp
      | some old =>
        rw [hlookup] at h
        obtain ⟨made, hmade, -⟩ := Option.map_eq_some_iff.mp h
        exact ih hmade

/-! ## Writing and removing files -/

/-- What writing a file comes to in the outermost directory. -/
theorem putFile?_cons {content : ByteArray → ByteArray} {name : String} {rest : List String}
    {entries : List (String × FileTree)} {new : FileTree}
    (h : (directory entries).putFile? content (name :: rest) = some new) :
    (rest = [] ∧ entries.lookup name = none ∧
      new = directory (setEntry name (file (content ByteArray.empty)) entries)) ∨
    ∃ old made, entries.lookup name = some old ∧ old.putFile? content rest = some made ∧
      new = directory (setEntry name made entries) := by
  cases hlookup : entries.lookup name with
  | none =>
    cases rest with
    | nil =>
      rw [putFile?, hlookup] at h
      exact Or.inl ⟨rfl, rfl, (Option.some.inj h).symm⟩
    | cons next rest =>
      rw [putFile?, hlookup] at h
      · cases h
      · simp
  | some old =>
    refine Or.inr ⟨old, ?_⟩
    cases rest with
    | nil =>
      rw [putFile?, hlookup] at h
      obtain ⟨made, hmade, rfl⟩ := Option.map_eq_some_iff.mp h
      exact ⟨made, rfl, hmade, rfl⟩
    | cons next rest =>
      rw [putFile?, hlookup] at h
      · obtain ⟨made, hmade, hnew⟩ := Option.bind_eq_some_iff.mp (id h :
          (old.putFile? content (next :: rest)).bind _ = some new)
        exact ⟨made, rfl, hmade, (Option.some.inj hnew).symm⟩
      · simp

/-- Writing a file changes what stands in its place, where no directory stands. -/
theorem standing_putFile? {content : ByteArray → ByteArray} {names : List String}
    {tree new : FileTree} (h : tree.putFile? content names = some new) :
    tree.standing names ≠ some .directory ∧ ∃ bytes, ∀ other,
      new.standing other = if other = names then some (.file bytes) else tree.standing other := by
  induction names generalizing tree new with
  | nil =>
    cases tree with
    | directory entries => cases h
    | file old =>
      obtain rfl := Option.some.inj h
      refine ⟨by simp [entry], content old, fun other => ?_⟩
      cases other <;> simp [entry]
  | cons name rest ih =>
    cases tree with
    | file old => cases h
    | directory entries =>
      rw [standing_directory_cons]
      rcases putFile?_cons h with ⟨rfl, hlookup, rfl⟩ | ⟨old, made, hlookup, hmade, rfl⟩
      · refine ⟨by simp [hlookup], content ByteArray.empty, fun other => ?_⟩
        cases other with
        | nil => simp [entry]
        | cons first more =>
          rw [standing_setEntry]
          by_cases hname : first = name
          · cases more <;> simp [hname, entry, standing_directory_cons, hlookup]
          · simp [hname]
      · obtain ⟨hold, bytes, hbytes⟩ := ih hmade
        rw [hlookup]
        refine ⟨hold, bytes, fun other => ?_⟩
        cases other with
        | nil => simp [entry]
        | cons first more =>
          rw [standing_setEntry, hbytes]
          by_cases hname : first = name <;> simp [hname, standing_directory_cons, hlookup]

/-- The entries of a directory without the files of some name. -/
def withoutFile (name : String) (entries : List (String × FileTree)) : List (String × FileTree) :=
  entries.filter fun (other, tree) => other != name || tree.kind == .directory

theorem withoutFile_cons (name old : String) (value : FileTree) (rest : List (String × FileTree)) :
    withoutFile name ((old, value) :: rest) =
      if old != name || value.kind == .directory then (old, value) :: withoutFile name rest
      else withoutFile name rest := by
  rw [withoutFile, List.filter_cons]
  rfl

theorem removeFile_singleton (name : String) (entries : List (String × FileTree)) :
    (directory entries).removeFile [name] = directory (withoutFile name entries) := by
  rw [removeFile]
  rfl

/-- What removing a file comes to in the outermost directory. -/
theorem removeFile_cons {name : String} {rest : List String} (hrest : rest ≠ [])
    {entries : List (String × FileTree)} {old : FileTree} (h : entries.lookup name = some old) :
    (directory entries).removeFile (name :: rest) =
      directory (setEntry name (old.removeFile rest) entries) := by
  obtain ⟨next, rest, rfl⟩ := List.exists_cons_of_ne_nil hrest
  rw [removeFile, h]
  simp

theorem lookup_withoutFile_of_ne {name other : String} (h : other ≠ name)
    (entries : List (String × FileTree)) :
    (withoutFile name entries).lookup other = entries.lookup other := by
  induction entries with
  | nil => rfl
  | cons first rest ih =>
    obtain ⟨old, value⟩ := first
    rw [withoutFile_cons, lookup_entry]
    by_cases hold : other = old
    · have hkept : (old != name) = true := by simpa [← hold] using h
      simp [hkept, hold]
    · split_ifs
      · rw [lookup_entry, if_neg hold, ih]
      · exact ih

/-- Removing a file changes nothing but its place. -/
theorem standing_removeFile {names other : List String} (h : ¬ names <+: other) (tree : FileTree) :
    (tree.removeFile names).standing other = tree.standing other := by
  induction names generalizing tree other with
  | nil => exact absurd List.nil_prefix h
  | cons name rest ih =>
    cases tree with
    | file content => rw [removeFile]
    | directory entries =>
      by_cases hrest : rest = []
      · subst hrest
        rw [removeFile_singleton]
        cases other with
        | nil => rfl
        | cons first more =>
          have hname : first ≠ name := by
            rintro rfl
            exact h (by simp)
          rw [standing_directory_cons, standing_directory_cons, lookup_withoutFile_of_ne hname]
      · cases hlookup : entries.lookup name with
        | none =>
          obtain ⟨next, rest, rfl⟩ := List.exists_cons_of_ne_nil hrest
          rw [removeFile, hlookup]
          simp
        | some old =>
          rw [removeFile_cons hrest hlookup]
          cases other with
          | nil => rfl
          | cons first more =>
            rw [standing_setEntry]
            by_cases hname : first = name
            · have hmore : ¬ rest <+: more := fun hprefix =>
                h (List.cons_prefix_cons.mpr ⟨hname.symm, hprefix⟩)
              rw [if_pos hname, ih hmore, standing_directory_cons, hname, hlookup]
              rfl
            · rw [if_neg hname]

/-- An entry that was put behind the others is the one that is taken away again. -/
theorem withoutFile_setEntry_of_none {name : String} {entries : List (String × FileTree)}
    (h : entries.lookup name = none) (content : ByteArray) :
    withoutFile name (setEntry name (file content) entries) = entries := by
  induction entries with
  | nil => simp [withoutFile, setEntry, kind]
  | cons first rest ih =>
    obtain ⟨old, value⟩ := first
    rw [lookup_entry] at h
    split_ifs at h with hold
    rw [setEntry, if_neg (Ne.symm hold), withoutFile_cons, ih h, if_pos]
    simpa using Or.inl (Ne.symm hold)

/-- A file that is written where nothing stands and removed again leaves no trace. -/
theorem removeFile_putFile? {content : ByteArray → ByteArray} {names : List String}
    {tree new : FileTree} (h : tree.putFile? content names = some new)
    (hnone : tree.standing names = none) : new.removeFile names = tree := by
  induction names generalizing tree new with
  | nil => cases hnone
  | cons name rest ih =>
    cases tree with
    | file old => cases h
    | directory entries =>
      rw [standing_directory_cons] at hnone
      rcases putFile?_cons h with ⟨rfl, hlookup, rfl⟩ | ⟨old, made, hlookup, hmade, rfl⟩
      · rw [removeFile_singleton, withoutFile_setEntry_of_none hlookup]
      · rw [hlookup] at hnone
        have hrest : rest ≠ [] := by
          rintro rfl
          cases hnone
        have hfound : (setEntry name made entries).lookup name = some made := by
          rw [lookup_setEntry, if_pos rfl]
        rw [removeFile_cons hrest hfound, setEntry_setEntry, ih hmade hnone, setEntry_lookup hlookup]

end FileTree

end CalcSpeech
