import CalcSpeech.Proofs.Files.Standing

/-!
# What removing a file leaves

In a proper tree no directory has two entries of one name. There nothing is left in the place of a
file that is removed, nor behind it (`standing_removeFile_below`), and it makes no difference whether
the file was written once more before (`removeFile_putFile?_of_file`).
-/

namespace CalcSpeech.FileTree

/-- No directory in a tree has two entries of one name. -/
inductive IsProper : FileTree → Prop
  | file (content) : IsProper (file content)
  | directory {entries} : (entries.map Prod.fst).Nodup → (∀ entry ∈ entries, IsProper entry.2) →
      IsProper (directory entries)

/-! ## Entries of a directory -/

section Entries

variable {name : String} {tree old : FileTree} {entries : List (String × FileTree)}

theorem mem_of_lookup (h : entries.lookup name = some old) : (name, old) ∈ entries := by
  obtain ⟨front, rest, hsplit, -⟩ := List.lookup_eq_some_iff.mp h
  rw [hsplit]
  exact List.mem_append_right _ List.mem_cons_self

theorem lookup_eq_none_of_not_mem (h : name ∉ entries.map Prod.fst) :
    entries.lookup name = none := by
  cases hlookup : entries.lookup name with
  | none => rfl
  | some old => exact absurd (List.mem_map_of_mem (mem_of_lookup hlookup)) h

/-- An entry that is put in the place of one with its name leaves the names as they are. -/
theorem map_fst_setEntry (h : entries.lookup name = some old) :
    (setEntry name tree entries).map Prod.fst = entries.map Prod.fst := by
  induction entries with
  | nil => cases h
  | cons first rest ih =>
    obtain ⟨other, value⟩ := first
    rw [lookup_entry] at h
    rw [setEntry]
    by_cases hother : other = name
    · rw [if_pos hother, List.map_cons, List.map_cons, hother]
    · rw [if_neg (Ne.symm hother)] at h
      rw [if_neg hother, List.map_cons, List.map_cons, ih h]

theorem mem_setEntry {entry : String × FileTree} (h : entry ∈ setEntry name tree entries) :
    entry = (name, tree) ∨ entry ∈ entries := by
  induction entries with
  | nil => exact Or.inl (List.mem_singleton.mp h)
  | cons first rest ih =>
    obtain ⟨other, value⟩ := first
    rw [setEntry] at h
    split_ifs at h
    · exact (List.mem_cons.mp h).imp_right (List.mem_cons_of_mem _)
    · rcases List.mem_cons.mp h with hfirst | hrest
      · exact Or.inr (hfirst ▸ List.mem_cons_self)
      · exact (ih hrest).imp_right (List.mem_cons_of_mem _)

theorem isProper_setEntry (h : IsProper (directory entries)) (htree : IsProper tree)
    (hlookup : entries.lookup name = some old) :
    IsProper (directory (setEntry name tree entries)) := by
  cases h with
  | directory hnames hentries =>
    refine .directory (by rwa [map_fst_setEntry hlookup]) fun entry hentry => ?_
    rcases mem_setEntry hentry with rfl | hold
    · exact htree
    · exact hentries entry hold

theorem IsProper.of_lookup (h : IsProper (FileTree.directory entries))
    (hlookup : entries.lookup name = some old) : IsProper old := by
  cases h with
  | directory _ hentries => exact hentries _ (mem_of_lookup hlookup)

/-- Of a name that only a file has nothing is left. -/
theorem lookup_withoutFile {content : ByteArray} (hnames : (entries.map Prod.fst).Nodup)
    (h : entries.lookup name = some (file content)) : (withoutFile name entries).lookup name = none := by
  induction entries with
  | nil => cases h
  | cons first rest ih =>
    obtain ⟨other, value⟩ := first
    rw [List.map_cons, List.nodup_cons] at hnames
    rw [lookup_entry] at h
    rw [withoutFile_cons]
    by_cases hother : name = other
    · subst hother
      rw [if_pos rfl] at h
      obtain rfl := Option.some.inj h
      rw [if_neg (by simp [kind])]
      refine lookup_eq_none_of_not_mem fun hmem => hnames.1 ?_
      exact (List.filter_sublist.map Prod.fst).subset hmem
    · rw [if_neg hother] at h
      rw [if_pos (by simp [Ne.symm hother]), lookup_entry, if_neg hother]
      exact ih hnames.2 h

/-- A file that is put in the place of another one goes as the other would have gone. -/
theorem withoutFile_setEntry {content bytes : ByteArray}
    (h : entries.lookup name = some (file content)) :
    withoutFile name (setEntry name (file bytes) entries) = withoutFile name entries := by
  induction entries with
  | nil => cases h
  | cons first rest ih =>
    obtain ⟨other, value⟩ := first
    rw [lookup_entry] at h
    rw [setEntry]
    by_cases hother : name = other
    · subst hother
      rw [if_pos rfl] at h
      obtain rfl := Option.some.inj h
      rw [if_pos rfl]
      simp [withoutFile_cons, kind]
    · rw [if_neg hother] at h
      rw [if_neg (Ne.symm hother), withoutFile_cons, withoutFile_cons, ih h]

end Entries

/-! ## Removing a file -/

section Removal

variable {place names : List String} {tree new : FileTree} {content : ByteArray}

/-- Nothing stands in the place of a file that was removed, nor behind it. -/
theorem standing_removeFile_below (hproper : IsProper tree)
    (hfile : tree.standing place = some (.file content)) (hne : place ≠ [])
    (hbelow : place <+: names) : (tree.removeFile place).standing names = none := by
  induction place generalizing tree names with
  | nil => exact absurd rfl hne
  | cons name rest ih =>
    obtain ⟨more, rfl⟩ := hbelow
    cases tree with
    | file old => cases hfile
    | directory entries =>
      rw [standing_directory_cons] at hfile
      obtain ⟨old, hlookup, hold⟩ := Option.bind_eq_some_iff.mp hfile
      by_cases hrest : rest = []
      · subst hrest
        cases old with
        | directory _ => cases hold
        | file _ =>
          cases hproper with
          | directory hnames _ =>
            rw [removeFile_singleton, List.cons_append, standing_directory_cons,
              lookup_withoutFile hnames hlookup, Option.bind_none]
      · rw [removeFile_cons hrest hlookup, List.cons_append, standing_setEntry, if_pos rfl]
        exact ih (hproper.of_lookup hlookup) hold hrest (List.prefix_append rest more)

/-- A file that is written in the place of another one and removed is as good as the other one
removed. -/
theorem removeFile_putFile?_of_file {bytes : ByteArray → ByteArray}
    (h : tree.putFile? bytes place = some new) (hfile : tree.standing place = some (.file content))
    (hne : place ≠ []) : new.removeFile place = tree.removeFile place := by
  induction place generalizing tree new with
  | nil => exact absurd rfl hne
  | cons name rest ih =>
    cases tree with
    | file old => cases h
    | directory entries =>
      rw [standing_directory_cons] at hfile
      rcases putFile?_cons h with ⟨rfl, hlookup, -⟩ | ⟨old, made, hlookup, hmade, rfl⟩
      · rw [hlookup] at hfile
        cases hfile
      · rw [hlookup] at hfile
        by_cases hrest : rest = []
        · subst hrest
          cases old with
          | directory _ => cases hfile
          | file _ =>
            obtain rfl := Option.some.inj hmade
            rw [removeFile_singleton, removeFile_singleton, withoutFile_setEntry hlookup]
        · have hfound : (setEntry name made entries).lookup name = some made := by
            rw [lookup_setEntry, if_pos rfl]
          rw [removeFile_cons hrest hfound, setEntry_setEntry, removeFile_cons hrest hlookup,
            ih hmade hfile hrest]

/-- A tree without a file is proper if it was so with the file. -/
theorem IsProper.removeFile (h : IsProper tree) (place : List String) :
    IsProper (tree.removeFile place) := by
  induction place generalizing tree with
  | nil => exact h
  | cons name rest ih =>
    cases h with
    | file content => exact .file content
    | @directory entries hnames hentries =>
      by_cases hrest : rest = []
      · subst hrest
        rw [removeFile_singleton]
        exact .directory (hnames.sublist (List.filter_sublist.map Prod.fst)) fun entry hentry =>
          hentries entry (List.mem_of_mem_filter hentry)
      · cases hlookup : entries.lookup name with
        | none =>
          obtain ⟨next, rest, rfl⟩ := List.exists_cons_of_ne_nil hrest
          rw [FileTree.removeFile, hlookup]
          · exact .directory hnames hentries
          · simp
        | some old =>
          rw [removeFile_cons hrest hlookup]
          exact isProper_setEntry (.directory hnames hentries)
            (ih (hentries _ (mem_of_lookup hlookup))) hlookup

end Removal

end CalcSpeech.FileTree
