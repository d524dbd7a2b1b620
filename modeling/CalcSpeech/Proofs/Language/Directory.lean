import CalcSpeech.Proofs.Session.Loading
import Mathlib.Data.List.Forall2
import Mathlib.Data.String.Basic

/-!
# What loading a directory comes to

The pack files of a directory are registered one after the other, in the order of their names and
not in the order in which the directory lists them, up to the first that holds no valid pack
(`loadDirectory_overwrites`). So a registry is overwritten by the packs in front of that file, and by
all packs if there is none. Nothing is taken back where the loading fails: what was registered before
the failure stays (`loadDirectory_keeps_loaded`).
-/

namespace CalcSpeech

namespace Disk

/-- The file at a path holds a valid pack. -/
def HoldsPack (disk : Disk) (path : String) (pack : LanguagePack) : Prop :=
  ∃ bytes text, disk.read? path = some bytes ∧ String.fromUTF8? bytes = some text ∧
    LanguagePack.ofText text = .ok pack

/-- A name in a directory is that of a pack file: it leads to a plain file and has the extension. -/
def isPackFile (disk : Disk) (directory name : String) : Bool :=
  (disk.find? (Path.join directory name)).map (·.kind) == some .file &&
    Path.hasExtension name "json"

end Disk

namespace Registry

/-! ## Names in order -/

/-- Putting a new name in its place keeps names in ascending order. -/
theorem pairwise_insertSorted {name : String} {names : List String}
    (h : names.Pairwise (· < ·)) (hnew : name ∉ names) :
    (insertSorted name names).Pairwise (· < ·) := by
  induction names with
  | nil => exact List.pairwise_singleton _ _
  | cons first rest ih =>
    obtain ⟨hfirst, hrest⟩ := List.pairwise_cons.mp h
    unfold insertSorted
    split
    · rename_i hlt
      refine List.pairwise_cons.mpr ⟨?_, h⟩
      intro other hother
      rcases List.mem_cons.mp hother with rfl | hother
      · exact hlt
      · exact String.lt_trans hlt (hfirst other hother)
    · rename_i hnot
      rw [List.mem_cons, not_or] at hnew
      refine List.pairwise_cons.mpr ⟨?_, ih hrest hnew.2⟩
      intro other hother
      rcases mem_insertSorted.mp hother with rfl | hother
      · exact lt_of_le_of_ne (not_lt.mp hnot) (fun heq => hnew.1 heq.symm)
      · exact hfirst other hother

/-- Different names are sorted upwards. -/
theorem pairwise_foldr_insertSorted {names : List String} (h : names.Nodup) :
    (names.foldr insertSorted []).Pairwise (· < ·) := by
  induction names with
  | nil => exact List.Pairwise.nil
  | cons name rest ih =>
    obtain ⟨hnew, hrest⟩ := List.nodup_cons.mp h
    exact pairwise_insertSorted (ih hrest) (fun hmem => hnew (mem_foldr_insertSorted.mp hmem))

/-- There is one way to put names in ascending order. -/
theorem eq_of_ascending {names others : List String} (h : names.Pairwise (· < ·))
    (hothers : others.Pairwise (· < ·)) (hmem : ∀ name, name ∈ names ↔ name ∈ others) :
    names = others := by
  have hnodup {names : List String} (h : names.Pairwise (· < ·)) : names.Nodup :=
    h.imp fun hlt => ne_of_lt hlt
  refine List.Perm.eq_of_pairwise (fun a b _ _ hab hba => ?_) h hothers
    ((List.perm_ext_iff_of_nodup (hnodup h) (hnodup hothers)).mpr hmem)
  exact absurd (lt_trans hab hba) (lt_irrefl a)

/-! ## Packs over packs -/

/-- The last of a row of packs with a code, as it is registered under the code. -/
def lastOf? (packs : List LanguagePack) (code : String) : Option LanguagePack :=
  (packs.reverse.find? fun pack => LanguageCode.normalize pack.code == code).map ({ · with code })

/-- A registry holds what another one holds, overwritten by a row of packs. -/
def Overwritten (registry : Registry) (packs : List LanguagePack) (after : Registry) : Prop :=
  ∀ code, (after.find? code).map (·.pack) =
    (lastOf? packs code).or ((registry.find? code).map (·.pack))

theorem lastOf?_cons (pack : LanguagePack) (rest : List LanguagePack) (code : String) :
    lastOf? (pack :: rest) code = (lastOf? rest code).or
      (if code = LanguageCode.normalize pack.code then some { pack with code } else none) := by
  unfold lastOf?
  rw [List.reverse_cons, List.find?_append, List.find?_singleton]
  cases rest.reverse.find? fun pack => LanguageCode.normalize pack.code == code with
  | some found => rfl
  | none =>
    rw [Option.none_or, Option.map_none, Option.none_or]
    by_cases hcode : code = LanguageCode.normalize pack.code
    · rw [if_pos hcode, if_pos (beq_iff_eq.mpr hcode.symm), Option.map_some]
    · rw [if_neg hcode, if_neg (fun he => hcode (beq_iff_eq.mp he).symm), Option.map_none]

/-- Registering packs overwrites a registry by them. -/
theorem overwritten_registerAll {registry after : Registry} {packs : List LanguagePack}
    (h : registry.registerAll packs = .ok after) : registry.Overwritten packs after := by
  induction packs generalizing registry with
  | nil =>
    cases h
    intro code
    rfl
  | cons pack rest ih =>
    obtain ⟨first, hfirst, hafter⟩ := registerAll_cons.mp h
    intro code
    rw [ih hafter code, lastOf?_cons, Option.or_assoc, (find?_register hfirst code).2]
    by_cases hcode : code = LanguageCode.normalize pack.code
    · rw [if_pos hcode, if_pos hcode, Option.map_some, Option.some_or, hcode]
    · rw [if_neg hcode, if_neg hcode, Option.none_or]

/-! ## One file after the other -/

/-- A pack that could be read is valid, and so it is registered. -/
theorem exists_register_of_ofText {text : String} {pack : LanguagePack}
    (h : LanguagePack.ofText text = .ok pack) (registry : Registry) :
    ∃ after, registry.register pack = .ok after := by
  have hvalid : pack.fault? = none := by
    unfold LanguagePack.ofText at h
    split at h
    · cases h
    · cases h
    · split at h
      · cases h
      · obtain rfl := Except.ok.inj h
        assumption
  unfold register
  rw [hvalid]
  exact ⟨_, rfl⟩

/-- A file that holds a pack is registered with it, any other file is not registered. -/
theorem registerBytes_cases (registry : Registry) (disk : Disk) (path : String) :
    (∃ pack after, disk.HoldsPack path pack ∧ registry.register pack = .ok after ∧
      registry.registerBytes (disk.read? path) = .ok (pack, after)) ∨
    (∀ pack, ¬ disk.HoldsPack path pack) ∧
      ∃ failure, registry.registerBytes (disk.read? path) = .error failure := by
  cases hbytes : disk.read? path with
  | none =>
    refine Or.inr ⟨?_, .io "the file cannot be read", rfl⟩
    rintro pack ⟨bytes, text, hread, -, -⟩
    rw [hbytes] at hread
    cases hread
  | some bytes =>
    cases htext : String.fromUTF8? bytes with
    | none =>
      have hfailed : registry.registerBytes (some bytes) = .error (.io "the file cannot be read") := by
        simp only [registerBytes, Option.bind_some, htext]
        rfl
      refine Or.inr ⟨?_, _, hfailed⟩
      rintro pack ⟨_, text, hread, hdecoded, -⟩
      obtain rfl := Option.some.inj (hbytes.symm.trans hread)
      rw [htext] at hdecoded
      cases hdecoded
    | some text =>
      cases hpack : LanguagePack.ofText text with
      | error fault =>
        have hfailed : registry.registerBytes (some bytes) = .error (.languagePack fault) := by
          simp only [registerBytes, Option.bind_some, htext, hpack]
          rfl
        refine Or.inr ⟨?_, _, hfailed⟩
        rintro pack ⟨_, _, hread, hdecoded, hvalid⟩
        obtain rfl := Option.some.inj (hbytes.symm.trans hread)
        obtain rfl := Option.some.inj (htext.symm.trans hdecoded)
        rw [hpack] at hvalid
        cases hvalid
      | ok pack =>
        obtain ⟨after, hafter⟩ := exists_register_of_ofText hpack registry
        refine Or.inl ⟨pack, after, ⟨bytes, text, hbytes, htext, hpack⟩, hafter, ?_⟩
        simp only [registerBytes, Option.bind_some, htext, hpack]
        show ((registry.register pack).mapError Failure.languagePack >>= _) = _
        rw [hafter]
        rfl

/-- What loading a row of files comes to: all of them hold packs and are registered, or the loading
ends at the first that holds none. -/
theorem loadFiles_cases (disk : Disk) (loading : Loading) (hstarted : loading.failure = none)
    (paths : List String) :
    (∃ packs, List.Forall₂ disk.HoldsPack paths packs ∧
      ((loadFiles loading paths : StateM Disk Loading).run disk).1.failure = none ∧
      ((loadFiles loading paths : StateM Disk Loading).run disk).1.loaded =
        loading.loaded ++ paths.zip packs ∧
      loading.registry.registerAll packs =
        .ok ((loadFiles loading paths : StateM Disk Loading).run disk).1.registry) ∨
    ∃ before path later packs failure, paths = before ++ path :: later ∧
      List.Forall₂ disk.HoldsPack before packs ∧ (∀ pack, ¬ disk.HoldsPack path pack) ∧
      ((loadFiles loading paths : StateM Disk Loading).run disk).1.failure = some failure ∧
      loading.registry.registerAll packs =
        .ok ((loadFiles loading paths : StateM Disk Loading).run disk).1.registry := by
  induction paths generalizing loading with
  | nil => exact Or.inl ⟨[], .nil, hstarted, (List.append_nil _).symm, rfl⟩
  | cons path rest ih =>
    have hbytes : StateT.run (FileSystem.read? path : StateM Disk _) disk =
        (disk.read? path, disk) := rfl
    rw [loadFiles, StateT.run_bind, hbytes, id_bind]
    rcases loading.registry.registerBytes_cases disk path with
      ⟨pack, after, hpack, hafter, hread⟩ | ⟨hnone, failure, hread⟩
    · rw [hread]
      rcases ih { loading with registry := after, loaded := loading.loaded ++ [(path, pack)] }
          hstarted with
        ⟨packs, hpacks, hfailure, hloaded, hall⟩ |
        ⟨before, last, later, packs, failure, hpaths, hpacks, hlast, hfailure, hall⟩
      · refine Or.inl ⟨pack :: packs, .cons hpack hpacks, hfailure, ?_,
          registerAll_cons.mpr ⟨after, hafter, hall⟩⟩
        rw [hloaded, List.append_assoc]
        rfl
      · exact Or.inr ⟨path :: before, last, later, pack :: packs, failure, by rw [hpaths]; rfl,
          .cons hpack hpacks, hlast, hfailure, registerAll_cons.mpr ⟨after, hafter, hall⟩⟩
    · rw [hread]
      exact Or.inr ⟨[], path, rest, [], failure, rfl, .nil, hnone, rfl, rfl⟩

/-- The paths of the pack files among names, in the order of the names. -/
theorem run_packPaths (disk : Disk) (directory : String) (names : List String) :
    (packPaths directory names : StateM Disk (List String)).run disk =
      ((names.filter (disk.isPackFile directory)).map (Path.join directory), disk) := by
  induction names with
  | nil => rfl
  | cons name rest ih =>
    have hkind : StateT.run (FileSystem.kind? (Path.join directory name) : StateM Disk _) disk =
        ((disk.find? (Path.join directory name)).map (·.kind), disk) := rfl
    rw [packPaths, StateT.run_bind, ih, id_bind, StateT.run_bind, hkind, id_bind]
    by_cases hpack : (disk.find? (Path.join directory name)).map (·.kind) = some .file ∧
        Path.hasExtension name "json" = true
    · have hfile : disk.isPackFile directory name = true := by
        rw [Disk.isPackFile, hpack.1, hpack.2]
        rfl
      rw [if_pos hpack, List.filter_cons_of_pos hfile]
      rfl
    · have hother : ¬ disk.isPackFile directory name = true := by
        rw [Disk.isPackFile, Bool.and_eq_true, beq_iff_eq]
        exact hpack
      rw [if_neg hpack, List.filter_cons_of_neg hother]
      rfl

/-- Loading a directory loads its pack files in ascending order, whatever the order of its
entries. -/
theorem run_loadDirectory (registry : Registry) {disk : Disk} {directory : String}
    {entries : List (String × FileTree)} (hentries : disk.find? directory = some (.directory entries))
    (hdistinct : (entries.map (·.1)).Nodup) {files : List String} (hfiles : files.Pairwise (· < ·))
    (hmem : ∀ name, name ∈ files ↔
      name ∈ entries.map (·.1) ∧ disk.isPackFile directory name = true) :
    (registry.loadDirectory directory : StateM Disk Loading).run disk =
      (loadFiles { registry } (files.map (Path.join directory)) : StateM Disk Loading).run disk := by
  have hnames : StateT.run (FileSystem.names? directory : StateM Disk _) disk =
      (some (entries.map (·.1)), disk) := by
    show (disk.names? directory, disk) = _
    rw [Disk.names?, hentries]
  have hsorted : ((entries.map (·.1)).foldr insertSorted []).filter (disk.isPackFile directory) =
      files := by
    refine eq_of_ascending ((pairwise_foldr_insertSorted hdistinct).filter _) hfiles fun name => ?_
    rw [List.mem_filter, mem_foldr_insertSorted, hmem]
  rw [loadDirectory, StateT.run_bind, hnames, id_bind]
  simp only [StateT.run_bind, run_packPaths, id_bind, hsorted]

/-- Loading a directory overwrites a registry by the packs in its pack files, the later name over
the earlier one. It ends at the first file that holds no pack, with the packs of those before it
registered; where the directory cannot be listed it registers nothing. The order in which the
directory lists its entries does not matter. -/
theorem loadDirectory_overwrites (registry : Registry) (disk : Disk) (directory : String) :
    (disk.names? directory = none →
      ((registry.loadDirectory directory : StateM Disk Loading).run disk).1.failure ≠ none ∧
      ((registry.loadDirectory directory : StateM Disk Loading).run disk).1.registry = registry) ∧
    ∀ entries, disk.find? directory = some (.directory entries) → (entries.map (·.1)).Nodup →
    ∀ files : List String, files.Pairwise (· < ·) →
      (∀ name, name ∈ files ↔
        name ∈ entries.map (·.1) ∧ disk.isPackFile directory name = true) →
      (∃ packs,
        List.Forall₂ (fun name => disk.HoldsPack (Path.join directory name)) files packs ∧
        ((registry.loadDirectory directory : StateM Disk Loading).run disk).1.failure = none ∧
        ((registry.loadDirectory directory : StateM Disk Loading).run disk).1.loaded.length =
          files.length ∧
        registry.Overwritten packs
          ((registry.loadDirectory directory : StateM Disk Loading).run disk).1.registry) ∨
      ∃ before name later packs, files = before ++ name :: later ∧
        List.Forall₂ (fun name => disk.HoldsPack (Path.join directory name)) before packs ∧
        (∀ pack, ¬ disk.HoldsPack (Path.join directory name) pack) ∧
        ((registry.loadDirectory directory : StateM Disk Loading).run disk).1.failure ≠ none ∧
        registry.Overwritten packs
          ((registry.loadDirectory directory : StateM Disk Loading).run disk).1.registry := by
  constructor
  · intro hnone
    have hnames : StateT.run (FileSystem.names? directory : StateM Disk _) disk = (none, disk) := by
      show (disk.names? directory, disk) = _
      rw [hnone]
    rw [loadDirectory, StateT.run_bind, hnames, id_bind]
    exact ⟨Option.some_ne_none _, rfl⟩
  · intro entries hentries hdistinct files hfiles hmem
    rw [run_loadDirectory registry hentries hdistinct hfiles hmem]
    rcases loadFiles_cases disk { registry } rfl (files.map (Path.join directory)) with
      ⟨packs, hpacks, hfailure, hloaded, hall⟩ |
      ⟨before, path, later, packs, failure, hpaths, hpacks, hlast, hfailure, hall⟩
    · rw [List.forall₂_map_left_iff] at hpacks
      refine Or.inl ⟨packs, hpacks, hfailure, ?_, overwritten_registerAll hall⟩
      rw [hloaded, List.nil_append, List.length_zip, List.length_map, hpacks.length_eq, min_self]
    · obtain ⟨front, behind, hsplit, hfront, hbehind⟩ := List.map_eq_append_iff.mp hpaths
      obtain ⟨name, rest, hcons, rfl, -⟩ := List.map_eq_cons_iff.mp hbehind
      rw [← hfront, List.forall₂_map_left_iff] at hpacks
      exact Or.inr ⟨front, name, rest, packs, by rw [hsplit, hcons], hpacks, hlast,
        by rw [hfailure]; exact Option.some_ne_none _, overwritten_registerAll hall⟩

/-- A disk with a directory of a file without a pack, a text and a pack, listed in this order. -/
def unsortedDisk : Disk where
  root := .directory [("packs", .directory [("b.json", .file ByteArray.empty),
    ("a.txt", .file ByteArray.empty), ("a.json", .file "\x7b\"code\":\"xx\"\x7d".toUTF8)])]

/-- The first file by name holds a pack although it is listed last, and the second holds none. -/
theorem loadDirectory_overwrites_unsorted :
    (∀ name, name ∈ ["a.json", "b.json"] ↔ name ∈ ["b.json", "a.txt", "a.json"] ∧
      unsortedDisk.isPackFile "/packs" name = true) ∧
    ∃ before name later packs, ["a.json", "b.json"] = before ++ name :: later ∧
      List.Forall₂ (fun name => unsortedDisk.HoldsPack (Path.join "/packs" name)) before packs ∧
      (∀ pack, ¬ unsortedDisk.HoldsPack (Path.join "/packs" name) pack) ∧
      ((loadDirectory {} "/packs" : StateM Disk Loading).run unsortedDisk).1.failure ≠ none ∧
      Overwritten {} packs
        ((loadDirectory {} "/packs" : StateM Disk Loading).run unsortedDisk).1.registry := by
  have hmem : ∀ name, name ∈ ["a.json", "b.json"] ↔ name ∈ ["b.json", "a.txt", "a.json"] ∧
      unsortedDisk.isPackFile "/packs" name = true := by
    have hlisted : ["b.json", "a.txt", "a.json"].filter (unsortedDisk.isPackFile "/packs") =
        ["b.json", "a.json"] := by
      decide +kernel
    intro name
    rw [← List.mem_filter, hlisted]
    simp [or_comm]
  have hfailed :
      ((loadDirectory {} "/packs" : StateM Disk Loading).run unsortedDisk).1.failure ≠ none := by
    decide +kernel
  refine ⟨hmem, ?_⟩
  rcases (loadDirectory_overwrites {} unsortedDisk "/packs").2 _ rfl (by decide) ["a.json", "b.json"]
    (by decide +kernel) hmem with ⟨packs, -, hnone, -⟩ | hstopped
  · exact absurd hnone hfailed
  · exact hstopped

/-- A loading that fails keeps what it has registered before. -/
theorem loadDirectory_keeps_loaded :
    ((loadDirectory {} "/packs" : StateM Disk Loading).run unsortedDisk).1.failure ≠ none ∧
    ((loadDirectory {} "/packs" : StateM Disk Loading).run unsortedDisk).1.registry.codes = ["xx"] ∧
    codes {} = [] := by
  decide +kernel

end Registry

end CalcSpeech
