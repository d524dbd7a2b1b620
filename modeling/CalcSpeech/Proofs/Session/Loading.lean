import CalcSpeech.Files.FileTree
import CalcSpeech.Language.Directory

/-!
# What is registered

A registration puts one pack under its code (`find?_register`). Loading a directory registers the
packs that it lists as loaded, one after the other, also when it stops before its time
(`registerAll_loadDirectory`), so that what is true of a row of registrations is true of it.
-/

namespace CalcSpeech.Registry

/-- Behind a replacement the new entry is found under its code. -/
theorem lookup_replace_self (code : String) (entry : Registered)
    (entries : List (String × Registered)) :
    (replace code entry entries).lookup code = some entry := by
  induction entries with
  | nil => simp [replace]
  | cons head rest ih =>
    obtain ⟨other, old⟩ := head
    unfold replace
    split
    · rw [List.lookup_cons_self]
    · rename_i hne
      rw [List.lookup_cons, beq_false_of_ne (fun he => hne he.symm)]
      exact ih

/-- A replacement leaves the entries under other codes. -/
theorem lookup_replace_of_ne {code other : String} (hne : other ≠ code) (entry : Registered)
    (entries : List (String × Registered)) :
    (replace code entry entries).lookup other = entries.lookup other := by
  induction entries with
  | nil => simp [replace, List.lookup_cons, beq_false_of_ne hne]
  | cons head rest ih =>
    obtain ⟨name, old⟩ := head
    unfold replace
    split
    · rename_i he
      rw [List.lookup_cons, List.lookup_cons, he, beq_false_of_ne hne]
    · rw [List.lookup_cons, List.lookup_cons, ih]

/-- What is found behind a registration. -/
theorem find?_register {registry after : Registry} {pack : LanguagePack}
    (h : registry.register pack = .ok after) (code : String) :
    after.registrations = registry.registrations + 1 ∧
      after.find? code = if code = LanguageCode.normalize pack.code then
        some ⟨{ pack with code := LanguageCode.normalize pack.code }, registry.registrations⟩
      else registry.find? code := by
  unfold register at h
  split at h
  · cases h
  · obtain rfl := Except.ok.inj h
    refine ⟨rfl, ?_⟩
    split
    · rename_i hcode
      rw [find?, hcode, lookup_replace_self]
    · rename_i hcode
      rw [find?, lookup_replace_of_ne hcode]
      rfl

/-- A row of registrations is one and the row behind it. -/
theorem registerAll_cons {registry after : Registry} {pack : LanguagePack}
    {rest : List LanguagePack} : registry.registerAll (pack :: rest) = .ok after ↔
      ∃ first, registry.register pack = .ok first ∧ first.registerAll rest = .ok after := by
  rw [registerAll, List.foldlM_cons]
  cases hfirst : registry.register pack with
  | error fault =>
    constructor
    · intro h
      cases h
    · rintro ⟨first, h, -⟩
      cases h
  | ok first =>
    constructor
    · intro h
      exact ⟨first, rfl, h⟩
    · rintro ⟨_, h, hrest⟩
      cases h
      exact hrest

/-- The codes that packs are registered under. -/
def codesOf (packs : List LanguagePack) : List String :=
  packs.map fun pack => LanguageCode.normalize pack.code

/-- Behind a row of registrations a code has a new entry if one of the packs has it, and the old
one otherwise. -/
theorem find?_registerAll {registry after : Registry} {packs : List LanguagePack}
    (h : registry.registerAll packs = .ok after) (code : String) :
    registry.registrations ≤ after.registrations ∧
      (code ∈ codesOf packs → ∃ entry, after.find? code = some entry ∧
        registry.registrations ≤ entry.registration) ∧
      (code ∉ codesOf packs → after.find? code = registry.find? code) := by
  induction packs generalizing registry with
  | nil =>
    cases h
    exact ⟨Nat.le_refl _, fun hmem => absurd hmem List.not_mem_nil, fun _ => rfl⟩
  | cons pack rest ih =>
    obtain ⟨first, hfirst, hafter⟩ := registerAll_cons.mp h
    obtain ⟨hcount, hfind⟩ := find?_register hfirst code
    obtain ⟨hle, hnew, hold⟩ := ih hafter
    have hcodes : codesOf (pack :: rest) = LanguageCode.normalize pack.code :: codesOf rest := rfl
    rw [hcodes]
    refine ⟨by omega, ?_, ?_⟩
    · intro hmem
      by_cases hlater : code ∈ codesOf rest
      · obtain ⟨entry, hentry, hnumber⟩ := hnew hlater
        exact ⟨entry, hentry, by omega⟩
      · have hcode := (List.mem_cons.mp hmem).resolve_right hlater
        rw [if_pos hcode] at hfind
        exact ⟨_, (hold hlater).trans hfind, Nat.le_refl _⟩
    · intro hmem
      rw [List.mem_cons, not_or] at hmem
      rw [if_neg hmem.1] at hfind
      exact (hold hmem.2).trans hfind

/-- Registering the packs of a row keeps what registering keeps. -/
theorem registerAll_keeps {P : Registry → Prop}
    (keeps : ∀ registry pack after, registry.register pack = .ok after → P registry → P after)
    {registry after : Registry} {packs : List LanguagePack}
    (h : registry.registerAll packs = .ok after) (hP : P registry) : P after := by
  induction packs generalizing registry with
  | nil =>
    cases h
    exact hP
  | cons pack rest ih =>
    obtain ⟨first, hfirst, hafter⟩ := registerAll_cons.mp h
    exact ih hafter (keeps registry pack first hfirst hP)

/-- The pack in the bytes of a file is registered. -/
theorem register_of_registerBytes {registry after : Registry} {bytes : Option ByteArray}
    {pack : LanguagePack} (h : registry.registerBytes bytes = .ok (pack, after)) :
    registry.register pack = .ok after := by
  unfold registerBytes at h
  cases htext : bytes.bind String.fromUTF8? with
  | none =>
    rw [htext] at h
    cases h
  | some text =>
    simp only [htext] at h
    cases hpack : LanguagePack.ofText text with
    | error fault =>
      rw [hpack] at h
      cases h
    | ok read =>
      rw [hpack] at h
      change ((registry.register read).mapError Failure.languagePack >>= _) = _ at h
      cases hnew : registry.register read with
      | error fault =>
        rw [hnew] at h
        cases h
      | ok new =>
        rw [hnew] at h
        obtain ⟨rfl, rfl⟩ := Prod.mk.inj (Except.ok.inj h)
        exact hnew

theorem id_bind {α β : Type} (x : Id α) (f : α → Id β) : (x >>= f) = f x := rfl

/-- Loading a row of files registers the packs that it lists as loaded, wherever it stops. -/
theorem registerAll_loadFiles (paths : List String) (disk : Disk) (loading : Loading) :
    ∃ packs, ((loadFiles loading paths : StateM Disk Loading).run disk).1.loaded =
        loading.loaded ++ packs ∧
      loading.registry.registerAll (packs.map (·.2)) =
        .ok ((loadFiles loading paths : StateM Disk Loading).run disk).1.registry := by
  induction paths generalizing disk loading with
  | nil => exact ⟨[], (List.append_nil _).symm, rfl⟩
  | cons path rest ih =>
    have hbytes : StateT.run (FileSystem.read? path : StateM Disk _) disk =
        (disk.read? path, disk) := rfl
    rw [loadFiles, StateT.run_bind, hbytes, id_bind]
    cases hread : loading.registry.registerBytes (disk.read? path) with
    | error failure => exact ⟨[], (List.append_nil _).symm, rfl⟩
    | ok loaded =>
      obtain ⟨pack, registry⟩ := loaded
      obtain ⟨packs, hloaded, hregistered⟩ :=
        ih disk { loading with registry, loaded := loading.loaded ++ [(path, pack)] }
      refine ⟨(path, pack) :: packs, ?_, ?_⟩
      · show (StateT.run (loadFiles _ rest : StateM Disk Loading) disk).1.loaded = _
        rw [hloaded, List.append_assoc]
        rfl
      · rw [List.map_cons, registerAll_cons]
        exact ⟨registry, register_of_registerBytes hread, hregistered⟩

/-- Loading a directory registers the packs that it lists as loaded. -/
theorem registerAll_loadDirectory (registry : Registry) (directory : String) (disk : Disk) :
    registry.registerAll (((registry.loadDirectory directory : StateM Disk Loading).run
      disk).1.loaded.map (·.2)) =
      .ok ((registry.loadDirectory directory : StateM Disk Loading).run disk).1.registry := by
  have hfiles (paths : List String) (disk : Disk) :
      registry.registerAll (((loadFiles { registry } paths : StateM Disk Loading).run
        disk).1.loaded.map (·.2)) =
        .ok ((loadFiles { registry } paths : StateM Disk Loading).run disk).1.registry := by
    obtain ⟨packs, hloaded, hregistered⟩ := registerAll_loadFiles paths disk { registry }
    rw [hloaded]
    exact hregistered
  have hentries : StateT.run (FileSystem.names? directory : StateM Disk _) disk =
      (disk.names? directory, disk) := rfl
  rw [loadDirectory, StateT.run_bind, hentries, id_bind]
  cases hnames : disk.names? directory with
  | none => rfl
  | some names => exact hfiles _ _

theorem mem_insertSorted {name other : String} {names : List String} :
    other ∈ insertSorted name names ↔ other = name ∨ other ∈ names := by
  induction names with
  | nil => simp [insertSorted]
  | cons first rest ih =>
    unfold insertSorted
    split
    · exact List.mem_cons
    · rw [List.mem_cons, ih, List.mem_cons]
      exact or_left_comm

/-- Sorting neither drops a name nor adds one. -/
theorem mem_foldr_insertSorted {name : String} {names : List String} :
    name ∈ names.foldr insertSorted [] ↔ name ∈ names := by
  induction names with
  | nil => exact Iff.rfl
  | cons first rest ih => rw [List.foldr_cons, mem_insertSorted, ih, List.mem_cons]

/-- What is found under a code is listed among the codes. -/
theorem mem_codes {registry : Registry} {code : String} (h : (registry.find? code).isSome) :
    code ∈ registry.codes := by
  obtain ⟨entry, hentry⟩ := Option.isSome_iff_exists.mp h
  obtain ⟨before, after, hentries, -⟩ := List.lookup_eq_some_iff.mp hentry
  rw [codes, mem_foldr_insertSorted, hentries]
  simp

end CalcSpeech.Registry
