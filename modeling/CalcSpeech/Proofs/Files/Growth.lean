import CalcSpeech.Proofs.Files.Standing
import Mathlib.Data.List.TakeWhile

/-!
# What making directories does to a disk

A disk grows when directories are made on it: everything stands as it stood, but for new directories
at places to which the paths lead that were asked for (`grown_makeDirectories`). A path that led
somewhere leads there still, because the way of a path asks for directories only. Where the making
ends well the path leads to a directory (`kind?_makeDirectories`).
-/

namespace CalcSpeech.Disk

open FileTree

variable {disk before after last : Disk}

/-- What stands at a row of names on a disk. -/
def standing (disk : Disk) (names : List String) : Option Entry := disk.root.standing names

/-- What kind of thing a path leads to. -/
def kind? (disk : Disk) (path : String) : Option FileKind := (disk.find? path).map (·.kind)

theorem kind?_eq_directory_iff {path : String} : disk.kind? path = some .directory ↔
    ∃ names, disk.locate? path = some names ∧ disk.standing names = some .directory := by
  simp only [kind?, find?, Option.map_bind, Option.bind_eq_some_iff, Function.comp_apply,
    kind_eq_directory_iff]
  rfl

theorem kind?_eq_file_iff {path : String} : disk.kind? path = some .file ↔
    ∃ names content, disk.locate? path = some names ∧
      disk.standing names = some (.file content) := by
  simp only [kind?, find?, Option.map_bind, Option.bind_eq_some_iff, Function.comp_apply,
    kind_eq_file_iff, exists_and_left]
  rfl

/-! ## The way of a path -/

theorem walk?_append (disk : Disk) (place front behind : List String) :
    disk.walk? place (front ++ behind) = (disk.walk? place front).bind (disk.walk? · behind) := by
  induction front generalizing place with
  | nil => rw [List.nil_append, walk?, Option.bind_some]
  | cons segment rest ih =>
    rw [List.cons_append, walk?, walk?]
    split_ifs
    · exact ih _
    · exact ih _
    · exact ih _
    · rfl

/-- A way that is there is not lost when only directories are added. -/
theorem walk?_of_directories
    (h : ∀ names, before.standing names = some .directory → after.standing names = some .directory)
    {place segments names : List String} (hwalk : before.walk? place segments = some names) :
    after.walk? place segments = some names := by
  induction segments generalizing place with
  | nil => exact hwalk
  | cons segment rest ih =>
    rw [walk?] at hwalk ⊢
    by_cases hname : Path.isName segment = true
    · rw [if_pos hname] at hwalk ⊢
      exact ih hwalk
    · rw [if_neg hname] at hwalk ⊢
      by_cases hplace : (before.root.find? place).map (·.kind) = some .directory
      · rw [if_pos hplace] at hwalk
        rw [if_pos (kind_eq_directory_iff.mpr (h place (kind_eq_directory_iff.mp hplace)))]
        exact ih hwalk
      · rw [if_neg hplace] at hwalk
        cases hwalk

theorem locate?_of_directories (hhere : after.here = before.here)
    (h : ∀ names, before.standing names = some .directory → after.standing names = some .directory)
    {path : String} {names : List String} (hpath : before.locate? path = some names) :
    after.locate? path = some names := by
  unfold locate? start at hpath ⊢
  rw [hhere]
  split_ifs at hpath ⊢
  · exact walk?_of_directories h hpath
  · exact walk?_of_directories h hpath

/-- Nothing between slashes at the end of a path asks for a directory and leads nowhere else. -/
theorem walk?_replicate {place : List String} (h : disk.standing place = some .directory)
    {segments : List String} (hsegments : ∀ segment ∈ segments, segment = "") :
    disk.walk? place segments = some place := by
  induction segments with
  | nil => rfl
  | cons segment rest ih =>
    obtain ⟨rfl, hrest⟩ := List.forall_mem_cons.mp hsegments
    rw [walk?, if_neg (by decide), if_pos (kind_eq_directory_iff.mpr h), if_neg (by decide)]
    exact ih hrest

/-! ## Disks that grow -/

/-- On a disk everything stands as on another one, but for new directories to which some paths
lead. -/
structure Grown (paths : List String) (before after : Disk) : Prop where
  here : after.here = before.here
  standing : ∀ names, after.standing names = before.standing names ∨
    before.standing names = none ∧ after.standing names = some .directory ∧
      ∃ path ∈ paths, after.locate? path = some names

namespace Grown

variable {paths more : List String}

theorem refl (paths : List String) (disk : Disk) : Grown paths disk disk :=
  ⟨rfl, fun _ => Or.inl rfl⟩

theorem mono (h : Grown paths before after) (hpaths : paths ⊆ more) : Grown more before after := by
  refine ⟨h.here, fun names => (h.standing names).imp_right ?_⟩
  rintro ⟨hnone, hnew, path, hpath, hplace⟩
  exact ⟨hnone, hnew, path, hpaths hpath, hplace⟩

/-- Directories stay. -/
theorem directory (h : Grown paths before after) {names : List String}
    (hnames : before.standing names = some .directory) : after.standing names = some .directory := by
  rcases h.standing names with hsame | ⟨hnone, -, -⟩
  · rw [hsame, hnames]
  · rw [hnone] at hnames
    cases hnames

/-- A path leads where it led. -/
theorem locate? (h : Grown paths before after) {path : String} {names : List String}
    (hpath : before.locate? path = some names) : after.locate? path = some names :=
  locate?_of_directories h.here (fun _ => h.directory) hpath

theorem trans (h : Grown paths before after) (hlast : Grown more after last) :
    Grown (paths ++ more) before last := by
  refine ⟨hlast.here.trans h.here, fun names => ?_⟩
  rcases hlast.standing names with hsame | ⟨hnone, hnew, path, hpath, hplace⟩
  · rw [hsame]
    refine (h.standing names).imp_right ?_
    rintro ⟨hnone, hnew, path, hpath, hplace⟩
    exact ⟨hnone, hnew, path, List.mem_append_left _ hpath, hlast.locate? hplace⟩
  · -- what grew first is a directory, so nothing can be new there a second time
    refine Or.inr ⟨?_, hnew, path, List.mem_append_right _ hpath, hplace⟩
    rcases h.standing names with hsame | ⟨-, hmade, -⟩
    · rw [← hsame, hnone]
    · rw [hmade] at hnone
      cases hnone

end Grown

/-! ## Making directories -/

/-- A directory is made under a name in a directory that is there, and the path leads to it. -/
theorem vacancy?_cases {path : String} {place : List String} (h : disk.vacancy? path = some place) :
    disk.standing place.dropLast = some .directory ∧ path ≠ "" ∧
      ∃ front behind, Path.segments path = front ++ behind ∧ (∀ segment ∈ behind, segment = "") ∧
        disk.walk? (disk.start path) front = some place := by
  have hsegments := congrArg List.reverse
    (List.takeWhile_append_dropWhile (p := (· == "")) (l := (Path.segments path).reverse))
  rw [List.reverse_append, List.reverse_reverse] at hsegments
  have hpath : path ≠ "" := by
    rintro rfl
    have hnone : disk.vacancy? "" = none := by
      unfold vacancy?
      exact if_neg (by decide)
    rw [hnone] at h
    cases h
  unfold vacancy? at h
  dsimp only at h
  split_ifs at h
  obtain ⟨hwalk, houter⟩ := Option.filter_eq_some_iff.mp h
  refine ⟨kind_eq_directory_iff.mp (by simpa using houter), hpath, _, _, hsegments.symm, ?_, hwalk⟩
  intro segment hsegment
  simpa using List.mem_takeWhile_imp (List.mem_reverse.mp hsegment)

/-- A path leads to the directory that was made at it. -/
theorem locate?_made {path : String} {place : List String} {root : FileTree}
    (hplace : disk.vacancy? path = some place)
    (hmade : disk.root.makeDirectories? place = some root) :
    Disk.standing { disk with root } place = some .directory ∧
      Disk.locate? { disk with root } path = some place := by
  obtain ⟨-, hpath, front, behind, hsegments, hbehind, hwalk⟩ := vacancy?_cases hplace
  have hmono : ∀ names, disk.standing names = some .directory →
      Disk.standing { disk with root } names = some .directory := by
    intro names hnames
    have hold : disk.root.standing names = some .directory := hnames
    exact (standing_makeDirectories? hmade names).trans (by rw [hold, ite_self])
  have hthere : Disk.standing { disk with root } place = some .directory :=
    (standing_makeDirectories? hmade place).trans (if_pos List.prefix_rfl)
  refine ⟨hthere, ?_⟩
  rw [Disk.locate?, if_neg hpath, hsegments, walk?_append]
  exact Option.bind_eq_some_iff.mpr
    ⟨place, walk?_of_directories hmono hwalk, walk?_replicate hthere hbehind⟩

/-- Making a directory adds it, or nothing. -/
theorem grown_makeDirectory (disk : Disk) (path : String) :
    Grown [path] disk (disk.makeDirectory path).2 := by
  unfold makeDirectory
  split
  · exact .refl _ disk
  split
  · rename_i root hroot
    obtain ⟨place, hplace, hmade⟩ := Option.bind_eq_some_iff.mp hroot
    obtain ⟨houter, -⟩ := vacancy?_cases hplace
    obtain ⟨hthere, hlocate⟩ := locate?_made hplace hmade
    have hstanding : ∀ names, Disk.standing { disk with root } names =
        if names <+: place then some .directory else disk.standing names :=
      standing_makeDirectories? hmade
    refine ⟨rfl, fun names => ?_⟩
    by_cases hprefix : names <+: place
    · obtain ⟨more, rfl⟩ := hprefix
      by_cases hmore : more = []
      · rw [hmore, List.append_nil] at hthere hlocate hmade
        cases hold : disk.standing names with
        | none => exact Or.inr ⟨rfl, hthere, path, List.mem_singleton_self path, hlocate⟩
        | some found =>
          cases found with
          | directory => exact Or.inl hthere
          | file content => exact absurd hold (makeDirectories?_ne_file hmade content)
      · -- only the innermost directory is new
        rw [List.dropLast_append_of_ne_nil hmore] at houter
        have hold : disk.standing names = some .directory := directory_of_append houter
        exact Or.inl ((hstanding names).trans ((if_pos (List.prefix_append _ _)).trans hold.symm))
    · exact Or.inl ((hstanding names).trans (if_neg hprefix))
  · exact .refl _ disk

theorem grown_makeEach (disk : Disk) (paths : List String) :
    Grown paths disk (disk.makeEach paths).2 := by
  induction paths generalizing disk with
  | nil => exact .refl _ disk
  | cons path rest ih =>
    have hfirst := disk.grown_makeDirectory path
    rw [makeEach]
    split
    · rename_i next hnext
      rw [hnext] at hfirst
      exact hfirst.trans (ih next)
    · rename_i next hnext
      rw [hnext] at hfirst
      exact hfirst.mono (List.cons_subset_cons _ (List.nil_subset _))

/-- Making a directory with those around it adds directories at the path and around it, also where it
fails. -/
theorem grown_makeDirectories (disk : Disk) (path : String) :
    Grown (path :: Path.ancestors path) disk (disk.makeDirectories path).2 := by
  rw [makeDirectories]
  split_ifs
  · exact .refl _ disk
  · refine (disk.grown_makeEach _).mono ?_
    intro other hother
    rcases List.mem_append.mp hother with hother | hother
    · exact List.mem_cons_of_mem _ (List.mem_of_mem_tail (List.mem_reverse.mp hother))
    · rw [List.mem_singleton.mp hother]
      exact List.mem_cons_self

/-! ## What a path leads to when the making ends well -/

theorem Grown.kind?_directory {paths : List String} (h : Grown paths before after) {path : String}
    (hpath : before.kind? path = some .directory) : after.kind? path = some .directory := by
  obtain ⟨names, hlocate, hnames⟩ := kind?_eq_directory_iff.mp hpath
  exact kind?_eq_directory_iff.mpr ⟨names, h.locate? hlocate, h.directory hnames⟩

theorem kind?_makeDirectory {path : String} (h : (disk.makeDirectory path).1 = true) :
    (disk.makeDirectory path).2.kind? path = some .directory := by
  unfold makeDirectory at h ⊢
  split at h
  · rename_i tree htree
    rw [kind?, htree, Option.map_some, eq_of_beq h]
  · split at h
    · rename_i root hroot
      obtain ⟨place, hplace, hmade⟩ := Option.bind_eq_some_iff.mp hroot
      obtain ⟨hthere, hlocate⟩ := locate?_made hplace hmade
      exact kind?_eq_directory_iff.mpr ⟨place, hlocate, hthere⟩
    · cases h

theorem kind?_makeEach {paths : List String} (h : (disk.makeEach paths).1 = true) {path : String}
    (hpath : path ∈ paths) : (disk.makeEach paths).2.kind? path = some .directory := by
  induction paths generalizing disk with
  | nil => cases hpath
  | cons first rest ih =>
    have hfirst : (disk.makeDirectory first).1 = true →
        (disk.makeDirectory first).2.kind? first = some .directory := kind?_makeDirectory
    rw [makeEach] at h ⊢
    split at h
    · rename_i next hnext
      rw [hnext] at hfirst
      rcases List.mem_cons.mp hpath with rfl | hrest
      · exact (next.grown_makeEach rest).kind?_directory (hfirst rfl)
      · exact ih h hrest
    · cases h

/-- Where a directory with those around it could be made, the path leads to a directory. -/
theorem kind?_makeDirectories {path : String} (hne : path ≠ "")
    (h : (disk.makeDirectories path).1 = true) :
    (disk.makeDirectories path).2.kind? path = some .directory := by
  rw [makeDirectories, if_neg hne] at h ⊢
  exact kind?_makeEach h (List.mem_append_right _ (List.mem_singleton_self path))

end CalcSpeech.Disk
