import CalcSpeech.Proofs.Files.Removal
import CalcSpeech.Proofs.Log.Directory

/-!
# Whether the log directory is a directory

Where the search for the log directory ends well there is a directory at its answer, unless a plain
file stands there (`locate_usable`). A place in the user's directories at which a plain file stands is
passed over, because nothing can be written below a file (`canMake_of_file`). Only a path that was
asked for and the last resort are taken without trying: there a plain file is answered as if it were a
directory (`locate_of_file`).
-/

namespace CalcSpeech

namespace Log.Directory

open FileTree

variable {disk before after : Disk}

/-! ## What trying to write leaves -/

/-- Nothing stands on a disk but what stood on another one, and no directory has two entries of one
name. -/
structure Thinned (before after : Disk) : Prop where
  here : after.here = before.here
  isProper : after.root.IsProper
  standing : ∀ names found, after.standing names = some found → before.standing names = some found

theorem Thinned.refl (h : disk.root.IsProper) : Thinned disk disk := ⟨rfl, h, fun _ _ => id⟩

/-- A path to a plain file led to a plain file before. -/
theorem Thinned.kind?_file (h : Thinned before after) {path : String}
    (hpath : after.kind? path = some .file) : before.kind? path = some .file := by
  obtain ⟨names, content, hlocate, hfile⟩ := Disk.kind?_eq_file_iff.mp hpath
  refine Disk.kind?_eq_file_iff.mpr ⟨names, content, ?_, h.standing names _ hfile⟩
  exact Disk.locate?_of_directories h.here.symm (fun names => h.standing names _) hlocate

theorem thinned_isWritable (h : disk.root.IsProper) (directory : String) :
    Thinned disk ((isWritable directory : StateM Disk Bool).run disk).2 := by
  rcases run_isWritable disk directory with ⟨place, root, hlocate, hput, hrun⟩ | hrun
  · rw [hrun]
    obtain ⟨hold, -⟩ := standing_putFile? hput
    cases hthere : disk.standing place with
    | none =>
      rw [removeFile_putFile? hput hthere]
      exact .refl h
    | some found =>
      cases found with
      | directory => exact absurd hthere hold
      | file content =>
        have hplace : place ≠ [] := by
          rintro rfl
          cases getLast?_of_locate? hlocate
        rw [removeFile_putFile?_of_file hput hthere hplace]
        refine ⟨rfl, h.removeFile place, fun names found hfound => ?_⟩
        by_cases hprefix : place <+: names
        · have hgone := standing_removeFile_below h hthere hplace hprefix
          exact absurd (hgone.symm.trans hfound) nofun
        · exact (standing_removeFile hprefix disk.root).symm.trans hfound
  · rw [hrun]
    exact .refl h

theorem thinned_firstIsWritable (h : disk.root.IsProper) (directories : List String) :
    Thinned disk ((firstIsWritable directories : StateM Disk Bool).run disk).2 := by
  induction directories with
  | nil => exact .refl h
  | cons directory outer ih =>
    rw [firstIsWritable, run_bind]
    split_ifs
    · exact thinned_isWritable h directory
    · exact ih

/-! ## Places at which a plain file stands -/

/-- Below a plain file nothing can be written. -/
theorem isWritable_of_file {directory : String} (h : disk.kind? directory = some .file) :
    ((isWritable directory : StateM Disk Bool).run disk).1 = false := by
  obtain ⟨names, content, hlocate, hfile⟩ := Disk.kind?_eq_file_iff.mp h
  rcases run_isWritable disk directory with ⟨place, root, hplace, hput, -⟩ | hrun
  · obtain ⟨-, bytes, hstanding⟩ := standing_putFile? hput
    obtain rfl := Option.some.inj
      (hplace.symm.trans (Disk.locate?_join hlocate segments_probeName (by decide)))
    -- the file that was written asks for a directory around it
    have haround : root.standing names = some .directory :=
      directory_around ((hstanding _).trans (if_pos rfl)) (List.cons_ne_nil _ _)
    rw [hstanding names, if_neg (by simp)] at haround
    cases hfile.symm.trans haround
  · rw [hrun]

/-- In the place of a plain file no directory can be made. -/
theorem canMake_of_file {path : String} (h : disk.kind? path = some .file) :
    ((canMake path : StateM Disk Bool).run disk).1 = false := by
  obtain ⟨names, content, hlocate, hfile⟩ := Disk.kind?_eq_file_iff.mp h
  obtain ⟨innermost, outer, hancestors, hinner⟩ := Disk.exists_head_ancestors hlocate
  have hkind : disk.kind? innermost = some .file :=
    Disk.kind?_eq_file_iff.mpr ⟨names, content, hinner, hfile⟩
  have hthere : (StateT.run (FileSystem.kind? innermost : StateM Disk _) disk).1.isSome = true :=
    congrArg Option.isSome hkind
  rw [canMake, hancestors, firstIsWritable, run_bind, if_pos hthere]
  exact isWritable_of_file hkind

/-- At a place that was chosen because a directory can be made there stands no plain file. -/
theorem firstThatCanBeMade_of_file (hproper : disk.root.IsProper) (fallback : String)
    (paths : List String) :
    let run := (firstThatCanBeMade fallback paths : StateM Disk String).run disk
    run.2.kind? run.1 = some .file → run.1 = fallback := by
  induction paths generalizing disk with
  | nil => exact fun _ => rfl
  | cons path rest ih =>
    have htried : Thinned disk ((canMake path : StateM Disk Bool).run disk).2 :=
      thinned_firstIsWritable hproper _
    rw [firstThatCanBeMade, run_bind]
    split_ifs with hmade
    · intro run hfile
      cases hmade.symm.trans (canMake_of_file (htried.kind?_file hfile))
    · exact ih htried.isProper

/-! ## The answer -/

/-- A path at which there is something is answered, and the disk is left alone. -/
theorem ensure_of_there {path : String} (h : (disk.kind? path).isSome = true) :
    (ensure path : StateM Disk (Option String)).run disk = (some path, disk) := by
  have hthere : (StateT.run (FileSystem.kind? path : StateM Disk _) disk).1.isSome = true := h
  rw [ensure, run_bind, if_pos hthere]
  rfl

/-- A path that is answered leads to a directory, or it led to a plain file before. -/
theorem ensure_usable {path answer : String} (hne : path ≠ "")
    (h : ((ensure path : StateM Disk (Option String)).run disk).1 = some answer) :
    ((ensure path : StateM Disk (Option String)).run disk).2.kind? path = some .directory ∨
      disk.kind? path = some .file ∧
        ((ensure path : StateM Disk (Option String)).run disk).2 = disk := by
  cases hkind : disk.kind? path with
  | some kind =>
    rw [ensure_of_there (by rw [hkind]; rfl)]
    cases kind with
    | directory => exact Or.inl hkind
    | file => exact Or.inr ⟨rfl, rfl⟩
  | none =>
    have hmissing : ¬ (StateT.run (FileSystem.kind? path : StateM Disk _) disk).1.isSome = true := by
      show ¬ (disk.kind? path).isSome = true
      rw [hkind]
      exact Bool.false_ne_true
    rw [ensure, run_bind, if_neg hmissing, run_bind] at h ⊢
    split_ifs at h ⊢ with hmade
    · exact Or.inl (Disk.kind?_makeDirectories hne hmade)
    · cases h

/-- Where a log directory is found there is a directory at its path, unless a plain file stands there;
and that can be so only at a path that was asked for and at the last resort. -/
theorem locate_usable {env : Environment} {custom : Option String} {path : String}
    (hproper : disk.root.IsProper) (hne : path ≠ "")
    (h : ((locate env custom : StateM Disk (Option String)).run disk).1 = some path) :
    let after := ((locate env custom : StateM Disk (Option String)).run disk).2
    after.kind? path = some .directory ∨ after.kind? path = some .file ∧
      path = (custom.or (env.get? "SPOKEN_MATH_LOG_DIR")).getD
        (Path.join (temporary env) "spoken_math_logs") := by
  intro after
  unfold after
  rw [locate] at h ⊢
  cases hasked : custom.or (env.get? "SPOKEN_MATH_LOG_DIR") with
  | some asked =>
    rw [hasked] at h
    obtain rfl := (grown_ensure disk asked).2 path h
    rcases ensure_usable hne h with hdirectory | ⟨hfile, hsame⟩
    · exact Or.inl hdirectory
    · refine Or.inr ⟨?_, rfl⟩
      rw [hsame]
      exact hfile
  | none =>
    rw [hasked] at h
    rw [run_bind] at h ⊢
    have hchosen := (grown_ensure _ _).2 path h
    rw [← hchosen] at h ⊢
    rcases ensure_usable hne h with hdirectory | ⟨hfile, hsame⟩
    · exact Or.inl hdirectory
    · refine Or.inr ⟨?_, ?_⟩
      · rw [hsame]
        exact hfile
      · rw [hchosen] at hfile ⊢
        exact firstThatCanBeMade_of_file hproper _ _ hfile

/-- A path that was asked for and leads to a plain file is answered all the same. -/
theorem locate_of_file {env : Environment} {custom : Option String} {path : String}
    (hasked : custom.or (env.get? "SPOKEN_MATH_LOG_DIR") = some path)
    (hfile : disk.kind? path = some .file) :
    (locate env custom : StateM Disk (Option String)).run disk = (some path, disk) := by
  rw [locate, hasked]
  exact ensure_of_there (by rw [hfile]; rfl)

/-- A file is answered as the directory for log files. -/
example :
    let disk : Disk := { root := .directory [("f", .file "x".toUTF8)] }
    let run := (locate [] (some "/f") : StateM Disk (Option String)).run disk
    run.1 = some "/f" ∧ run.2.kind? "/f" = some .file := by
  decide +kernel

end Log.Directory

end CalcSpeech
