import CalcSpeech.Log.Directory
import CalcSpeech.Proofs.Files.Path

/-!
# What looking for the log directory does to a disk

Whether a directory is writable is tried by writing a file and removing it again. Where nothing stands
in the place of that file the disk is left as it was; a plain file that stands there is lost. So the
search changes nothing but at such places, and what it adds are the directory for the log and
directories around it (`locate_keeps`).
-/

namespace CalcSpeech

namespace Log.Directory

open FileTree

variable {disk before after last : Disk}

/-- A place where a plain file stands under the name of the file by which writing is tried, or a place
behind it. -/
def AtProbe (disk : Disk) (names : List String) : Prop :=
  ∃ place content, place <+: names ∧ place.getLast? = some probeName ∧
    disk.standing place = some (.file content)

/-- Everything stands on a disk as on another one, but for what stood at such places. -/
structure Probed (before after : Disk) : Prop where
  here : after.here = before.here
  standing : ∀ names, ¬ AtProbe before names → after.standing names = before.standing names

theorem Probed.refl (disk : Disk) : Probed disk disk := ⟨rfl, fun _ _ => rfl⟩

theorem Probed.trans (h : Probed before after) (hlast : Probed after last) : Probed before last := by
  refine ⟨hlast.here.trans h.here, fun names hnames => ?_⟩
  rw [hlast.standing names, h.standing names hnames]
  rintro ⟨place, content, hprefix, hprobe, hfile⟩
  -- a file that the second step may lose was there before the first one
  have hplace : ¬ AtProbe before place := by
    rintro ⟨outer, old, houter, hold⟩
    exact hnames ⟨outer, old, houter.trans hprefix, hold⟩
  rw [h.standing place hplace] at hfile
  exact hnames ⟨place, content, hprefix, hprobe, hfile⟩

theorem segments_probeName : Path.segments probeName = [probeName] := by decide

/-- The file by which writing is tried comes to stand under its name. -/
theorem getLast?_of_locate? {directory : String} {place : List String}
    (h : disk.locate? (Path.join directory probeName) = some place) :
    place.getLast? = some probeName := by
  obtain ⟨front, hfront⟩ := Path.segments_join directory segments_probeName (by decide)
  unfold Disk.locate? at h
  split_ifs at h
  rw [hfront, Disk.walk?_append] at h
  obtain ⟨outer, -, hlast⟩ := Option.bind_eq_some_iff.mp h
  rw [Disk.walk?, if_pos (by decide), Disk.walk?] at hlast
  rw [← Option.some.inj hlast, List.getLast?_append, List.getLast?_singleton, Option.some_or]

theorem run_bind {α β : Type} (x : StateM Disk α) (f : α → StateM Disk β) (disk : Disk) :
    (x >>= f).run disk = (f (x.run disk).1).run (x.run disk).2 := rfl

/-- Trying to write comes to writing a file and removing it again, or it changes nothing. -/
theorem run_isWritable (disk : Disk) (directory : String) :
    (∃ place root, disk.locate? (Path.join directory probeName) = some place ∧
      disk.root.putFile? (fun _ => "test".toUTF8) place = some root ∧
      (isWritable directory : StateM Disk Bool).run disk =
        (true, { disk with root := root.removeFile place })) ∨
    (isWritable directory : StateM Disk Bool).run disk = (false, disk) := by
  have hwrite : StateT.run (FileSystem.write (Path.join directory probeName) "test" : StateM Disk _)
      disk = disk.change (Path.join directory probeName) (putFile? fun _ => "test".toUTF8) := rfl
  rw [isWritable, run_bind, hwrite, Disk.change]
  cases hplace : (disk.locate? (Path.join directory probeName)).bind
      (putFile? (fun _ => "test".toUTF8) · disk.root) with
  | none => exact Or.inr rfl
  | some root =>
    obtain ⟨place, hlocate, hput⟩ := Option.bind_eq_some_iff.mp hplace
    obtain ⟨hold, bytes, hstanding⟩ := standing_putFile? hput
    have hdirectories : ∀ names, disk.standing names = some .directory →
        Disk.standing { disk with root } names = some .directory := by
      intro names hnames
      have hne : names ≠ place := by
        rintro rfl
        exact hold hnames
      exact (hstanding names).trans ((if_neg hne).trans hnames)
    -- the file that is removed is the one that was written
    have hagain : Disk.locate? { disk with root } (Path.join directory probeName) = some place :=
      Disk.locate?_of_directories (show Disk.here { disk with root } = disk.here from rfl)
        hdirectories hlocate
    have hremove : StateT.run (FileSystem.remove (Path.join directory probeName) : StateM Disk _)
        { disk with root } = ((), { disk with root := root.removeFile place }) := by
      show ((), (Disk.change _ _ _).2) = _
      rw [Disk.change, hagain]
      rfl
    refine Or.inl ⟨place, root, hlocate, hput, ?_⟩
    rw [if_pos rfl, run_bind, hremove]
    rfl

/-- Trying to write in a directory leaves everything where it was, but for a plain file in the place of
the file that is written. -/
theorem probed_isWritable (disk : Disk) (directory : String) :
    Probed disk ((isWritable directory : StateM Disk Bool).run disk).2 := by
  rcases run_isWritable disk directory with ⟨place, root, hlocate, hput, hrun⟩ | hrun
  · rw [hrun]
    obtain ⟨hold, bytes, hstanding⟩ := standing_putFile? hput
    cases hthere : disk.standing place with
    | none =>
      rw [removeFile_putFile? hput hthere]
      exact .refl disk
    | some found =>
      cases found with
      | directory => exact absurd hthere hold
      | file content =>
        refine ⟨rfl, fun names hnames => ?_⟩
        have hprefix : ¬ place <+: names := fun h =>
          hnames ⟨place, content, h, getLast?_of_locate? hlocate, hthere⟩
        have hne : names ≠ place := by
          rintro rfl
          exact hprefix List.prefix_rfl
        exact (standing_removeFile hprefix root).trans ((hstanding names).trans (if_neg hne))
  · rw [hrun]
    exact .refl disk

theorem probed_firstIsWritable (disk : Disk) (directories : List String) :
    Probed disk ((firstIsWritable directories : StateM Disk Bool).run disk).2 := by
  induction directories with
  | nil => exact .refl disk
  | cons directory outer ih =>
    rw [firstIsWritable, run_bind]
    split_ifs
    · exact probed_isWritable disk directory
    · exact ih

/-- Looking for a place where a directory can be made leaves everything where it was, but for plain
files in the places of the files that are written. -/
theorem probed_firstThatCanBeMade (disk : Disk) (fallback : String) (paths : List String) :
    Probed disk ((firstThatCanBeMade fallback paths : StateM Disk String).run disk).2 := by
  induction paths generalizing disk with
  | nil => exact .refl disk
  | cons path rest ih =>
    have htried := probed_firstIsWritable disk (Path.ancestors path)
    rw [firstThatCanBeMade, run_bind, canMake]
    split_ifs
    · exact htried
    · exact htried.trans (ih _)

/-- A directory that is asked for is made, with those around it that are missing. -/
theorem grown_ensure (disk : Disk) (path : String) :
    disk.Grown (path :: Path.ancestors path)
        ((ensure path : StateM Disk (Option String)).run disk).2 ∧
      ∀ answer, ((ensure path : StateM Disk (Option String)).run disk).1 = some answer →
        answer = path := by
  have hmade : StateT.run (FileSystem.makeDirectories path : StateM Disk _) disk =
      disk.makeDirectories path := rfl
  rw [ensure, run_bind]
  split_ifs
  · exact ⟨.refl _ disk, fun answer h => (Option.some.inj h).symm⟩
  · have hgrown := disk.grown_makeDirectories path
    rw [run_bind]
    split_ifs
    · exact ⟨hgrown, fun answer h => (Option.some.inj h).symm⟩
    · exact ⟨hgrown, fun answer h => nomatch h⟩

/-- A log directory that is asked for is made without trying to write, so that nothing is lost. -/
theorem grown_locate {env : Environment} {custom : Option String} {path : String}
    (h : custom.or (env.get? "SPOKEN_MATH_LOG_DIR") = some path) (disk : Disk) :
    disk.Grown (path :: Path.ancestors path)
      ((locate env custom : StateM Disk (Option String)).run disk).2 := by
  rw [locate, h]
  exact (grown_ensure disk path).1

/-- Looking for the log directory keeps everything that stands on the disk, but for plain files in the
places of the file by which writing is tried. What it adds, also where it fails in the end, are
directories to which the path of the log directory leads and the paths around it. -/
theorem locate_keeps (env : Environment) (custom : Option String) (disk : Disk) :
    let run := (locate env custom : StateM Disk (Option String)).run disk
    ∃ path, (∀ answer, run.1 = some answer → answer = path) ∧
      ∀ names, ¬ AtProbe disk names → run.2.standing names = disk.standing names ∨
        disk.standing names = none ∧ run.2.standing names = some .directory ∧
          ∃ outer ∈ path :: Path.ancestors path, run.2.locate? outer = some names := by
  intro run
  obtain ⟨path, tried, htried, hgrown, hanswer⟩ : ∃ path tried, Probed disk tried ∧
      tried.Grown (path :: Path.ancestors path) run.2 ∧
        ∀ answer, run.1 = some answer → answer = path := by
    unfold run locate
    cases custom.or (env.get? "SPOKEN_MATH_LOG_DIR") with
    | some path => exact ⟨path, disk, .refl disk, grown_ensure disk path⟩
    | none =>
      rw [run_bind]
      exact ⟨_, _, probed_firstThatCanBeMade disk _ _, grown_ensure _ _⟩
  refine ⟨path, hanswer, fun names hnames => ?_⟩
  rw [← htried.standing names hnames]
  exact hgrown.standing names

/-- A user's file of the name by which writing is tried is lost, though a directory is found. -/
example :
    let disk : Disk := { root := .directory [("home", .directory [(".write_test", .file "x".toUTF8)])] }
    let run := (locate [("HOME", "/home")] none : StateM Disk (Option String)).run disk
    run.1 = some "/home/.local/share/spoken_math/logs" ∧
      (disk.standing ["home", ".write_test"]).isSome = true ∧
      (run.2.standing ["home", ".write_test"]).isSome = false := by
  decide +kernel

end Log.Directory

end CalcSpeech
