import CalcSpeech.Proofs.Files.Growth

/-!
# Where paths lead

A name behind a path leads to an entry of what the path leads to (`locate?_join`). The innermost of
the directories around a path, counted with the path itself, is the path without its idle segments,
and it leads where the path leads (`exists_head_ancestors`).
-/

namespace CalcSpeech

namespace Path

/-! ## Segments -/

/-- The names in front of a slash and those behind it. -/
theorem namesAfter_append (current front rest : List Char) :
    namesAfter current (front ++ '/' :: rest) = namesAfter current front ++ namesAfter [] rest := by
  induction front generalizing current with
  | nil => simp [namesAfter]
  | cons c front ih =>
    rw [List.cons_append, namesAfter, namesAfter]
    split_ifs
    · rw [ih, List.cons_append]
    · exact ih _

theorem namesAfter_of_not_mem {current text : List Char} (h : '/' ∉ text) :
    namesAfter current text = [String.ofList (current.reverse ++ text)] := by
  induction text generalizing current with
  | nil => rw [namesAfter, List.append_nil]
  | cons c text ih =>
    rw [List.mem_cons, not_or] at h
    rw [namesAfter, if_neg (Ne.symm h.1), ih h.2]
    simp

theorem not_mem_of_mem_namesAfter {current text : List Char} (h : '/' ∉ current) {segment : String}
    (hsegment : segment ∈ namesAfter current text) : '/' ∉ segment.toList := by
  induction text generalizing current with
  | nil =>
    rw [namesAfter, List.mem_singleton] at hsegment
    rw [hsegment, String.toList_ofList, List.mem_reverse]
    exact h
  | cons c text ih =>
    rw [namesAfter] at hsegment
    split_ifs at hsegment with hslash
    · rcases List.mem_cons.mp hsegment with rfl | hrest
      · rw [String.toList_ofList, List.mem_reverse]
        exact h
      · exact ih List.not_mem_nil hrest
    · exact ih (List.not_mem_cons_of_ne_of_not_mem (Ne.symm hslash) h) hsegment

/-- No segment has a slash in it. -/
theorem not_mem_of_mem_segments {path segment : String} (h : segment ∈ segments path) :
    '/' ∉ segment.toList :=
  not_mem_of_mem_namesAfter List.not_mem_nil h

theorem segments_append_slash (front rest : String) :
    segments (front ++ "/" ++ rest) = segments front ++ segments rest := by
  rw [segments, String.toList_append, String.toList_append, List.append_assoc]
  exact namesAfter_append [] _ _

/-- The segments of a path that is put together from them. -/
theorem segments_intercalate {parts : List String} (hne : parts ≠ [])
    (h : ∀ part ∈ parts, '/' ∉ part.toList) : segments ("/".intercalate parts) = parts := by
  induction parts with
  | nil => exact absurd rfl hne
  | cons part rest ih =>
    obtain ⟨hpart, hrest⟩ := List.forall_mem_cons.mp h
    have hone : segments part = [part] := by
      rw [segments, namesAfter_of_not_mem hpart]
      simp
    by_cases hnone : rest = []
    · rw [hnone, String.intercalate_singleton, hone]
    · rw [String.intercalate_cons_of_ne_nil hnone, segments_append_slash, hone, ih hnone hrest]
      rfl

theorem namesAfter_ne_nil (current text : List Char) : namesAfter current text ≠ [] := by
  induction text generalizing current with
  | nil => exact List.cons_ne_nil _ _
  | cons c text ih =>
    rw [namesAfter]
    split_ifs
    · exact List.cons_ne_nil _ _
    · exact ih _

theorem exists_namesAfter_cons {current : List Char} (h : current ≠ []) (text : List Char) :
    ∃ first rest, namesAfter current text = first :: rest ∧ first ≠ "" := by
  have hread (d : List Char) (hd : d ≠ []) : String.ofList d.reverse ≠ "" := by
    simpa [String.ofList_eq_empty_iff] using hd
  induction text generalizing current with
  | nil => exact ⟨_, [], rfl, hread current h⟩
  | cons c text ih =>
    rw [namesAfter]
    split_ifs
    · exact ⟨_, _, rfl, hread current h⟩
    · exact ih (List.cons_ne_nil c current)

/-- A path starts at the root if nothing stands in front of its first slash. -/
theorem segments_cases {path : String} (hne : path ≠ "") :
    (isAbsolute path = true ∧ ∃ rest, rest ≠ [] ∧ segments path = "" :: rest) ∨
      isAbsolute path = false ∧ ∃ first rest, segments path = first :: rest ∧ first ≠ "" := by
  unfold isAbsolute segments
  cases htext : path.toList with
  | nil => exact absurd (String.toList_eq_nil_iff.mp htext) hne
  | cons c text =>
    rw [namesAfter]
    split_ifs with hslash
    · exact Or.inl ⟨by rw [hslash]; rfl, _, namesAfter_ne_nil [] text, rfl⟩
    · refine Or.inr ⟨?_, exists_namesAfter_cons (List.cons_ne_nil c []) text⟩
      exact beq_false_of_ne fun h => hslash (Option.some.inj h)

theorem ne_empty_of_segments {path first : String} {rest : List String}
    (h : segments path = first :: rest) (hne : first ≠ "" ∨ rest ≠ []) : path ≠ "" := by
  rintro rfl
  have hnone : segments "" = [""] := by decide
  obtain ⟨rfl, rfl⟩ := List.cons.inj (hnone.symm.trans h)
  exact hne.elim (absurd rfl) (absurd rfl)

theorem isAbsolute_of_segments {path : String} {rest : List String}
    (h : segments path = "" :: rest) (hrest : rest ≠ []) : isAbsolute path = true := by
  rcases segments_cases (ne_empty_of_segments h (Or.inr hrest)) with
    ⟨habsolute, -⟩ | ⟨-, first, others, hrelative, hfirst⟩
  · exact habsolute
  · rw [hrelative] at h
    exact absurd (List.cons.inj h).1 hfirst

theorem isRelative_of_segments {path first : String} {rest : List String}
    (h : segments path = first :: rest) (hfirst : first ≠ "") : isAbsolute path = false := by
  rcases segments_cases (ne_empty_of_segments h (Or.inl hfirst)) with
    ⟨-, others, -, habsolute⟩ | ⟨hrelative, -⟩
  · rw [habsolute] at h
    exact absurd (List.cons.inj h).1.symm hfirst
  · exact hrelative

/-- The segments of a path and of the path with a name behind it, which has no slash: nothing behind a
last slash makes room for the name. -/
theorem segments_join_cases {directory name : String} (hne : directory ≠ "")
    (hname : segments name = [name]) (hfirst : name ≠ "") :
    isAbsolute (join directory name) = isAbsolute directory ∧ join directory name ≠ "" ∧
      (segments (join directory name) = segments directory ++ [name] ∨
        ∃ front, segments directory = front ++ [""] ∧
          segments (join directory name) = front ++ [name]) := by
  have hrelative := isRelative_of_segments hname hfirst
  obtain ⟨c, text, htext⟩ := List.exists_cons_of_ne_nil (mt String.toList_eq_nil_iff.mp hne)
  have hhead (more : String) : isAbsolute (directory ++ more) = isAbsolute directory ∧
      directory ++ more ≠ "" := by
    have hlist : (directory ++ more).toList = c :: (text ++ more.toList) := by
      rw [String.toList_append, htext, List.cons_append]
    refine ⟨by rw [isAbsolute, isAbsolute, hlist, htext]; rfl, fun hnone => ?_⟩
    rw [String.toList_eq_nil_iff.mpr hnone] at hlist
    cases hlist
  rw [join, if_neg (by simp [hne, hrelative])]
  split_ifs with hslash
  · refine ⟨(hhead name).1, (hhead name).2, Or.inr ?_⟩
    obtain ⟨outer, houter⟩ := List.getLast?_eq_some_iff.mp hslash
    refine ⟨namesAfter [] outer, ?_, ?_⟩
    · rw [segments, houter, namesAfter_append]
      rfl
    · rw [segments, String.toList_append, houter, List.append_assoc, List.singleton_append,
        namesAfter_append]
      exact congrArg _ hname
  · rw [String.append_assoc]
    refine ⟨(hhead _).1, (hhead _).2, Or.inl ?_⟩
    rw [← String.append_assoc, segments_append_slash, hname]

/-- A path that is followed by a name ends in it. -/
theorem segments_join (directory : String) {name : String} (hname : segments name = [name])
    (hfirst : name ≠ "") : ∃ front, segments (join directory name) = front ++ [name] := by
  by_cases hne : directory = ""
  · rw [join, if_pos (Or.inl hne)]
    exact ⟨[], hname⟩
  · obtain ⟨-, -, hmore | ⟨front, -, hmore⟩⟩ := segments_join_cases hne hname hfirst
    · exact ⟨_, hmore⟩
    · exact ⟨front, hmore⟩

/-! ## Parts -/

theorem parts_of_absolute {path : String} {rest : List String} (h : segments path = "" :: rest) :
    parts path = rest.filter (!isIdle ·) := by
  rw [parts, h, List.filter_cons_of_neg (by decide)]
  rfl

/-- The first segment of a path that does not start at the root is a part, a dot as well. -/
theorem parts_of_relative {path first : String} {rest : List String}
    (h : segments path = first :: rest) (hfirst : first ≠ "") :
    parts path = first :: rest.filter (!isIdle ·) := by
  rw [parts, h]
  by_cases hdot : first = "."
  · rw [hdot]
    rw [List.filter_cons_of_neg (by decide)]
    rfl
  · have hsolid : isIdle first = false := by simp [isIdle, hfirst, hdot]
    rw [List.head?_cons, if_neg (by simpa using hdot), List.nil_append,
      List.filter_cons_of_pos (by simp [hsolid])]

theorem not_mem_of_mem_parts (path : String) : ∀ part ∈ parts path, '/' ∉ part.toList := by
  intro part hpart
  rcases List.mem_append.mp hpart with hdot | hrest
  · split_ifs at hdot
    · rw [List.mem_singleton.mp hdot]
      decide
    · cases hdot
  · exact not_mem_of_mem_segments (List.mem_of_mem_filter hrest)

/-- The innermost of the paths of some parts has these parts for segments. -/
theorem exists_outward (absolute : Bool) {parts : List String} (hne : parts ≠ [])
    (h : ∀ part ∈ parts, '/' ∉ part.toList) : ∃ innermost outer,
      outward absolute parts.reverse = innermost :: outer ∧
        segments innermost = (if absolute then [""] else []) ++ parts := by
  obtain ⟨part, outer, hparts⟩ := List.exists_cons_of_ne_nil (mt List.reverse_eq_nil_iff.mp hne)
  have hsegments : segments (ofParts absolute parts.reverse) =
      (if absolute then [""] else []) ++ parts := by
    have hinner := segments_intercalate hne h
    rw [ofParts, List.reverse_reverse]
    cases absolute
    · simpa using hinner
    · have hroot := segments_append_slash "" ("/".intercalate parts)
      rw [String.empty_append, hinner] at hroot
      exact hroot
  refine ⟨_, outward absolute outer, ?_, hsegments⟩
  rw [hparts, outward]

end Path

namespace Disk

variable {disk : Disk}

/-! ## Ways -/

/-- An idle segment leads on from a directory, to where it is. -/
theorem walk?_of_isIdle {segment : String} (h : Path.isIdle segment = true)
    {place rest names : List String} : disk.walk? place (segment :: rest) = some names ↔
      disk.standing place = some .directory ∧ disk.walk? place rest = some names := by
  have hother : segment ≠ ".." := by
    rintro rfl
    exact absurd h (by decide)
  have hname : ¬ Path.isName segment = true := by
    rw [Path.isName, h]
    exact Bool.false_ne_true
  rw [walk?, if_neg hname, if_neg hother]
  split_ifs with hplace
  · exact (and_iff_right (FileTree.kind_eq_directory_iff.mp hplace)).symm
  · have hnone : disk.standing place ≠ some .directory := fun hdirectory =>
      hplace (FileTree.kind_eq_directory_iff.mpr hdirectory)
    refine iff_of_false (fun hsome => ?_) fun hall => hnone hall.1
    cases hsome

/-- Without its idle segments a way leads to where it led. -/
theorem walk?_filter {place segments names : List String}
    (h : disk.walk? place segments = some names) :
    disk.walk? place (segments.filter (!Path.isIdle ·)) = some names := by
  induction segments generalizing place with
  | nil => exact h
  | cons segment rest ih =>
    by_cases hidle : Path.isIdle segment = true
    · rw [List.filter_cons_of_neg (by simp [hidle])]
      exact ih ((walk?_of_isIdle hidle).mp h).2
    · rw [List.filter_cons_of_pos (by simpa using hidle)]
      rw [walk?] at h ⊢
      split_ifs at h ⊢
      · exact ih h
      · exact ih h
      · exact ih h

/-- A name behind a path leads to an entry of what the path leads to. -/
theorem locate?_join {directory name : String} {names : List String}
    (h : disk.locate? directory = some names) (hsegments : Path.segments name = [name])
    (hname : Path.isName name = true) :
    disk.locate? (Path.join directory name) = some (names ++ [name]) := by
  have hfirst : name ≠ "" := by
    rintro rfl
    exact absurd hname (by decide)
  unfold locate? at h
  split_ifs at h with hne
  obtain ⟨habsolute, hjoin, hcases⟩ := Path.segments_join_cases hne hsegments hfirst
  have hstart : disk.start (Path.join directory name) = disk.start directory := by
    rw [start, start, habsolute]
  have hlast (place : List String) : disk.walk? place [name] = some (place ++ [name]) := by
    rw [walk?, if_pos hname, walk?]
  rw [locate?, if_neg hjoin, hstart]
  rcases hcases with hmore | ⟨front, hdirectory, hmore⟩
  · rw [hmore, walk?_append, h, Option.bind_some, hlast]
  · rw [hdirectory, walk?_append] at h
    obtain ⟨place, hfront, hrest⟩ := Option.bind_eq_some_iff.mp h
    obtain ⟨-, hplace⟩ := (walk?_of_isIdle (by decide)).mp hrest
    rw [hmore, walk?_append, hfront, Option.bind_some, hlast]
    rw [walk?] at hplace
    rw [Option.some.inj hplace]

theorem locate?_absolute {path : String} {rest names : List String}
    (h : Path.segments path = "" :: rest) (hrest : rest ≠ []) : disk.locate? path = some names ↔
      disk.standing [] = some .directory ∧ disk.walk? [] rest = some names := by
  rw [locate?, if_neg (Path.ne_empty_of_segments h (Or.inr hrest)), start,
    if_pos (Path.isAbsolute_of_segments h hrest), h]
  exact walk?_of_isIdle (by decide)

theorem locate?_relative {path first : String} {rest : List String}
    (h : Path.segments path = first :: rest) (hfirst : first ≠ "") :
    disk.locate? path = disk.walk? disk.here (first :: rest) := by
  rw [locate?, if_neg (Path.ne_empty_of_segments h (Or.inl hfirst)), start,
    Path.isRelative_of_segments h hfirst, if_neg Bool.false_ne_true, h]

/-- The innermost of the paths around a path leads where the path leads. -/
theorem exists_head_ancestors {path : String} {names : List String}
    (h : disk.locate? path = some names) :
    ∃ innermost outer, Path.ancestors path = innermost :: outer ∧
      disk.locate? innermost = some names := by
  have hne : path ≠ "" := by
    rintro rfl
    cases h
  have hparts := Path.not_mem_of_mem_parts path
  rw [Path.ancestors]
  rcases Path.segments_cases hne with ⟨habsolute, rest, hrest, hsegments⟩ | ⟨hrelative, first, rest,
    hsegments, hfirst⟩
  · obtain ⟨hroot, hway⟩ := (locate?_absolute hsegments hrest).mp h
    replace hway := walk?_filter hway
    rw [← Path.parts_of_absolute hsegments] at hway
    rw [habsolute]
    by_cases hnone : Path.parts path = []
    · -- a path of slashes and dots leads to the root
      rw [hnone] at hway ⊢
      have hslash : Path.segments "/" = ["", ""] := by decide
      refine ⟨"/", [], rfl, (locate?_absolute hslash (List.cons_ne_nil _ _)).mpr ⟨hroot, ?_⟩⟩
      exact (walk?_of_isIdle (by decide)).mpr ⟨hroot, hway⟩
    · obtain ⟨innermost, outer, houtward, hinner⟩ :=
        Path.exists_outward true hnone hparts
      exact ⟨innermost, outer, houtward, (locate?_absolute hinner hnone).mpr ⟨hroot, hway⟩⟩
  · have hown := Path.parts_of_relative hsegments hfirst
    obtain ⟨innermost, outer, houtward, hinner⟩ :=
      Path.exists_outward false (by rw [hown]; exact List.cons_ne_nil _ _) hparts
    rw [hrelative]
    refine ⟨innermost, outer, houtward, ?_⟩
    rw [locate?_relative hsegments hfirst] at h
    rw [hown] at hinner
    rw [locate?_relative hinner hfirst]
    -- the first segment is a dot, or it is no idle one
    by_cases hdot : Path.isIdle first = true
    · obtain ⟨hhere, hway⟩ := (walk?_of_isIdle hdot).mp h
      exact (walk?_of_isIdle hdot).mpr ⟨hhere, walk?_filter hway⟩
    · have hway := walk?_filter h
      rwa [List.filter_cons_of_pos (by simpa using hdot)] at hway

end Disk

end CalcSpeech
