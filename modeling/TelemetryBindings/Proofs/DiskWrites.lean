import TelemetryBindings.CommandLine.Command
import TelemetryBindings.CommandLine.Disk
import TelemetryBindings.Proofs.Compiling

/-!
# What writing changes

Creating directories changes no file, and writing a text changes the one file that the path leads
to. No directory is ever lost, so a path that led somewhere leads there ever after.
-/
namespace TelemetryBindings.Disk

variable {d d' d'' : Disk}

theorem read?_put (d : Disk) (p q : Path) (text : String) :
    (d.put p text).read? q = if q = p then some text else d.read? q := by
  have hothers : q ≠ p → (d.files.filter (·.1 != p)).lookup q = d.files.lookup q := by
    intro hne
    induction d.files with
    | nil => rfl
    | cons file files ih =>
      obtain ⟨r, t⟩ := file
      by_cases hr : r = p
      · subst hr
        simpa [List.lookup_cons, beq_eq_false_iff_ne.mpr hne] using ih
      · simp only [List.filter_cons, bne_iff_ne, ne_eq, hr, not_false_eq_true, if_true,
          List.lookup_cons, ih]
  rw [read?, put, List.lookup_cons]
  by_cases hq : q = p
  · simp [hq]
  · rw [if_neg hq, beq_eq_false_iff_ne.mpr hq]
    exact hothers hq

def KeepsDirectories (d d' : Disk) : Prop := ∀ p, d.isDirectory p → d'.isDirectory p

theorem KeepsDirectories.trans (h : d.KeepsDirectories d') (h' : d'.KeepsDirectories d'') :
    d.KeepsDirectories d'' :=
  fun p hp => h' p (h p hp)

/-- Names that led somewhere lead there as long as directories are kept. -/
theorem KeepsDirectories.follow (h : d.KeepsDirectories d') {names : List String}
    {place p : Path} (hfollow : d.follow place names = .ok p) : d'.follow place names = .ok p := by
  induction names generalizing place with
  | nil => exact hfollow
  | cons name names ih =>
    rw [Disk.follow] at hfollow ⊢
    by_cases hplace : d.isDirectory place
    · rw [if_pos hplace] at hfollow
      rw [if_pos (h place hplace)]
      split_ifs at hfollow ⊢ <;> exact ih hfollow
    · rw [if_neg hplace] at hfollow
      cases hfollow

theorem KeepsDirectories.locate (h : d.KeepsDirectories d') {path : String} {p : Path}
    (hlocate : d.locate path = .ok p) : d'.locate path = .ok p := by
  rw [Disk.locate] at hlocate ⊢
  split_ifs at hlocate ⊢
  exact h.follow hlocate

theorem keepsDirectories_put (d : Disk) (p : Path) (text : String) :
    d.KeepsDirectories (d.put p text) := by
  intro q hq
  simp only [isDirectory, Bool.or_eq_true] at hq ⊢
  refine hq.imp_right fun hfile => ?_
  obtain ⟨file, hmem, hbelow⟩ := List.any_eq_true.mp hfile
  by_cases hp : file.1 = p
  · exact List.any_eq_true.mpr ⟨(p, text), List.mem_cons_self, hp ▸ hbelow⟩
  · have hkept : file ∈ d.files.filter (·.1 != p) :=
      List.mem_filter.mpr ⟨hmem, bne_iff_ne.mpr hp⟩
    exact List.any_eq_true.mpr ⟨file, List.mem_cons_of_mem _ hkept, hbelow⟩

/-- A text is written to the place that the path leads to. -/
theorem writeText_eq_ok {path text : String} (h : d.writeText path text = .ok d') :
    ∃ place, d.locate path = .ok place ∧ d' = d.put place text := by
  rw [writeText] at h
  split at h
  · obtain ⟨_, -, h⟩ := bind_eq_ok_iff.mp h
    cases h
  · obtain ⟨place, hplace, h⟩ := bind_eq_ok_iff.mp h
    split at h
    · cases h
    · exact ⟨place, hplace, (Except.ok.inj h).symm⟩

/-! ### Creating directories -/

structure AddsDirectories (d d' : Disk) : Prop where
  directories : d.KeepsDirectories d'
  files : d'.files = d.files

theorem AddsDirectories.refl (d : Disk) : d.AddsDirectories d := ⟨fun _ hp => hp, rfl⟩

theorem AddsDirectories.trans (h : d.AddsDirectories d') (h' : d'.AddsDirectories d'') :
    d.AddsDirectories d'' :=
  ⟨h.directories.trans h'.directories, h'.files.trans h.files⟩

theorem addsDirectories_createDirectory {names : List String}
    (h : d.createDirectory names = .ok d') : d.AddsDirectories d' := by
  rw [createDirectory] at h
  obtain ⟨place, -, h⟩ := bind_eq_ok_iff.mp h
  split at h
  · cases h
  · obtain rfl := Except.ok.inj h
    refine ⟨fun q hq => ?_, rfl⟩
    simp only [isDirectory, Bool.or_eq_true, List.contains_cons] at hq ⊢
    exact hq.imp_left fun hdirectory => hdirectory.imp_right .inr

theorem addsDirectories_createWithParents {names : List String}
    (h : d.createWithParents names = .ok d') : d.AddsDirectories d' := by
  -- A directory that is there already is left as it is.
  have hsettle : ∀ {b : Bool} {x y : Disk} {fault : FileFault},
      (if b then .ok x else .error fault : Except FileFault Disk) = .ok y →
        x.AddsDirectories y := by
    intro b x y fault hxy
    split at hxy
    · exact Except.ok.inj hxy ▸ .refl x
    · cases hxy
  induction names generalizing d' with
  | nil => exact Except.ok.inj h ▸ .refl d
  | cons name parents ih =>
    rw [createWithParents] at h
    split at h
    · next hcreated => exact Except.ok.inj h ▸ addsDirectories_createDirectory hcreated
    · obtain ⟨around, hparents, h⟩ := bind_eq_ok_iff.mp h
      refine (ih hparents).trans ?_
      split at h
      · next hcreated => exact Except.ok.inj h ▸ addsDirectories_createDirectory hcreated
      · exact hsettle h
    · exact hsettle h

theorem addsDirectories_createDirectories {path : String}
    (h : d.createDirectories path = .ok d') : d.AddsDirectories d' := by
  rw [createDirectories] at h
  split at h
  · obtain ⟨_, -, h⟩ := bind_eq_ok_iff.mp h
    exact Except.ok.inj h ▸ .refl d
  · exact addsDirectories_createWithParents h

/-! ### Writing several files -/

def Has (d : Disk) (file : String × String) (place : Path) : Prop :=
  d.locate file.1 = .ok place ∧ d.read? place = some file.2

/-- The second disk is the first after files, given by path and text, were written to it. Every path
leads to one of the files, and nothing else has changed. -/
structure Receives (d : Disk) (files : List (String × String)) (d' : Disk) : Prop where
  directories : d.KeepsDirectories d'
  written : ∀ file ∈ files, ∃ place, d'.locate file.1 = .ok place ∧
    ∃ last ∈ files, d'.Has last place
  others : ∀ place, d'.read? place = d.read? place ∨ ∃ file ∈ files, d'.Has file place

theorem AddsDirectories.receives (h : d.AddsDirectories d') : d.Receives [] d' where
  directories := h.directories
  written := List.forall_mem_nil _
  others place := .inl (by rw [read?, h.files]; rfl)

theorem receives_writeText {path text : String} (h : d.writeText path text = .ok d') :
    d.Receives [(path, text)] d' := by
  obtain ⟨place, hplace, rfl⟩ := writeText_eq_ok h
  have hkeeps := keepsDirectories_put d place text
  have hhas : (d.put place text).Has (path, text) place :=
    ⟨hkeeps.locate hplace, by rw [read?_put, if_pos rfl]⟩
  refine ⟨hkeeps, List.forall_mem_singleton.mpr ⟨place, hhas.1, _, List.mem_singleton_self _, hhas⟩,
    fun other => ?_⟩
  by_cases hother : other = place
  · exact .inr ⟨_, List.mem_singleton_self _, hother ▸ hhas⟩
  · exact .inl (by rw [read?_put, if_neg hother])

/-- Files that are written later leave the others as they are or replace them. -/
theorem Receives.append {files files' : List (String × String)} (h : d.Receives files d')
    (h' : d'.Receives files' d'') : d.Receives (files ++ files') d'' := by
  have hlater : ∀ place, (∃ file ∈ files, d'.Has file place) →
      ∃ file ∈ files ++ files', d''.Has file place := by
    rintro place ⟨file, hfile, hlocate, htext⟩
    rcases h'.others place with hsame | ⟨last, hlast, hhas⟩
    · exact ⟨file, List.mem_append_left _ hfile, h'.directories.locate hlocate,
        hsame.trans htext⟩
    · exact ⟨last, List.mem_append_right _ hlast, hhas⟩
  refine ⟨h.directories.trans h'.directories, fun file hfile => ?_, fun place => ?_⟩
  · rcases List.mem_append.mp hfile with hfile | hfile
    · obtain ⟨place, hlocate, hlast⟩ := h.written file hfile
      exact ⟨place, h'.directories.locate hlocate, hlater place hlast⟩
    · obtain ⟨place, hlocate, last, hlast, hhas⟩ := h'.written file hfile
      exact ⟨place, hlocate, last, List.mem_append_right _ hlast, hhas⟩
  · rcases h'.others place with hsame | ⟨last, hlast, hhas⟩
    · rcases h.others place with hfirst | hwritten
      · exact .inl (hsame.trans hfirst)
      · exact .inr (hlater place hwritten)
    · exact .inr ⟨last, List.mem_append_right _ hlast, hhas⟩

/-! ### Files of one directory -/

/-- The name stands for something in the directory in which it is followed. -/
structure Proper (name : String) : Prop where
  separatorless : '/' ∉ name.toList
  nonempty : name ≠ ""
  notHere : name ≠ "."
  notAbove : name ≠ ".."

theorem splitOn_of_notMem {cs : List Char} (h : '/' ∉ cs) : cs.splitOn '/' = [cs] := by
  refine List.splitOnP_eq_singleton fun c hc => beq_eq_false_iff_ne.mpr ?_
  rintro rfl
  exact h hc

/-- A name behind a slash is the last of the names. -/
theorem exists_namesOf_append (cs : List Char) :
    ∃ front, ∀ path name : String, '/' ∉ name.toList → path.toList = cs ++ '/' :: name.toList →
      namesOf path = front ++ [name] := by
  have hparts : ∀ path name : String, '/' ∉ name.toList → path.toList = cs ++ '/' :: name.toList →
      (path.toList.splitOn '/').map String.ofList =
        (cs.splitOn '/').map String.ofList ++ [name] := by
    intro path name hname hpath
    have hsplit : (cs ++ '/' :: name.toList).splitOn '/' =
        cs.splitOn '/' ++ name.toList.splitOn '/' :=
      List.splitOnP_append_cons cs name.toList (by decide)
    rw [hpath, hsplit, splitOn_of_notMem hname, List.map_append, List.map_singleton,
      String.ofList_toList]
  cases hfront : (cs.splitOn '/').map String.ofList with
  | nil =>
    refine ⟨[], fun path name hname hpath => ?_⟩
    rw [namesOf, hparts path name hname hpath, hfront]
    split
    · next heq => cases heq
    · rfl
  | cons first rest =>
    -- An empty name in front is the root of an absolute path.
    refine ⟨(if first = "" then "/" else first) :: rest, fun path name hname hpath => ?_⟩
    rw [namesOf, hparts path name hname hpath, hfront]
    by_cases hfirst : first = ""
    · subst hfirst
      cases rest <;> rfl
    · rw [if_neg hfirst]
      split
      · next heq => exact absurd (List.cons.inj heq).1 hfirst
      · rfl

/-- The names of a file in a directory are those of the directory and its own. -/
theorem exists_namesOf_joinPath (directory : String) :
    ∃ front, ∀ name : String, '/' ∉ name.toList →
      namesOf (joinPath directory name) = front ++ [name] := by
  by_cases hempty : directory = ""
  · subst hempty
    refine ⟨[], fun name hname => ?_⟩
    rw [joinPath, if_pos (.inl rfl), String.empty_append, namesOf, splitOn_of_notMem hname,
      List.map_singleton, String.ofList_toList]
    split
    · next heq => cases heq
    · rfl
  · by_cases hslash : directory.endsWith "/"
    · have hsuffix : ['/'] <:+ directory.toList := by
        rw [← String.endsWith_toSlice, String.Slice.endsWith_string_iff] at hslash
        simpa using hslash
      obtain ⟨cs, hcs⟩ := hsuffix
      obtain ⟨front, hfront⟩ := exists_namesOf_append cs
      refine ⟨front, fun name hname => hfront _ name hname ?_⟩
      rw [joinPath, if_pos (.inr hslash), String.toList_append, ← hcs]
      simp
    · obtain ⟨front, hfront⟩ := exists_namesOf_append directory.toList
      refine ⟨front, fun name hname => hfront _ name hname ?_⟩
      rw [joinPath, if_neg (by simp [hempty, hslash]), String.toList_append, String.toList_append]
      simp

theorem follow_append_singleton {front : List String} {name : String} (hname : Proper name)
    {place p : Path} (h : d.follow place (front ++ [name]) = .ok p) :
    ∃ directory, d.follow place front = .ok directory ∧ p = directory ++ [name] := by
  induction front generalizing place with
  | nil =>
    have hslash : name ≠ "/" := by
      rintro rfl
      exact hname.separatorless (by decide)
    refine ⟨place, rfl, ?_⟩
    simp only [List.nil_append, follow, hslash, hname.nonempty, hname.notHere, hname.notAbove,
      or_self, if_false] at h
    split at h
    · exact (Except.ok.inj h).symm
    · cases h
  | cons n front ih =>
    rw [List.cons_append, follow] at h
    rw [follow]
    split at h
    · next hplace =>
      rw [if_pos hplace]
      split_ifs at h ⊢ <;> exact ih h
    · cases h

/-- All files in a directory lie in one place, under their names. -/
theorem exists_directory_of_locate (d : Disk) (output : String) :
    ∃ directory : Path, ∀ name p, Proper name → d.locate (joinPath output name) = .ok p →
      p = directory ++ [name] := by
  obtain ⟨front, hfront⟩ := exists_namesOf_joinPath output
  refine ⟨((d.follow [] front).toOption).getD [], fun name p hname h => ?_⟩
  rw [locate] at h
  split at h
  · cases h
  · rw [hfront name hname.separatorless] at h
    obtain ⟨directory, hdirectory, rfl⟩ := follow_append_singleton hname h
    rw [hdirectory]
    rfl

end TelemetryBindings.Disk
