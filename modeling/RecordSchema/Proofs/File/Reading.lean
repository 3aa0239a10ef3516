/-
What is read after a file was written.

Writing a file makes and removes no directory, so a path leads to where it led before, and what is
read there differs only if that is where the file was put. Two paths may be written differently and
still end at one place; it is the place that decides.
-/
import RecordSchema.Proofs.File.Disk

set_option autoImplicit false

namespace RecordSchema.Disk

variable {disk : Disk} {place : Place} {content : Content} {path : Path}

/-! ## Following a path -/

/-- Entering succeeds exactly at a directory. -/
theorem enter_eq_ok_iff {directory next : Place} {name : String} :
    disk.enter directory name = .ok next ↔
      name.utf8ByteSize ≤ maxNameSize ∧ disk.entry? (child directory name) = some .directory ∧
        next = child directory name := by
  unfold enter
  by_cases hname : maxNameSize < name.utf8ByteSize
  · rw [if_pos hname]
    exact iff_of_false (fun h => nomatch h) (fun h => absurd h.1 (Nat.not_le_of_lt hname))
  · rw [if_neg hname]
    have hle : name.utf8ByteSize ≤ maxNameSize := Nat.le_of_not_lt hname
    cases hentry : disk.entry? (child directory name) with
    | none => simp
    | some entry => cases entry <;> simp [hle, eq_comm]

/-- Directories are the same after a file was put where there was none of them. -/
theorem entry?_put_file_eq_directory_iff (hroot : place ≠ [])
    (hplace : disk.entry? place ≠ some .directory) (other : Place) :
    Disk.entry? (disk.put place (.file content)) other = some .directory ↔
      disk.entry? other = some .directory := by
  rw [entry?_put disk hroot]
  by_cases hother : other = place
  · rw [if_pos hother, hother]
    exact iff_of_false (fun h => nomatch h) hplace
  · rw [if_neg hother]

theorem foldlM_enter_put_file (hroot : place ≠ [])
    (hplace : disk.entry? place ≠ some .directory) (names : List String) (origin last : Place) :
    names.foldlM (Disk.enter (disk.put place (.file content))) origin = .ok last ↔
      names.foldlM disk.enter origin = .ok last := by
  induction names generalizing origin with
  | nil => exact Iff.rfl
  | cons name names ih =>
      rw [List.foldlM_cons, List.foldlM_cons, bind_eq_ok_iff, bind_eq_ok_iff]
      refine exists_congr fun next => and_congr ?_ (ih next)
      rw [enter_eq_ok_iff, enter_eq_ok_iff, entry?_put_file_eq_directory_iff hroot hplace]

/-- A path ends where it ended before a file was put. -/
theorem locate_put_file (hroot : place ≠ []) (hplace : disk.entry? place ≠ some .directory)
    (path : Path) (location : Location) :
    Disk.locate (disk.put place (.file content)) path = .ok location ↔
      disk.locate path = .ok location := by
  unfold locate
  dsimp only
  split
  · exact Iff.rfl
  split
  · exact Iff.rfl
  split
  · exact Iff.rfl
  split
  · exact Iff.rfl
  · rw [bind_eq_ok_iff, bind_eq_ok_iff]
    exact exists_congr fun directory =>
      and_congr_left' (foldlM_enter_put_file hroot hplace _ _ directory)

/-- Two paths that end at one place. -/
def SamePlace (disk : Disk) (p q : Path) : Prop :=
  ∃ l m, disk.locate p = .ok l ∧ disk.locate q = .ok m ∧ l.place = m.place

instance (disk : Disk) (p q : Path) : Decidable (disk.SamePlace p q) :=
  match hp : disk.locate p, hq : disk.locate q with
  | .ok l, .ok m =>
    decidable_of_iff (l.place = m.place)
      ⟨fun h => ⟨l, m, hp, hq, h⟩, fun ⟨l', m', hl, hm, h⟩ => by
        cases hp.symm.trans hl
        cases hq.symm.trans hm
        exact h⟩
  | .error _, _ => isFalse fun ⟨_, _, hl, _⟩ => nomatch hp.symm.trans hl
  | _, .error _ => isFalse fun ⟨_, _, _, hm, _⟩ => nomatch hq.symm.trans hm

theorem samePlace_put_file (hroot : place ≠ []) (hplace : disk.entry? place ≠ some .directory)
    (p q : Path) :
    SamePlace (disk.put place (.file content)) p q ↔ disk.SamePlace p q := by
  unfold SamePlace
  simp only [locate_put_file hroot hplace]

/-! ## Texts -/

/-- A text is read exactly from a file that the path leads to without a slash at its end. -/
theorem readText_eq_ok_iff {text : String} :
    disk.readText path = .ok text ↔
      ∃ location, disk.locate path = .ok location ∧ location.endsInSlash = false ∧
        disk.entry? location.place = some (.file (.text text)) := by
  unfold readText find
  rw [bind_eq_ok_iff]
  constructor
  · rintro ⟨⟨found, entry⟩, hfind, hread⟩
    obtain ⟨location, hlocate, hentry⟩ := bind_eq_ok_iff.mp hfind
    refine ⟨location, hlocate, ?_⟩
    cases h : disk.entry? location.place with
    | none =>
        rw [h] at hentry
        cases hentry
    | some actual =>
        rw [h] at hentry
        cases actual with
        | directory =>
            cases hentry
            cases hread
        | file content =>
            dsimp only at hentry
            cases hslash : location.endsInSlash with
            | true =>
                rw [hslash, if_pos rfl] at hentry
                cases hentry
            | false =>
                rw [hslash, if_neg Bool.false_ne_true] at hentry
                cases hentry
                cases content with
                | bytes data => cases hread
                | text s =>
                    cases hread
                    exact ⟨rfl, rfl⟩
  · rintro ⟨location, hlocate, hslash, hentry⟩
    refine ⟨(location.place, .file (.text text)), bind_eq_ok_iff.mpr ⟨location, hlocate, ?_⟩, rfl⟩
    rw [hentry]
    dsimp only
    rw [hslash, if_neg Bool.false_ne_true]

/-- A staged text has a place exactly where its path ends in a name that is no directory's, and the
surroundings allow it. -/
theorem target_eq_ok_iff {file : Staged} :
    disk.target file = .ok place ↔
      ∃ location, disk.locate file.target = .ok location ∧ location.isNamed = true ∧
        location.endsInSlash = false ∧ disk.entry? location.place ≠ some .directory ∧
        .commit file.target ∉ disk.refusals ∧ location.place = place := by
  unfold target
  rw [bind_eq_ok_iff]
  refine exists_congr fun location => and_congr_right fun _ => ?_
  rw [guard_eq_ok_iff, guard_eq_ok_iff, guard_eq_ok_iff, guard_eq_ok_iff]
  simp [pure, Except.pure]

/-- A text that was put in the place of its path is read there. -/
theorem readText_put_target {file : Staged} (h : disk.target file = .ok place) :
    Disk.readText (disk.put place (.file (.text file.text))) file.target = .ok file.text := by
  have hroot := ne_root_of_target h
  obtain ⟨location, hlocate, -, hslash, hplace, -, rfl⟩ := target_eq_ok_iff.mp h
  refine readText_eq_ok_iff.mpr
    ⟨location, (locate_put_file hroot hplace _ _).mpr hlocate, hslash, ?_⟩
  rw [entry?_put disk hroot, if_pos rfl]

/-- A text that could be read is read again after a file was put in the place of another path:
what it is then depends on whether the two paths end at one place. -/
theorem readText_put_other {file : Staged} {text : String} (h : disk.target file = .ok place)
    (hread : disk.readText path = .ok text) :
    (disk.SamePlace file.target path →
      Disk.readText (disk.put place (.file (.text file.text))) path = .ok file.text) ∧
    (¬disk.SamePlace file.target path →
      Disk.readText (disk.put place (.file (.text file.text))) path = .ok text) := by
  have hroot := ne_root_of_target h
  obtain ⟨location, hlocate, -, -, hplace, -, rfl⟩ := target_eq_ok_iff.mp h
  obtain ⟨other, hother, hslash, hentry⟩ := readText_eq_ok_iff.mp hread
  constructor
  · rintro ⟨l, m, hl, hm, hsame⟩
    cases hl.symm.trans hlocate
    cases hm.symm.trans hother
    refine readText_eq_ok_iff.mpr
      ⟨other, (locate_put_file hroot hplace _ _).mpr hother, hslash, ?_⟩
    rw [entry?_put disk hroot, if_pos hsame.symm]
  · intro hdiffer
    refine readText_eq_ok_iff.mpr
      ⟨other, (locate_put_file hroot hplace _ _).mpr hother, hslash, ?_⟩
    rw [entry?_put disk hroot, if_neg fun hsame => hdiffer ⟨_, _, hlocate, hother, hsame.symm⟩,
      hentry]

end RecordSchema.Disk
