/-
What writing does to a disk.

Staging a file touches no place and giving it up undoes it. A commit either gives the staged file up
and changes nothing else, or puts its text at one place, which is no directory. What is at every
other place stays: `entry?_put` is the one law about places that runs need.
-/
import RecordSchema.File.Disk
import RecordSchema.Proofs.Result

set_option autoImplicit false

namespace RecordSchema.Disk

/-! ## Places -/

/-- A look-up meets the first entry at its own place alone. -/
private theorem lookup_cons_entry (key : Place) (value : Entry) (entries : List (Place × Entry))
    (place : Place) :
    ((key, value) :: entries).lookup place =
      if place = key then some value else entries.lookup place := by
  rw [List.lookup_cons]
  by_cases h : place = key
  · rw [if_pos h, h, beq_self_eq_true]
  · rw [if_neg h, beq_false_of_ne h]

/-- Leaving out one place changes the look-up of that place alone. -/
private theorem lookup_filter_ne (entries : List (Place × Entry)) (place other : Place) :
    (entries.filter fun entry => entry.1 ≠ place).lookup other =
      if other = place then none else entries.lookup other := by
  induction entries with
  | nil => simp
  | cons entry entries ih =>
      obtain ⟨key, value⟩ := entry
      by_cases hkey : key = place
      · -- the entry is left out, and only a look-up of the place would have met it
        rw [List.filter_cons_of_neg (by simp [hkey]), ih, lookup_cons_entry, hkey]
        by_cases ho : other = place
        · rw [if_pos ho, if_pos ho]
        · rw [if_neg ho, if_neg ho, if_neg ho]
      · rw [List.filter_cons_of_pos (by simp [hkey]), lookup_cons_entry, lookup_cons_entry, ih]
        by_cases ho : other = key
        · have hplace : ¬other = place := fun h => hkey (ho.symm.trans h)
          rw [if_pos ho, if_neg hplace, if_pos ho]
        · rw [if_neg ho, if_neg ho]

/-- Putting something at a place changes what is at that place alone. -/
theorem entry?_put (disk : Disk) {place : Place} (hplace : place ≠ []) (entry : Entry)
    (other : Place) :
    Disk.entry? (disk.put place entry) other =
      if other = place then some entry else disk.entry? other := by
  have hlookup : (disk.put place entry).entries.lookup other =
      if other = place then some entry else disk.entries.lookup other := by
    change ((disk.entries.filter fun entry => entry.1 ≠ place) ++ [(place, entry)]).lookup other = _
    rw [List.lookup_append, lookup_filter_ne, lookup_cons_entry]
    by_cases hother : other = place
    · rw [if_pos hother, if_pos hother, if_pos hother, Option.none_or]
    · rw [if_neg hother, if_neg hother, if_neg hother, List.lookup_nil, Option.or_none]
  unfold entry?
  rw [hlookup]
  by_cases hroot : other = []
  · rw [if_pos hroot, if_pos hroot, if_neg fun h => hplace (h.symm.trans hroot)]
  · rw [if_neg hroot, if_neg hroot]

/-- What a file can be put over is no directory, and so not the root. -/
theorem ne_root_of_target {disk : Disk} {file : Staged} {place : Place}
    (h : disk.target file = .ok place) : place ≠ [] := by
  unfold target at h
  obtain ⟨location, -, h⟩ := bind_eq_ok_iff.mp h
  rw [guard_eq_ok_iff, guard_eq_ok_iff, guard_eq_ok_iff, guard_eq_ok_iff] at h
  obtain ⟨-, -, hdirectory, -, h⟩ := h
  cases h
  intro hroot
  refine hdirectory ?_
  rw [hroot]
  rfl

/-! ## Staged files -/

/-- A disk with more files staged. -/
def withStaged (disk : Disk) (files : List Staged) : Disk :=
  { disk with staged := files ++ disk.staged }

@[simp] theorem withStaged_nil (disk : Disk) : disk.withStaged [] = disk := rfl

theorem withStaged_withStaged (disk : Disk) (files more : List Staged) :
    (disk.withStaged files).withStaged more = disk.withStaged (more ++ files) := by
  unfold withStaged
  rw [List.append_assoc]

/-- What a path leads to does not depend on what is staged. -/
theorem find_withStaged (disk : Disk) (files : List Staged) (path : Path) :
    (disk.withStaged files).find path = disk.find path := rfl

/-- Where a file can be put does not depend on what is staged. -/
theorem target_withStaged (disk : Disk) (files : List Staged) (file : Staged) :
    (disk.withStaged files).target file = disk.target file := rfl

/-- What a path asks for before a text can be staged for it: its directory, and the leave of the
surroundings. -/
def Stages (disk : Disk) (path : Path) : Prop :=
  (∃ place, disk.find path.directory = .ok (place, .directory)) ∧
    .staging path ∉ disk.refusals

/-- Whether a text can be staged does not depend on what is staged. -/
theorem stages_withStaged (disk : Disk) (files : List Staged) (path : Path) :
    (disk.withStaged files).Stages path ↔ disk.Stages path := by
  unfold Stages
  rw [find_withStaged]
  exact Iff.rfl

/-- A text is staged exactly where it can be, and staging leaves everything in its place. -/
theorem stage_eq_ok_iff {disk after : Disk} {path : Path} {text : String} {file : Staged} :
    disk.stage path text = .ok (after, file) ↔
      disk.Stages path ∧ file = ⟨path, text⟩ ∧ after = disk.withStaged [file] := by
  unfold stage Stages
  rw [bind_eq_ok_iff]
  constructor
  · rintro ⟨⟨place, entry⟩, hfind, h⟩
    cases entry with
    | file content => cases h
    | directory =>
        dsimp only at h
        rw [guard_eq_ok_iff] at h
        obtain ⟨hrefusal, h⟩ := h
        cases h
        exact ⟨⟨⟨place, hfind⟩, hrefusal⟩, rfl, rfl⟩
  · rintro ⟨⟨⟨place, hfind⟩, hrefusal⟩, rfl, rfl⟩
    refine ⟨_, hfind, ?_⟩
    dsimp only
    rw [guard_eq_ok_iff]
    exact ⟨hrefusal, rfl⟩

/-- Giving up a file that was staged last, or before one other, undoes the staging. -/
theorem discard_withStaged (disk : Disk) (other : Option Staged) (file : Staged) :
    (disk.withStaged (other.toList ++ [file])).discard file = disk.withStaged other.toList := by
  have herase : (other.toList ++ [file] ++ disk.staged).erase file =
      other.toList ++ disk.staged := by
    cases other with
    | none => exact List.erase_cons_head _ _
    | some o =>
        by_cases ho : o = file
        · -- the two are the same file, and it does not matter which of them goes
          subst ho
          exact List.erase_cons_head _ _
        · change (o :: file :: disk.staged).erase file = o :: disk.staged
          rw [List.erase_cons_tail (by simpa using ho), List.erase_cons_head]
  unfold discard withStaged
  rw [herase]

/-! ## Commits -/

/-- What a commit does, with the text staged last or before one other: it gives the text up, and
puts it at the place that its target means if it means one. -/
theorem commit_withStaged (disk : Disk) (other : Option Staged) (file : Staged) :
    (disk.withStaged (other.toList ++ [file])).commit file =
      match disk.target file with
      | .error e => (disk.withStaged other.toList, .error e)
      | .ok place => ((disk.put place (.file (.text file.text))).withStaged other.toList, .ok ()) := by
  unfold commit
  rw [target_withStaged, discard_withStaged]
  cases disk.target file with
  | error e => rfl
  | ok place => rfl

end RecordSchema.Disk
