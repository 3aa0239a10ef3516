/-
What a run that fails leaves on the disk.

Both texts are staged before either is put in its place, so a run that fails while it reads, derives
or stages leaves the disk as it was, and so does one whose model file cannot be put in its place.
The two commits are steps of their own, though. When the second is refused the first has happened,
and nothing takes it back: the new model file stays, without the binding that belongs to it. That is
the only way in which a run that fails leaves anything behind.
-/
import Mathlib.Control.Monad.Basic
import RecordSchema.Run
import RecordSchema.Proofs.File.Disk

set_option autoImplicit false

namespace RecordSchema

/-! ## Optional texts -/

namespace Disk

/-- What staging an optional text gives, where it succeeds. -/
theorem stageOptional_eq_ok {disk after : Disk} {output : Option (Path × String)}
    {file : Option Staged} (h : disk.stageOptional output = .ok (after, file)) :
    (∀ o ∈ output, disk.Stages o.1) ∧ file = output.map (fun o => ⟨o.1, o.2⟩) ∧
      after = disk.withStaged file.toList := by
  cases output with
  | none =>
      cases h
      exact ⟨fun o ho => absurd ho (Option.not_mem_none o), rfl, rfl⟩
  | some o =>
      obtain ⟨path, text⟩ := o
      unfold stageOptional stageText at h
      dsimp only at h
      obtain ⟨⟨staged, f⟩, hstage, h⟩ := bind_eq_ok_iff.mp h
      rw [mapError_eq_ok_iff, stage_eq_ok_iff] at hstage
      obtain ⟨hstages, rfl, rfl⟩ := hstage
      cases h
      refine ⟨fun o ho => ?_, rfl, rfl⟩
      cases Option.mem_some.mp ho
      exact hstages

/-- A text that can be staged is staged. -/
theorem stageOptional_some {disk : Disk} {path : Path} (hstages : disk.Stages path)
    (text : String) :
    disk.stageOptional (some (path, text)) =
      .ok (disk.withStaged [⟨path, text⟩], some ⟨path, text⟩) := by
  have hstage : disk.stage path text = .ok (disk.withStaged [⟨path, text⟩], ⟨path, text⟩) :=
    stage_eq_ok_iff.mpr ⟨hstages, rfl, rfl⟩
  unfold stageOptional stageText
  dsimp only
  rw [hstage]
  rfl

/-- Giving up the only text that was staged undoes the staging. -/
theorem discardOptional_withStaged (disk : Disk) (file : Option Staged) :
    (disk.withStaged file.toList).discardOptional file = disk := by
  cases file with
  | none => rfl
  | some f => exact disk.discard_withStaged none f

/-- What putting a text in its place does, with the text staged last or before one other. -/
theorem commitOptional_withStaged (disk : Disk) (other : Option Staged) (file : Staged) :
    (disk.withStaged (other.toList ++ [file])).commitOptional (some file) =
      match disk.target file with
      | .error e => (disk.withStaged other.toList, .error (.file file.target e))
      | .ok place => ((disk.put place (.file (.text file.text))).withStaged other.toList, .ok ()) := by
  unfold commitOptional commitText
  dsimp only
  rw [commit_withStaged]
  cases disk.target file with
  | error e => rfl
  | ok place => rfl

/-- A commit that fails leaves what was there before its own text was staged. -/
theorem commitOptional_eq_error {disk after : Disk} {other file : Option Staged} {e : StoreError}
    (h : (disk.withStaged (other.toList ++ file.toList)).commitOptional file = (after, .error e)) :
    ∃ f cause, file = some f ∧ disk.target f = .error cause ∧ e = .file f.target cause ∧
      after = disk.withStaged other.toList := by
  cases file with
  | none => cases h
  | some f =>
      rw [Option.toList_some, commitOptional_withStaged] at h
      cases htarget : disk.target f with
      | error cause =>
          rw [htarget] at h
          cases h
          exact ⟨f, cause, rfl, htarget, rfl, rfl⟩
      | ok place =>
          rw [htarget] at h
          cases h

/-- A commit of the last text that is staged, if it fails, leaves nothing staged. -/
theorem commitOptional_last_eq_error {disk after : Disk} {file : Option Staged} {e : StoreError}
    (h : (disk.withStaged file.toList).commitOptional file = (after, .error e)) :
    ∃ f cause, file = some f ∧ disk.target f = .error cause ∧ after = disk := by
  have hlast : (disk.withStaged ((none : Option Staged).toList ++ file.toList)).commitOptional file =
      (after, .error e) := h
  obtain ⟨f, cause, hfile, htarget, -, hafter⟩ := commitOptional_eq_error hlast
  exact ⟨f, cause, hfile, htarget, hafter⟩

/-- A commit that succeeds has put its text, if there was one, at one place. -/
theorem commitOptional_eq_ok {disk after : Disk} {other file : Option Staged}
    (h : (disk.withStaged (other.toList ++ file.toList)).commitOptional file = (after, .ok ())) :
    (file = none ∧ after = disk.withStaged other.toList) ∨
      ∃ f place, file = some f ∧ disk.target f = .ok place ∧
        after = (disk.put place (.file (.text f.text))).withStaged other.toList := by
  cases file with
  | none =>
      cases h
      left
      refine ⟨rfl, ?_⟩
      rw [Option.toList_none, List.append_nil]
  | some f =>
      rw [Option.toList_some, commitOptional_withStaged] at h
      cases htarget : disk.target f with
      | error cause =>
          rw [htarget] at h
          cases h
      | ok place =>
          rw [htarget] at h
          cases h
          exact .inr ⟨f, place, rfl, htarget, rfl⟩

end Disk

/-! ## The one half of a run -/

namespace Options

variable {options : Options} {disk : Disk} {generated : Generated} {place : Place} {path : Path}
  {cause : FileError}

/-- The model file is written exactly when that was decided. -/
theorem modelOutput_eq_some_iff {o : Path × String} :
    options.modelOutput generated = some o ↔
      generated.written = true ∧ o = (options.modelPath, generated.snapshot.fileText) := by
  unfold modelOutput
  cases generated.written with
  | false => exact iff_of_false (fun h => nomatch h) (fun h => nomatch h.1)
  | true =>
      rw [if_pos rfl, Option.some.injEq]
      exact ⟨fun h => ⟨rfl, h.symm⟩, fun h => h.2.symm⟩

/-- The binding file is written exactly when one was asked for. -/
theorem bindingOutput_eq_some_iff {o : Path × String} :
    options.bindingOutput generated = some o ↔
      ∃ path, options.bindingFile = some path ∧ (path, generated.binding.fileText) = o :=
  Option.map_eq_some_iff

/-- A run whose first commit succeeds and whose second does not: both texts can be staged, the model
file has a place, and with the model file in it the binding file has none. -/
structure HalfPublished (options : Options) (disk : Disk) (generated : Generated) (place : Place)
    (path : Path) (cause : FileError) : Prop where
  written : generated.written = true
  stagesModel : disk.Stages options.modelPath
  binding : options.bindingFile = some path
  stagesBinding : disk.Stages path
  placed : disk.target ⟨options.modelPath, generated.snapshot.fileText⟩ = .ok place
  refused : (disk.put place (.file (.text generated.snapshot.fileText))).target
    ⟨path, generated.binding.fileText⟩ = .error cause

/-- Such a run ends with the model file in its place. -/
theorem HalfPublished.publish_eq (h : options.HalfPublished disk generated place path cause) :
    options.publish disk generated =
      ⟨disk.put place (.file (.text generated.snapshot.fileText)),
        [options.modelEvent generated], .error (.store (.file path cause))⟩ := by
  have hmodel : options.modelOutput generated =
      some (options.modelPath, generated.snapshot.fileText) :=
    modelOutput_eq_some_iff.mpr ⟨h.written, rfl⟩
  have hbinding : options.bindingOutput generated =
      some (path, generated.binding.fileText) :=
    bindingOutput_eq_some_iff.mpr ⟨path, h.binding, rfl⟩
  -- what the two commits do, each with the texts that are still staged
  have hfirst : ((disk.withStaged [⟨options.modelPath, generated.snapshot.fileText⟩]).withStaged
      [⟨path, generated.binding.fileText⟩]).commitOptional
        (some ⟨options.modelPath, generated.snapshot.fileText⟩) =
      ((disk.put place (.file (.text generated.snapshot.fileText))).withStaged
        [⟨path, generated.binding.fileText⟩], .ok ()) := by
    have h' := disk.commitOptional_withStaged (some ⟨path, generated.binding.fileText⟩)
      ⟨options.modelPath, generated.snapshot.fileText⟩
    rw [h.placed] at h'
    exact h'
  have hsecond : ((disk.put place (.file (.text generated.snapshot.fileText))).withStaged
      [⟨path, generated.binding.fileText⟩]).commitOptional
        (some ⟨path, generated.binding.fileText⟩) =
      (disk.put place (.file (.text generated.snapshot.fileText)), .error (.file path cause)) := by
    have h' := (disk.put place (.file (.text generated.snapshot.fileText))).commitOptional_withStaged
      none ⟨path, generated.binding.fileText⟩
    rw [h.refused] at h'
    exact h'
  have hstages : (disk.withStaged [⟨options.modelPath, generated.snapshot.fileText⟩]).Stages path :=
    (disk.stages_withStaged _ path).mpr h.stagesBinding
  unfold publish
  rw [hmodel, hbinding, Disk.stageOptional_some h.stagesModel]
  dsimp only
  rw [Disk.stageOptional_some hstages]
  dsimp only
  rw [hfirst]
  dsimp only
  rw [hsecond]

/-- Two texts that can be staged, of which the first has a place and the second then has none, are
the texts of such a run. -/
theorem halfPublished_of_targets {f g : Staged}
    (hmodel : some f = (options.modelOutput generated).map fun o => ⟨o.1, o.2⟩)
    (hbinding : some g = (options.bindingOutput generated).map fun o => ⟨o.1, o.2⟩)
    (hstagesModel : ∀ o ∈ options.modelOutput generated, disk.Stages o.1)
    (hstagesBinding : ∀ o ∈ options.bindingOutput generated, disk.Stages o.1)
    (hplaced : disk.target f = .ok place)
    (hrefused : (disk.put place (.file (.text f.text))).target g = .error cause) :
    ∃ path, options.HalfPublished disk generated place path cause := by
  obtain ⟨o, ho, rfl⟩ := Option.map_eq_some_iff.mp hmodel.symm
  obtain ⟨o', ho', rfl⟩ := Option.map_eq_some_iff.mp hbinding.symm
  have hstages := hstagesModel o ho
  have hstages' := hstagesBinding o' ho'
  obtain ⟨hwritten, rfl⟩ := modelOutput_eq_some_iff.mp ho
  obtain ⟨path, hpath, rfl⟩ := bindingOutput_eq_some_iff.mp ho'
  exact ⟨path, hwritten, hstages, hpath, hstages', hplaced, hrefused⟩

/-- A run that fails while it writes is such a run, or it leaves the disk as it was. -/
theorem publish_of_error {e : RunError} (h : (options.publish disk generated).result = .error e) :
    (options.publish disk generated).disk = disk ∨
      ∃ place path cause, options.HalfPublished disk generated place path cause := by
  unfold publish at h ⊢
  cases hmodel : disk.stageOptional (options.modelOutput generated) with
  | error e' => exact .inl rfl
  | ok out =>
    obtain ⟨disk₁, model⟩ := out
    obtain ⟨hstages, hmodelFile, rfl⟩ := Disk.stageOptional_eq_ok hmodel
    rw [hmodel] at h
    dsimp only at h ⊢
    cases hbinding : (disk.withStaged model.toList).stageOptional
        (options.bindingOutput generated) with
    | error e' => exact .inl (disk.discardOptional_withStaged model)
    | ok out =>
      obtain ⟨disk₂, binding⟩ := out
      obtain ⟨hstages', hbindingFile, hdisk₂⟩ := Disk.stageOptional_eq_ok hbinding
      have hboth : disk₂ = disk.withStaged (binding.toList ++ model.toList) := by
        rw [hdisk₂, Disk.withStaged_withStaged]
      rw [hbinding] at h
      dsimp only at h ⊢
      -- both texts are staged: now one commit after the other
      cases hfirst : disk₂.commitOptional model with
      | mk disk₃ result =>
        rw [hfirst] at h
        rw [hboth] at hfirst
        cases result with
        | error e' =>
          obtain ⟨-, -, -, -, -, rfl⟩ := Disk.commitOptional_eq_error hfirst
          exact .inl (disk.discardOptional_withStaged binding)
        | ok =>
          dsimp only at h ⊢
          cases hsecond : disk₃.commitOptional binding with
          | mk disk₄ result =>
            rw [hsecond] at h
            cases result with
            | ok => cases h
            | error e' =>
              dsimp only at h ⊢
              rcases Disk.commitOptional_eq_ok hfirst with
                ⟨-, rfl⟩ | ⟨f, place, rfl, hplaced, rfl⟩
              · -- there was no model file to write
                obtain ⟨-, -, -, -, rfl⟩ := Disk.commitOptional_last_eq_error hsecond
                exact .inl rfl
              · right
                obtain ⟨g, cause, rfl, hrefused, -⟩ := Disk.commitOptional_last_eq_error hsecond
                obtain ⟨path, hhalf⟩ := halfPublished_of_targets hmodelFile hbindingFile hstages
                  (fun o ho => (disk.stages_withStaged _ _).mp (hstages' o ho)) hplaced hrefused
                exact ⟨place, path, cause, hhalf⟩

/-! ## Runs that fail -/

theorem run_of_refused {e : RunError} (h : (options.prepare disk).result = .error e) :
    options.run disk = ⟨disk, (options.prepare disk).events, .error e⟩ := by
  unfold run
  dsimp only
  rw [h]

theorem run_of_prepared (h : (options.prepare disk).result = .ok generated) :
    options.run disk =
      ⟨(options.publish disk generated).disk,
        (options.prepare disk).events ++ (options.publish disk generated).events,
        (options.publish disk generated).result⟩ := by
  unfold run
  dsimp only
  rw [h]

/-- What is on the disk after a run that fails. Either nothing was changed, or the run was refused
the place of its binding file after it had put the model file in its own: then that place holds the
new model file, every other place holds what it held, and no text is left staged. -/
theorem run_of_error {e : RunError} (h : (options.run disk).result = .error e) :
    ((options.run disk).disk = disk ∧
      ∀ generated place path cause, (options.prepare disk).result = .ok generated →
        ¬options.HalfPublished disk generated place path cause) ∨
    ∃ generated place path cause, (options.prepare disk).result = .ok generated ∧
      options.HalfPublished disk generated place path cause ∧
      e = .store (.file path cause) ∧ (options.run disk).disk.staged = disk.staged ∧
      ∀ other, Disk.entry? (options.run disk).disk other =
        if other = place then some (.file (.text generated.snapshot.fileText))
        else disk.entry? other := by
  cases hprepared : (options.prepare disk).result with
  | error cause =>
      -- the input was refused before the disk was touched
      left
      rw [run_of_refused hprepared]
      refine ⟨rfl, fun generated place path cause hp => ?_⟩
      cases hp
  | ok generated =>
      rw [run_of_prepared hprepared] at h ⊢
      by_cases hhalf : ∃ place path cause, options.HalfPublished disk generated place path cause
      · obtain ⟨place, path, cause, hhalf⟩ := hhalf
        right
        rw [hhalf.publish_eq] at h ⊢
        cases h
        refine ⟨generated, place, path, cause, rfl, hhalf, rfl, rfl, ?_⟩
        exact disk.entry?_put (Disk.ne_root_of_target hhalf.placed) _
      · left
        constructor
        · rcases publish_of_error h with hsame | hhalf'
          · exact hsame
          · exact absurd hhalf' hhalf
        · intro generated' place path cause hp hhalf'
          cases hp
          exact hhalf ⟨place, path, cause, hhalf'⟩

end Options

/-! ## A run that persists half of what it should -/

/-- A source with one entity, and a directory beside it. -/
def occupiedDisk : Disk where
  workingDirectory := []
  entries :=
    [(["m.rs"], .file (.text "struct User \x7b #[flatschema(tag = \"id\")] id: i64 \x7d")),
      (["out"], .directory)]
  staged := []
  refusals := []

/-- A run on that source whose binding goes to the given file. -/
def userOptions (bindingFile : Path) : Options :=
  ⟨⟨"m.rs"⟩, none, none, .hashed, some bindingFile⟩

/-- That the directory of the binding file is missing is found out while nothing is written yet;
that a directory is in the place of the binding file, when the model file is already there. -/
theorem run_of_error_occupied :
    (((userOptions ⟨"gone/out.json"⟩).run occupiedDisk).result =
        .error (.store (.file ⟨"gone"⟩ .notFound)) ∧
      ((userOptions ⟨"gone/out.json"⟩).run occupiedDisk).disk = occupiedDisk) ∧
    ((userOptions ⟨"out"⟩).run occupiedDisk).result =
        .error (.store (.file ⟨"out"⟩ .isDirectory)) ∧
      ((userOptions ⟨"out"⟩).run occupiedDisk).disk.staged = [] ∧
      ∃ place text, occupiedDisk.entry? place = none ∧
        ∀ other, Disk.entry? ((userOptions ⟨"out"⟩).run occupiedDisk).disk other =
          if other = place then some (.file (.text text)) else occupiedDisk.entry? other := by
  have hmissing : ((userOptions ⟨"gone/out.json"⟩).run occupiedDisk).result =
      .error (.store (.file ⟨"gone"⟩ .notFound)) := by decide +kernel
  have hoccupied : ((userOptions ⟨"out"⟩).run occupiedDisk).result =
        .error (.store (.file ⟨"out"⟩ .isDirectory)) ∧
      Disk.entry? ((userOptions ⟨"out"⟩).run occupiedDisk).disk ["flatschema-model.json"] ≠ none := by
    decide +kernel
  obtain ⟨hoccupied, hchanged⟩ := hoccupied
  have habsent : occupiedDisk.entry? ["flatschema-model.json"] = none := by decide +kernel
  refine ⟨⟨hmissing, ?_⟩, hoccupied, ?_⟩
  · rcases Options.run_of_error hmissing with ⟨hsame, -⟩ | ⟨_, _, path, _, -, hhalf, he, -⟩
    · exact hsame
    · -- the error names the directory of the binding file, not the file
      cases hhalf.binding
      simp at he
  · rcases Options.run_of_error hoccupied with
      ⟨hsame, -⟩ | ⟨generated, place, _, _, -, -, -, hstaged, hentries⟩
    · rw [hsame] at hchanged
      exact absurd habsent hchanged
    · have hplace : ["flatschema-model.json"] = place := by
        by_contra hne
        rw [hentries, if_neg hne] at hchanged
        exact hchanged habsent
      exact ⟨hstaged, place, generated.snapshot.fileText, hplace ▸ habsent, hentries⟩

/-- The run fails, and there is a model file that was not there before. -/
theorem run_half_published :
    ((userOptions ⟨"out"⟩).run occupiedDisk).result =
        .error (.store (.file ⟨"out"⟩ .isDirectory)) ∧
      occupiedDisk.entry? ["flatschema-model.json"] = none ∧
      Disk.entry? ((userOptions ⟨"out"⟩).run occupiedDisk).disk ["flatschema-model.json"] ≠ none := by
  decide +kernel

end RecordSchema
