/-
What a run that succeeds leaves on the disk.

The model file is put in its place first, or is left as it was because it holds the merged snapshot
already; the binding file follows. So the binding file always holds the binding. The model file
holds the snapshot unless the binding went to the very same place: then the run still reports
success, and what it recorded is lost under the binding, which is no snapshot.
-/
import RecordSchema.Proofs.File.Reading
import RecordSchema.Proofs.Publication
import RecordSchema.Proofs.Snapshot.Format

set_option autoImplicit false

namespace RecordSchema

/-! ## A binding is no snapshot -/

theorem BindingProperty.integral_json (p : BindingProperty) : p.json.Integral := by
  refine ⟨trivial, trivial, trivial, trivial, trivial, trivial, trivial, trivial, ?_, trivial,
    trivial, trivial⟩
  exact Json.allIntegral_map Json.integral_text _

theorem BindingEntity.integral_json (e : BindingEntity) : e.json.Integral := by
  refine ⟨trivial, trivial, trivial, trivial, trivial, trivial, ?_, trivial⟩
  exact Json.allIntegral_map BindingProperty.integral_json _

theorem Binding.integral_json (b : Binding) : b.json.Integral := by
  simp only [json, Json.Integral, Json.fieldsIntegral_append]
  refine ⟨⟨⟨trivial, trivial⟩, ?_⟩, ?_⟩
  · cases b.source <;> trivial
  · exact ⟨Json.allIntegral_map BindingEntity.integral_json _, trivial⟩

/-- A snapshot has no name space, and that is what a binding begins with. -/
theorem Snapshot.ofFileText_binding (b : Binding) :
    ofFileText b.fileText = .error (.format .mismatch) := by
  have htext : Json.readText b.fileText = ⟨some b.json, some ['\n']⟩ :=
    Json.readText_pretty b.integral_json Json.blank_lineEnd
  have hvalue : ofJson b.json = .error .mismatch := rfl
  rw [ofFileText, read, htext]
  simp only [Option.elim_some, hvalue]
  rfl

/-- The text of a consistent snapshot is accepted as the snapshot. -/
theorem Snapshot.ofFileText_fileText {s : Snapshot} (h : s.validate = .ok ()) :
    ofFileText s.fileText = .ok s := by
  rw [ofFileText, bind_eq_ok_iff]
  refine ⟨s, mapError_eq_ok_iff.mpr (read_fileText s), bind_eq_ok_iff.mpr ⟨(), ?_, rfl⟩⟩
  exact mapError_eq_ok_iff.mpr h

/-! ## What is loaded -/

namespace Snapshot

variable {disk : Disk} {path : Path} {text : String}

theorem load_of_ok {s : Snapshot} (hread : disk.readText path = .ok text)
    (htext : ofFileText text = .ok s) : (load disk path).result = .ok s := by
  rw [load, hread]
  simp only [htext]

theorem load_of_error {e : ContentError} (hread : disk.readText path = .ok text)
    (htext : ofFileText text = .error e) : (load disk path).result = .error (.content path e) := by
  rw [load, hread]
  simp only [htext]

/-- A snapshot that is loaded where there is something comes from a text. -/
theorem exists_text_of_load {s : Snapshot} (hload : (load disk path).result = .ok s)
    (hpresent : disk.contains path = true) :
    ∃ text, disk.readText path = .ok text ∧ ofFileText text = .ok s := by
  unfold load at hload
  split at hload
  · -- what is missing is not there
    rename_i habsent
    obtain ⟨⟨place, entry⟩, hfind⟩ := exists_eq_ok hpresent
    rw [Disk.readText, hfind] at habsent
    rcases entry with (text | data) | _ <;> cases habsent
  · cases hload
  · rename_i text hread
    split at hload
    · cases hload
    · rename_i snapshot htext
      cases hload
      exact ⟨text, hread, htext⟩

end Snapshot

/-! ## What is written -/

namespace Disk

/-- What is on a disk after an optional text was put in its place. -/
def Wrote (disk : Disk) (output : Option (Path × String)) (after : Disk) : Prop :=
  match output with
  | none => after = disk
  | some (path, text) =>
    ∃ place, disk.target ⟨path, text⟩ = .ok place ∧ after = disk.put place (.file (.text text))

/-- A commit that succeeds has written its text, with the text staged last or before one other. -/
theorem wrote_of_commitOptional {disk after : Disk} (other : Option Staged)
    {output : Option (Path × String)} {file : Option Staged}
    (hfile : file = output.map fun o => ⟨o.1, o.2⟩)
    (h : (disk.withStaged (other.toList ++ file.toList)).commitOptional file = (after, .ok ())) :
    ∃ between, disk.Wrote output between ∧ after = between.withStaged other.toList := by
  rcases commitOptional_eq_ok h with ⟨rfl, rfl⟩ | ⟨f, place, rfl, htarget, rfl⟩
  · rw [eq_comm, Option.map_eq_none_iff] at hfile
    subst hfile
    exact ⟨disk, rfl, rfl⟩
  · obtain ⟨o, rfl, rfl⟩ := Option.map_eq_some_iff.mp hfile.symm
    exact ⟨_, ⟨place, htarget, rfl⟩, rfl⟩

variable {disk after : Disk} {output : Option (Path × String)} {path : Path} {text : String}

/-- A text that was written is read. -/
theorem Wrote.readText (h : disk.Wrote (some (path, text)) after) :
    after.readText path = .ok text := by
  obtain ⟨place, htarget, rfl⟩ := h
  have hread := readText_put_target htarget
  exact hread

/-- Writing leaves two paths at one place, or at two. -/
theorem Wrote.samePlace_iff (h : disk.Wrote output after) (p q : Path) :
    after.SamePlace p q ↔ disk.SamePlace p q := by
  cases output with
  | none =>
      cases h
      exact Iff.rfl
  | some o =>
      obtain ⟨place, htarget, rfl⟩ := h
      obtain ⟨location, -, -, -, hplace, -, rfl⟩ := target_eq_ok_iff.mp htarget
      exact samePlace_put_file (ne_root_of_target htarget) hplace p q

end Disk

namespace Options

variable {options : Options} {disk : Disk} {generated : Generated}

/-- A run that comes out has written the model file, if it was to be written, and then the binding
file, if one was asked for. -/
theorem publish_of_ok {g : Generated} (h : (options.publish disk generated).result = .ok g) :
    g = generated ∧ ∃ between, disk.Wrote (options.modelOutput generated) between ∧
      between.Wrote (options.bindingOutput generated) (options.publish disk generated).disk := by
  unfold publish at h ⊢
  cases hmodel : disk.stageOptional (options.modelOutput generated) with
  | error e =>
      rw [hmodel] at h
      cases h
  | ok out =>
    obtain ⟨disk₁, model⟩ := out
    obtain ⟨-, hmodelFile, rfl⟩ := Disk.stageOptional_eq_ok hmodel
    rw [hmodel] at h
    dsimp only at h ⊢
    cases hbinding : (disk.withStaged model.toList).stageOptional
        (options.bindingOutput generated) with
    | error e =>
        rw [hbinding] at h
        cases h
    | ok out =>
      obtain ⟨disk₂, binding⟩ := out
      obtain ⟨-, hbindingFile, hdisk₂⟩ := Disk.stageOptional_eq_ok hbinding
      rw [Disk.withStaged_withStaged] at hdisk₂
      rw [hbinding] at h
      dsimp only at h ⊢
      -- both texts are staged: now one commit after the other
      cases hfirst : disk₂.commitOptional model with
      | mk disk₃ result =>
        rw [hfirst] at h
        cases result with
        | error e => cases h
        | ok =>
          rw [hdisk₂] at hfirst
          obtain ⟨between, hwrote, rfl⟩ := Disk.wrote_of_commitOptional binding hmodelFile hfirst
          dsimp only at h ⊢
          cases hsecond : (between.withStaged binding.toList).commitOptional binding with
          | mk disk₄ result =>
            rw [hsecond] at h
            cases result with
            | error e => cases h
            | ok =>
              cases h
              obtain ⟨after, hwrote', rfl⟩ :=
                Disk.wrote_of_commitOptional none hbindingFile hsecond
              exact ⟨rfl, between, hwrote, hwrote'⟩

/-! ## Runs that succeed -/

/-- What a run goes by when it decides to write the model file. -/
theorem exists_previous_of_prepare (h : (options.prepare disk).result = .ok generated) :
    ∃ previous, (Snapshot.load disk options.modelPath).result = .ok previous ∧
      generated.written =
        (generated.snapshot != previous || !disk.contains options.modelPath) := by
  unfold prepare at h
  dsimp only [Preparation.after] at h
  split at h
  · cases h
  dsimp only at h
  split at h
  · cases h
  dsimp only at h
  split at h
  · cases h
  rename_i previous hload
  refine ⟨previous, hload, ?_⟩
  unfold derive at h
  dsimp only at h
  split at h
  · cases h
  cases h
  rfl

/-- Once the model file was written or left alone, it holds the merged snapshot. -/
theorem exists_text_of_wrote_model {between : Disk}
    (hprepared : (options.prepare disk).result = .ok generated)
    (hvalid : generated.snapshot.validate = .ok ())
    (hwrote : disk.Wrote (options.modelOutput generated) between) :
    ∃ text, between.readText options.modelPath = .ok text ∧
      Snapshot.ofFileText text = .ok generated.snapshot := by
  obtain ⟨previous, hload, hwritten⟩ := exists_previous_of_prepare hprepared
  cases hw : generated.written with
  | true =>
      rw [modelOutput, if_pos hw] at hwrote
      exact ⟨_, hwrote.readText, Snapshot.ofFileText_fileText hvalid⟩
  | false =>
      rw [modelOutput, hw, if_neg Bool.false_ne_true] at hwrote
      cases hwrote
      rw [hw, eq_comm, Bool.or_eq_false_iff, bne_eq_false_iff_eq, Bool.not_eq_false'] at hwritten
      rw [hwritten.1]
      exact Snapshot.exists_text_of_load hload hwritten.2

/-- A run that succeeds is prepared, and writes its files one after the other. -/
theorem exists_wrote_of_run (hrun : (options.run disk).result = .ok generated) :
    (options.prepare disk).result = .ok generated ∧
      ∃ between, disk.Wrote (options.modelOutput generated) between ∧
        between.Wrote (options.bindingOutput generated) (options.run disk).disk := by
  cases hprepared : (options.prepare disk).result with
  | error e =>
      rw [run_of_refused hprepared] at hrun
      cases hrun
  | ok g =>
      rw [run_of_prepared hprepared] at hrun ⊢
      obtain ⟨rfl, hwrote⟩ := publish_of_ok hrun
      exact ⟨rfl, hwrote⟩

/-- The binding is the last to be written, so nothing is written over it. -/
theorem readText_run_of_binding (hrun : (options.run disk).result = .ok generated) {path : Path}
    (hpath : options.bindingFile = some path) :
    (options.run disk).disk.readText path = .ok generated.binding.fileText := by
  obtain ⟨-, between, -, hbinding⟩ := exists_wrote_of_run hrun
  rw [bindingOutput, hpath] at hbinding
  exact hbinding.readText

/-- The snapshot is loaded from the model file unless the binding went there. -/
theorem load_run_of_apart (hrun : (options.run disk).result = .ok generated)
    (hvalid : generated.snapshot.validate = .ok ())
    (hapart : ∀ path ∈ options.bindingFile, ¬disk.SamePlace path options.modelPath) :
    (Snapshot.load (options.run disk).disk options.modelPath).result = .ok generated.snapshot := by
  obtain ⟨hprepared, between, hmodel, hbinding⟩ := exists_wrote_of_run hrun
  obtain ⟨text, hread, htext⟩ := exists_text_of_wrote_model hprepared hvalid hmodel
  rw [bindingOutput] at hbinding
  cases hpath : options.bindingFile with
  | none =>
      rw [hpath] at hbinding
      cases hbinding
      exact Snapshot.load_of_ok hread htext
  | some path =>
      rw [hpath, Option.map_some] at hbinding
      have hdiffer : ¬between.SamePlace path options.modelPath := fun h =>
        hapart path hpath ((hmodel.samePlace_iff _ _).mp h)
      obtain ⟨place, htarget, hafter⟩ := hbinding
      have hkept := (Disk.readText_put_other htarget hread).2 hdiffer
      rw [hafter]
      exact Snapshot.load_of_ok hkept htext

/-- What the model file holds after the binding went there is no snapshot. -/
theorem load_run_of_samePlace (hrun : (options.run disk).result = .ok generated)
    (hvalid : generated.snapshot.validate = .ok ()) {path : Path}
    (hpath : options.bindingFile = some path) (hsame : disk.SamePlace path options.modelPath) :
    (Snapshot.load (options.run disk).disk options.modelPath).result =
      .error (.content options.modelPath (.format .mismatch)) := by
  obtain ⟨hprepared, between, hmodel, hbinding⟩ := exists_wrote_of_run hrun
  obtain ⟨text, hread, -⟩ := exists_text_of_wrote_model hprepared hvalid hmodel
  rw [bindingOutput, hpath, Option.map_some] at hbinding
  obtain ⟨place, htarget, hafter⟩ := hbinding
  have hlost := (Disk.readText_put_other htarget hread).1 ((hmodel.samePlace_iff _ _).mpr hsame)
  rw [hafter]
  exact Snapshot.load_of_error hlost (Snapshot.ofFileText_binding _)

/-- What is on the disk after a run that succeeds with a consistent snapshot. The binding file, if
one was asked for, holds the binding. The model file, written or not, holds the snapshot as long as
the binding file is at another place; at the same place it holds the binding and is refused. -/
theorem run_published (hrun : (options.run disk).result = .ok generated)
    (hvalid : generated.snapshot.validate = .ok ()) :
    (∀ path ∈ options.bindingFile,
      (options.run disk).disk.readText path = .ok generated.binding.fileText) ∧
    ((∀ path ∈ options.bindingFile, ¬disk.SamePlace path options.modelPath) →
      (Snapshot.load (options.run disk).disk options.modelPath).result =
        .ok generated.snapshot) ∧
    ((∃ path ∈ options.bindingFile, disk.SamePlace path options.modelPath) →
      (Snapshot.load (options.run disk).disk options.modelPath).result =
        .error (.content options.modelPath (.format .mismatch))) := by
  refine ⟨fun path hpath => ?_, load_run_of_apart hrun hvalid, ?_⟩
  · exact readText_run_of_binding hrun hpath
  · rintro ⟨path, hpath, hsame⟩
    exact load_run_of_samePlace hrun hvalid hpath hsame

end Options

/-- With the binding in a file of its own, both are there: the binding, and a model file that is
loaded as the snapshot. -/
theorem run_published_apart :
    ∃ generated, ((userOptions ⟨"out.json"⟩).run occupiedDisk).result = .ok generated ∧
      generated.snapshot.validate = .ok () ∧
      ((userOptions ⟨"out.json"⟩).run occupiedDisk).disk.readText ⟨"out.json"⟩ =
        .ok generated.binding.fileText ∧
      (Snapshot.load ((userOptions ⟨"out.json"⟩).run occupiedDisk).disk
        (userOptions ⟨"out.json"⟩).modelPath).result = .ok generated.snapshot := by
  have hok : (((userOptions ⟨"out.json"⟩).run occupiedDisk).result.map fun generated =>
      generated.snapshot.validate) = .ok (.ok ()) := by decide +kernel
  have hapart : ¬occupiedDisk.SamePlace ⟨"out.json"⟩ (userOptions ⟨"out.json"⟩).modelPath := by
    decide +kernel
  obtain ⟨generated, hrun, hvalid⟩ := map_eq_ok_iff.mp hok
  obtain ⟨hbinding, hmodel, -⟩ := Options.run_published hrun hvalid
  refine ⟨generated, hrun, hvalid, hbinding _ rfl, hmodel ?_⟩
  intro path hpath
  cases hpath
  exact hapart

/-- With the binding in the place of the model file, the run succeeds with a consistent snapshot
that is nowhere on the disk. -/
theorem run_overwritten :
    ∃ generated, ((userOptions ⟨"flatschema-model.json"⟩).run occupiedDisk).result =
        .ok generated ∧
      generated.snapshot.validate = .ok () ∧
      (Snapshot.load ((userOptions ⟨"flatschema-model.json"⟩).run occupiedDisk).disk
        (userOptions ⟨"flatschema-model.json"⟩).modelPath).result ≠ .ok generated.snapshot := by
  have hok : (((userOptions ⟨"flatschema-model.json"⟩).run occupiedDisk).result.map fun generated =>
      generated.snapshot.validate) = .ok (.ok ()) := by decide +kernel
  have hsame : occupiedDisk.SamePlace ⟨"flatschema-model.json"⟩
      (userOptions ⟨"flatschema-model.json"⟩).modelPath := by decide +kernel
  obtain ⟨generated, hrun, hvalid⟩ := map_eq_ok_iff.mp hok
  refine ⟨generated, hrun, hvalid, ?_⟩
  rw [Options.load_run_of_samePlace hrun hvalid rfl hsame]
  intro h
  cases h

end RecordSchema
