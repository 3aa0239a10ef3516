/-
What a field is stored as, and why one is not.

A field is stored under its capabilities by a property that can be described without the steps that
compute it (`PropertyShape.Stores`), and each way in which a field fails can be named beside it
(`Field.Fails`). All that the fields in front have to do with it are their properties: whether its
storage name is taken, and whether there is an identifier. `Field.trichotomy` says that there is no
further case, and `resolve` computes what is said of each.
-/
import RecordSchema.Proofs.Column
import RecordSchema.Proofs.Entity.Outline
import RecordSchema.Proofs.Pairing

set_option autoImplicit false

namespace RecordSchema

open Tag

/-! ## Flags -/

def PropertyFlag.all : List PropertyFlag :=
  [.id, .indexed, .indexValue, .indexHash, .indexHash64, .unique]

/-- The capability that a flag stands for. -/
def PropertyFlag.impliedBy (caps : Capabilities) : PropertyFlag → Bool
  | .id => caps.isId
  | .indexed => caps.index?.isSome
  | .indexValue => caps.index? = some .value
  | .indexHash => caps.index? = some .hash
  | .indexHash64 => caps.index? = some .hash64
  | .unique => caps.isUnique

/-- The flags of capabilities are those that they imply, in the order of all flags. -/
theorem PropertyFlag.ofCapabilities_eq (caps : Capabilities) :
    ofCapabilities caps = all.filter (impliedBy caps) := by
  unfold ofCapabilities all impliedBy
  rcases caps.index? with _ | _ | _ | _ | _ <;> cases caps.isId <;> cases caps.isUnique <;> rfl

/-- A property carries the identifier flag exactly if it has the capability. -/
theorem PropertyShape.isId_eq (p : PropertyShape) : p.isId = p.capabilities.isId := by
  have hmem : PropertyFlag.id ∈ p.flags ↔ p.capabilities.isId = true := by
    rw [flags, PropertyFlag.ofCapabilities_eq, List.mem_filter]
    exact and_iff_right (by decide)
  rw [isId, Bool.eq_iff_iff, List.contains_iff_mem, hmem]

/-! ## One field -/

/-- The property that stores a field. -/
structure PropertyShape.Stores (p : PropertyShape) (field : Field) : Prop where
  tag : Capabilities.parse field.tag = .ok p.capabilities
  stored : p.capabilities.isTransient = false
  name : p.name = field.name
  typeName : p.typeName = field.typeName
  mapping : ∃ base, (field.typeName, base) ∈ typeTable ∧ base.Fits p.capabilities ∧
    p.mapping = base.under p.capabilities
  named : p.capabilities.nameInDb? ≠ some ""
  storageName : p.storageName = p.capabilities.nameInDb?.getD field.name
  flags : p.flags = PropertyFlag.all.filter (PropertyFlag.impliedBy p.capabilities)

/-- A property that may follow others: its storage name is not theirs, and it is the only identifier
if it is one. -/
structure PropertyShape.MayFollow (p : PropertyShape) (earlier : List PropertyShape) : Prop where
  storageName : p.storageName ∉ earlier.map (·.storageName)
  identifier : p.capabilities.isId = true → ∀ q ∈ earlier, q.capabilities.isId = false

/-- How a field fails behind the properties of those in front of it, and what is said about it. -/
inductive Field.Fails (entity : String) (earlier : List PropertyShape) (field : Field) :
    SchemaError → Prop where
  | tag {cause : TagError} (h : Capabilities.parse field.tag = .error cause) :
      Fails entity earlier field (.property entity field.name (.tag cause))
  | type {caps : Capabilities} {cause : TypeError} (hcaps : Capabilities.parse field.tag = .ok caps)
      (hstored : caps.isTransient = false) (h : TypeFault field.typeName caps cause) :
      Fails entity earlier field (.property entity field.name (.type cause))
  | emptyName {caps : Capabilities} {base : TypeMapping}
      (hcaps : Capabilities.parse field.tag = .ok caps) (hstored : caps.isTransient = false)
      (hbase : (field.typeName, base) ∈ typeTable) (hfits : base.Fits caps)
      (h : caps.nameInDb? = some "") :
      Fails entity earlier field (.entity (.emptyStorageName entity field.name))
  | clash {p other : PropertyShape} (hp : p.Stores field) (hother : other ∈ earlier)
      (h : other.storageName = p.storageName) :
      Fails entity earlier field
        (.entity (.duplicateStorageName entity p.storageName other.name field.name))
  | secondId {p first : PropertyShape} (hp : p.Stores field)
      (hname : p.storageName ∉ earlier.map (·.storageName)) (hid : p.capabilities.isId = true)
      (hfirst : first ∈ earlier) (h : first.capabilities.isId = true) :
      Fails entity earlier field (.entity (.duplicateId entity first.name field.name))

namespace Field

/-- A field is transient if its tag says so. -/
theorem isTransient_iff {field : Field} : field.isTransient = true ↔
    ∃ caps, Capabilities.parse field.tag = .ok caps ∧ caps.isTransient = true := by
  unfold isTransient
  cases Capabilities.parse field.tag <;> simp

/-- The tag of a transient field is read. -/
theorem exists_parse_of_isTransient {field : Field} (h : field.isTransient = true) :
    ∃ caps, Capabilities.parse field.tag = .ok caps := by
  obtain ⟨caps, hcaps, -⟩ := isTransient_iff.mp h
  exact ⟨caps, hcaps⟩

/-- A field whose tag is read is transient if the capabilities say so. -/
theorem isTransient_eq {field : Field} {caps : Capabilities}
    (h : Capabilities.parse field.tag = .ok caps) : field.isTransient = caps.isTransient := by
  unfold isTransient
  rw [h]

section Resolve

variable {entity : String} {field : Field} {earlier : List PropertyShape}

/-- A field whose capabilities fit its type is stored by what they make of it. -/
theorem stores_of_fits {caps : Capabilities} {base : TypeMapping}
    (hcaps : Capabilities.parse field.tag = .ok caps) (hstored : caps.isTransient = false)
    (hbase : (field.typeName, base) ∈ typeTable) (hfits : base.Fits caps)
    (hnamed : caps.nameInDb? ≠ some "") :
    PropertyShape.Stores
      ⟨field.name, caps.nameInDb?.getD field.name, field.typeName, caps, base.under caps⟩ field where
  tag := hcaps
  stored := hstored
  name := rfl
  typeName := rfl
  mapping := ⟨base, hbase, hfits, rfl⟩
  named := hnamed
  storageName := rfl
  flags := PropertyFlag.ofCapabilities_eq caps

/-- A field is transient, or is stored by a property that may stand behind the earlier ones, or
fails. -/
theorem trichotomy (entity : String) (field : Field) (earlier : List PropertyShape) :
    field.isTransient = true ∨ (∃ p : PropertyShape, p.Stores field ∧ p.MayFollow earlier) ∨
      ∃ error, field.Fails entity earlier error := by
  cases hcaps : Capabilities.parse field.tag with
  | error cause => exact Or.inr (Or.inr ⟨_, .tag hcaps⟩)
  | ok caps =>
  by_cases htransient : caps.isTransient = true
  · exact Or.inl (isTransient_iff.mpr ⟨caps, hcaps, htransient⟩)
  have hstored : caps.isTransient = false := by simpa using htransient
  right
  rcases exists_fits_or_fault field.typeName caps with ⟨base, hbase, hfits⟩ | ⟨cause, hfault⟩
  swap
  · exact Or.inr ⟨_, .type hcaps hstored hfault⟩
  by_cases hempty : caps.nameInDb? = some ""
  · exact Or.inr ⟨_, .emptyName hcaps hstored hbase hfits hempty⟩
  have hp := stores_of_fits hcaps hstored hbase hfits hempty
  by_cases hname : caps.nameInDb?.getD field.name ∈ earlier.map (·.storageName)
  · obtain ⟨other, hother, heq⟩ := List.mem_map.mp hname
    exact Or.inr ⟨_, .clash hp hother heq⟩
  by_cases hfirst : caps.isId = true ∧ ∃ q ∈ earlier, q.capabilities.isId = true
  · obtain ⟨hid, first, hfirst, hfirstId⟩ := hfirst
    exact Or.inr ⟨_, .secondId hp hname hid hfirst hfirstId⟩
  · refine Or.inl ⟨_, hp, hname, fun hid q hq => ?_⟩
    rw [Bool.eq_false_iff]
    exact fun h => hfirst ⟨hid, q, hq, h⟩

/-- A transient field becomes nothing. -/
theorem resolve_of_isTransient (h : field.isTransient = true) :
    field.resolve entity earlier = .ok none := by
  obtain ⟨caps, hcaps, htransient⟩ := isTransient_iff.mp h
  unfold resolve
  rw [hcaps]
  exact if_pos htransient

/-- What is left to check of a field once its property is known. -/
theorem resolve_of_stores {p : PropertyShape} (h : p.Stores field) :
    field.resolve entity earlier =
      match earlier.find? (·.storageName = p.storageName) with
      | some other =>
        .error (.entity (.duplicateStorageName entity p.storageName other.name field.name))
      | none =>
        match if p.capabilities.isId then earlier.find? (·.capabilities.isId) else none with
        | some first => .error (.entity (.duplicateId entity first.name field.name))
        | none => .ok (some p) := by
  obtain ⟨base, hbase, hfits, hmapping⟩ := h.mapping
  have hname : field.storageName entity p.capabilities = .ok p.storageName := by
    rw [storageName, h.storageName]
    cases hoverride : p.capabilities.nameInDb? with
    | none => rfl
    | some name =>
        have hne : name ≠ "" := by
          rintro rfl
          exact h.named hoverride
        exact if_neg hne
  have hproperty : (⟨field.name, p.storageName, field.typeName, p.capabilities, p.mapping⟩ :
      PropertyShape) = p := by
    rw [← h.name, ← h.typeName]
  unfold resolve
  simp only [h.tag, resolveType_of_fits hbase hfits, ← hmapping, hname, PropertyShape.isId_eq,
    h.stored, bind, Except.bind, Except.mapError, Bool.false_eq_true, if_false]
  cases earlier.find? (·.storageName = p.storageName) with
  | some other => rfl
  | none =>
      cases p.capabilities.isId with
      | false => simp [pure, Except.pure, hproperty]
      | true =>
          cases earlier.find? (·.capabilities.isId) with
          | some first => rfl
          | none => simp [pure, Except.pure, hproperty]

/-- A field whose property may follow the earlier ones becomes that property. -/
theorem resolve_of_mayFollow {p : PropertyShape} (h : p.Stores field) (hp : p.MayFollow earlier) :
    field.resolve entity earlier = .ok (some p) := by
  have hname := (find?_key_eq_none_iff (·.storageName) earlier).mpr hp.storageName
  have hid : (if p.capabilities.isId then earlier.find? (·.capabilities.isId) else none) = none := by
    split
    · rw [List.find?_eq_none]
      intro q hq
      simp [hp.identifier ‹_› q hq]
    · rfl
  rw [resolve_of_stores h, hname, hid]

/-- A field that fails is refused for it, if the earlier properties have different storage names and
at most one identifier. -/
theorem resolve_of_fails {error : SchemaError} (hnames : (earlier.map (·.storageName)).Nodup)
    (hids : earlier.countP (·.capabilities.isId) ≤ 1) (h : field.Fails entity earlier error) :
    field.resolve entity earlier = .error error := by
  cases h with
  | tag h =>
      unfold resolve
      rw [h]
      rfl
  | type hcaps hstored h =>
      unfold resolve
      simp only [hcaps, resolveType_of_fault h, hstored, bind, Except.bind, Except.mapError,
        Bool.false_eq_true, if_false]
  | emptyName hcaps hstored hbase hfits h =>
      unfold resolve storageName
      simp only [hcaps, resolveType_of_fits hbase hfits, h, hstored, bind, Except.bind,
        Except.mapError, Bool.false_eq_true, if_false, if_true]
  | clash hp hother h =>
      rw [resolve_of_stores hp, (find?_key_eq_some_iff hnames).mpr ⟨hother, h⟩]
  | secondId hp hname hid hfirst h =>
      rw [resolve_of_stores hp, (find?_key_eq_none_iff (·.storageName) earlier).mpr hname,
        if_pos hid, find?_eq_some_of_countP_le_one hids hfirst h]

end Resolve

end Field

/-! ## Reading the fields instead of the properties -/

/-- What the tag of a field says, or nothing where it cannot be read. -/
def Field.capabilities (field : Field) : Capabilities :=
  match Capabilities.parse field.tag with
  | .ok caps => caps
  | .error _ => .empty

/-- The name under which a field is stored. -/
def Field.storedAs (field : Field) : String := field.capabilities.nameInDb?.getD field.name

namespace PropertyShape

variable {p : PropertyShape} {field : Field}

theorem Stores.capabilities_eq (h : p.Stores field) : field.capabilities = p.capabilities := by
  rw [Field.capabilities, h.tag]

theorem Stores.storedAs_eq (h : p.Stores field) : field.storedAs = p.storageName := by
  rw [Field.storedAs, h.capabilities_eq, h.storageName]

/-- The identifier is stored as a long. -/
theorem Stores.storage_of_isId (h : p.Stores field) (hid : p.capabilities.isId = true) :
    p.mapping.storage = .long := by
  obtain ⟨base, -, hfits, hmapping⟩ := h.mapping
  obtain ⟨hlong, hdate⟩ := hfits.id hid
  rw [hmapping, TypeMapping.under, hdate]
  exact hlong

end PropertyShape

section Stores

variable {fields : List Field} {ps : List PropertyShape}

theorem map_storageName_of_stores (h : List.Forall₂ PropertyShape.Stores ps fields) :
    ps.map (·.storageName) = fields.map Field.storedAs :=
  map_eq_of_forall₂ h fun _ _ hp => hp.storedAs_eq.symm

theorem countP_isId_of_stores (h : List.Forall₂ PropertyShape.Stores ps fields) :
    ps.countP (·.capabilities.isId) = fields.countP (·.capabilities.isId) := by
  have hcaps : ps.map (·.capabilities) = fields.map Field.capabilities :=
    map_eq_of_forall₂ h fun _ _ hp => hp.capabilities_eq.symm
  have hcount := congrArg (List.countP Capabilities.isId) hcaps
  rwa [List.countP_map, List.countP_map] at hcount

end Stores

end RecordSchema
