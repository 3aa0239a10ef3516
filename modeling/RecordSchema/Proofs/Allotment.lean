/-
The UIDs below a UID of an entity.

The UIDs of properties come in blocks of ten thousand, one block for each UID of an entity. As long
as the numeric IDs of its properties stay below ten thousand, an entity keeps to its own block, and
the UID of a property says which entity and which number it belongs to.

The blocks fill the words of 64 bits, but ten thousand does not divide their number: the last block
is cut off after 1616 places. Some hashes lead to the UID of that block, so 1616 properties are what
every name has room for (`propertyUid?_entityUid_iff`), and a new entity that asks for no more than
these is refused for other reasons only.
-/
import RecordSchema.Proofs.Assigner.Refusal

set_option autoImplicit false

namespace RecordSchema

/-! ## Blocks -/

section Block

variable {entity other uid : UInt64} {id otherId : UInt32}

/-- In words the same sum is the integer modulo the number of words. -/
private theorem toNat_scaled_add (entity : UInt64) (id : UInt32) :
    (entity * UInt64.ofNat uidScale + id.toUInt64).toNat =
      (entity.toNat * uidScale + id.toNat) % UInt64.size := by
  rw [UInt64.toNat_add, UInt64.toNat_mul, UInt32.toNat_toUInt64]
  exact Nat.mod_add_mod ..

/-- A property has no UID exactly where the words would wrap. -/
theorem propertyUid?_eq_none_iff_wraps :
    propertyUid? entity id = none ↔
      (entity * UInt64.ofNat uidScale + id.toUInt64).toNat ≠
        entity.toNat * uidScale + id.toNat := by
  rw [propertyUid?_eq_none_iff, toNat_scaled_add]
  constructor
  · intro h hsame
    have hlt := Nat.mod_lt (entity.toNat * uidScale + id.toNat) (show 0 < UInt64.size by decide)
    omega
  · intro h
    by_contra hlt
    exact h (Nat.mod_eq_of_lt (Nat.not_le.mp hlt))

/-- The UID of a property with a number below ten thousand is in the block of its entity, at the
place of its number. -/
theorem div_mod_of_propertyUid? (hid : id.toNat < uidScale)
    (h : propertyUid? entity id = some uid) :
    uid / UInt64.ofNat uidScale = entity ∧ uid % UInt64.ofNat uidScale = id.toUInt64 := by
  have hexact := propertyUid?_eq_some_iff.mp h
  have hscale : (UInt64.ofNat uidScale).toNat = 10000 := rfl
  simp only [uidScale] at hid hexact
  constructor
  · apply UInt64.toNat_inj.mp
    rw [UInt64.toNat_div, hscale]
    omega
  · apply UInt64.toNat_inj.mp
    rw [UInt64.toNat_mod, hscale, UInt32.toNat_toUInt64]
    omega

/-- Properties with numbers below ten thousand have one UID only if they are one property of one
entity. -/
theorem eq_of_propertyUid? (hid : id.toNat < uidScale) (hother : otherId.toNat < uidScale)
    (h : propertyUid? entity id = some uid) (h' : propertyUid? other otherId = some uid) :
    entity = other ∧ id = otherId := by
  obtain ⟨hblock, hplace⟩ := div_mod_of_propertyUid? hid h
  obtain ⟨hblock', hplace'⟩ := div_mod_of_propertyUid? hother h'
  constructor
  · exact hblock.symm.trans hblock'
  · apply UInt32.toUInt64_inj.mp
    exact hplace.symm.trans hplace'

end Block

/-! ## The last block -/

/-- Of the numbers below ten thousand a hash leaves one out only if it leads to the last block, and
there those from 1616 on. -/
theorem propertyUid?_entityUid_eq_none_iff {hash : UInt64} {id : UInt32}
    (hid : id.toNat < uidScale) :
    propertyUid? (entityUid hash) id = none ↔
      UInt64.size / uidScale ≤ hash.toNat / uidScale ∧ UInt64.size % uidScale ≤ id.toNat := by
  have hhash := hash.toNat_lt_size
  rw [propertyUid?_eq_none_iff, entityUid_toNat]
  simp only [uidScale, UInt64.size] at hid hhash ⊢
  omega

/-- The numbers that no hash leaves out are those below 1616. -/
theorem propertyUid?_entityUid_iff {id : UInt32} :
    (∀ hash, ∃ uid, propertyUid? (entityUid hash) id = some uid) ↔
      id.toNat < UInt64.size % uidScale := by
  constructor
  · intro h
    -- the highest hash leads to the last block
    obtain ⟨uid, huid⟩ := h (UInt64.ofNat (UInt64.size - 1))
    have hexact := propertyUid?_eq_some_iff.mp huid
    have hfits := uid.toNat_lt_size
    rw [entityUid_toNat, UInt64.toNat_ofNat_of_lt' (by decide)] at hexact
    simp only [uidScale, UInt64.size] at hexact hfits ⊢
    omega
  · intro h hash
    apply Option.ne_none_iff_exists'.mp
    intro hnone
    have hid : id.toNat < uidScale := Nat.lt_trans h (Nat.mod_lt _ (by decide))
    have hbeyond := ((propertyUid?_entityUid_eq_none_iff hid).mp hnone).2
    omega

/-! ## New entities -/

/-- Minting properties finds no room only for the one that it names: the position has no UID. -/
theorem Ledger.overflow_of_mintProperties {ledger after : Ledger} {entity : String} {uid : UInt64}
    {position : Nat} {names : List String} {named property : String} {below : UInt64}
    (h : ledger.mintProperties entity uid position names =
      (after, .error (.uidOverflow named property below))) :
    named = entity ∧ below = uid ∧
      ∃ k, names[k]? = some property ∧ propertyUid? uid (positionalId (position + k)) = none := by
  induction names generalizing ledger position with
  | nil => cases h
  | cons name names ih =>
      rcases mintProperties_cons_eq_error h with ⟨hnone, he⟩ | ⟨id, hheld⟩ | ⟨next, hmore⟩
      · cases he
        exact ⟨rfl, rfl, 0, rfl, hnone⟩
      · obtain ⟨holder, he⟩ := mint_eq_error hheld
        cases he
      · obtain ⟨hnamed, hbelow, k, hk, hnone⟩ := ih hmore
        refine ⟨hnamed, hbelow, k + 1, hk, ?_⟩
        rwa [Nat.add_right_comm, Nat.add_assoc] at hnone

namespace Assigner

/-- A new entity finds no room only for the property that is named: its position has no UID in the
block that the hash of the entity leads to. -/
theorem overflow_of_mint {a : Assigner} {name named property : String} {properties : List String}
    {below : UInt64}
    (h : (a.mint name properties).result = .error (.uidOverflow named property below)) :
    named = name ∧ below = entityUid (Hash.entityHash a.nameSpace name) ∧
      ∃ k, properties[k]? = some property ∧ propertyUid? below (positionalId k) = none := by
  rcases mint_eq_error h with
    hfresh | ⟨id, other, -, -, he⟩ | hheld | ⟨ledger, after, hproperties⟩
  · obtain ⟨⟨last, he⟩, -, -⟩ := freshEntityId_eq_error hfresh
    cases he
  · cases he
  · obtain ⟨holder, he⟩ := Ledger.mint_eq_error hheld
    cases he
  · obtain ⟨hnamed, rfl, k, hk, hnone⟩ := Ledger.overflow_of_mintProperties hproperties
    rw [Nat.zero_add] at hnone
    exact ⟨hnamed, rfl, k, hk, hnone⟩

/-- Every new entity has room for as many properties as the last block has places. -/
theorem mint_ne_overflow {properties : List String}
    (hlength : properties.length ≤ UInt64.size % uidScale) (a : Assigner)
    (name named property : String) (below : UInt64) :
    (a.mint name properties).result ≠ .error (.uidOverflow named property below) := by
  intro h
  obtain ⟨-, rfl, k, hk, hnone⟩ := overflow_of_mint h
  obtain ⟨hlt, -⟩ := List.getElem?_eq_some_iff.mp hk
  have hplace : (positionalId k).toNat < UInt64.size % uidScale := by
    rw [positionalId_toNat]
    omega
  obtain ⟨uid, huid⟩ := propertyUid?_entityUid_iff.mpr hplace
    (Hash.entityHash a.nameSpace name)
  rw [hnone] at huid
  cases huid

end Assigner

/-! ## The ranges -/

/-- The UID of a property is the exact integer, or there is none because the integer has no word and
words would wrap. Below ten thousand, the number of the property and the UID of its entity can be
read off it, so two entities do not meet. Whatever an entity is hashed to, the numbers up to 1615
have a UID, and no other number always has one; so a new entity of at most 1616 properties is never
refused for want of room, under any namespace and name. -/
theorem propertyUid?_exact :
    (∀ (entity uid : UInt64) (id : UInt32),
      propertyUid? entity id = some uid ↔ uid.toNat = entity.toNat * 10000 + id.toNat) ∧
    (∀ (entity : UInt64) (id : UInt32),
      propertyUid? entity id = none ↔ UInt64.size ≤ entity.toNat * 10000 + id.toNat) ∧
    (∀ (entity : UInt64) (id : UInt32), propertyUid? entity id = none ↔
      (entity * 10000 + id.toUInt64).toNat ≠ entity.toNat * 10000 + id.toNat) ∧
    (∀ (entity uid : UInt64) (id : UInt32), id.toNat < 10000 → propertyUid? entity id = some uid →
      uid / 10000 = entity ∧ uid % 10000 = id.toUInt64) ∧
    (∀ (entity other uid : UInt64) (id otherId : UInt32), entity ≠ other → id.toNat < 10000 →
      otherId.toNat < 10000 → propertyUid? entity id = some uid →
      propertyUid? other otherId ≠ some uid) ∧
    (∀ id : UInt32, (∀ hash, ∃ uid, propertyUid? (entityUid hash) id = some uid) ↔
      id.toNat ≤ 1615) ∧
    ∀ (a : Assigner) (name : String) (properties : List String), properties.length ≤ 1616 →
      ∀ named property below,
        (a.mint name properties).result ≠ .error (.uidOverflow named property below) := by
  have hplaces : UInt64.size % uidScale = 1616 := by decide
  refine ⟨fun _ _ _ => propertyUid?_eq_some_iff, fun _ _ => propertyUid?_eq_none_iff,
    fun _ _ => propertyUid?_eq_none_iff_wraps, fun _ _ _ hid h => div_mod_of_propertyUid? hid h,
    ?_, ?_, ?_⟩
  · intro entity other uid id otherId hne hid hother h h'
    exact hne (eq_of_propertyUid? hid hother h h').1
  · intro id
    rw [propertyUid?_entityUid_iff, hplaces]
    omega
  · intro a name properties hlength named property below
    apply a.mint_ne_overflow
    rwa [hplaces]

/-- The last place of the last block is the highest word. The block before it has its own place of
that number, and a new entity may have as many properties as the last block has places. -/
theorem propertyUid?_exact_highest :
    (propertyUid? 1844674407370955 1615 = some 18446744073709551615 ∧
      (18446744073709551615 : UInt64) / 10000 = 1844674407370955 ∧
      (18446744073709551615 : UInt64) % 10000 = (1615 : UInt32).toUInt64) ∧
    (propertyUid? 1844674407370954 1615 = some 18446744073709541615 ∧
      propertyUid? 1844674407370955 1615 ≠ some 18446744073709541615) ∧
    ((List.replicate 1616 "x").length ≤ 1616 ∧
      ((Assigner.start .empty "app" .hashed none).mint "User" (List.replicate 1616 "x")).result ≠
        .error (.uidOverflow "User" "x" 1844674407370955)) := by
  have hlast : propertyUid? 1844674407370955 1615 = some 18446744073709551615 := by decide
  have hbefore : propertyUid? 1844674407370954 1615 = some 18446744073709541615 := by decide
  obtain ⟨-, -, -, hread, hapart, -, hroom⟩ := propertyUid?_exact
  refine ⟨⟨hlast, hread _ _ _ (by decide) hlast⟩,
    ⟨hbefore, hapart _ _ _ _ _ (by decide) (by decide) (by decide) hbefore⟩, ?_, ?_⟩
  · rw [List.length_replicate]
  · exact hroom _ _ _ (Nat.le_of_eq List.length_replicate) _ _ _

/-- One place further there is no UID, though the entity before has one at that place. -/
example : propertyUid? 1844674407370955 1616 = none ∧
    propertyUid? 1844674407370954 1616 = some 18446744073709541616 := by decide

end RecordSchema
