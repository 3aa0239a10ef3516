/-
Spellings of a tag.

A tag may be written with its tokens in another order, its keys in another ASCII case, and the value
of an index in another ASCII case. What its tokens mean is the same for all of these, and a set of
capabilities is asked only by key, so the order of its capabilities is not seen by anything that is
decided by it (`SameAnswers`).
-/
import RecordSchema.Entity.Shape
import RecordSchema.Proofs.Tag.Meaning
import RecordSchema.Proofs.Text.LowerCase
import Mathlib.Data.List.Perm.Basic

set_option autoImplicit false

namespace RecordSchema.Tag

open Text

/-! ## One token -/

/-- The token without the differences in case that mean nothing: its key is in ASCII lower case, and
so is its value if the key is that of an index. -/
def Token.folded (token : Token) : Token where
  key := String.ofList (lowerAscii token.key.toList)
  value :=
    if token.lowerKey = CapabilityKey.index.text then
      token.value.map fun value => String.ofList (lowerAscii value.toList)
    else
      token.value

theorem Token.lowerKey_folded (token : Token) : token.folded.lowerKey = token.lowerKey := by
  rw [lowerKey, lowerKey, folded, String.toList_ofList, lowerCase_lowerAscii]

/-- A value names an index kind if its ASCII lower case is the text of that kind. -/
theorem IndexKind.parse_eq_ok_iff {value : String} {kind : IndexKind} :
    parse value = .ok kind ↔ kind.text.toList = lowerAscii value.toList := by
  have htexts : (all.map fun k => k.text.toList).Nodup := by decide
  have hmem : kind ∈ all := by cases kind <;> decide
  have hfind := find?_key_eq_some_iff htexts (x := kind) (k := lowerAscii value.toList)
  rw [and_iff_right hmem] at hfind
  rw [← hfind, parse]
  cases all.find? fun k => k.text.toList = lowerAscii value.toList <;> simp

/-- What an index is built on is the same for every ASCII case of the value that names it. -/
theorem IndexKind.parse_folded_eq_ok_iff {value : Option String} {kind : IndexKind} :
    parse ((value.map fun v => String.ofList (lowerAscii v.toList)).getD "") = .ok kind ↔
      parse (value.getD "") = .ok kind := by
  rw [parse_eq_ok_iff, parse_eq_ok_iff]
  cases value with
  | none => rfl
  | some v =>
      change _ = lowerAscii (String.ofList (lowerAscii v.toList)).toList ↔ _ = lowerAscii v.toList
      rw [String.toList_ofList, lowerAscii_lowerAscii]

/-- A token means what it means without its differences in case. -/
theorem Token.means_folded_iff {token : Token} {capability : Capability} :
    token.folded.Means capability ↔ token.Means capability := by
  rw [means_iff, means_iff, lowerKey_folded]
  refine and_congr_right fun hkey => ?_
  -- only the value of an index was folded, and only an index reads it without its case
  by_cases hindex : token.lowerKey = CapabilityKey.index.text
  · have hkind : capability.key = .index := CapabilityKey.text_injective (hkey.trans hindex)
    cases capability with
    | index kind =>
        have hvalue : token.folded.value =
            token.value.map fun value => String.ofList (lowerAscii value.toList) := if_pos hindex
        change (IndexKind.parse (token.folded.value.getD "")).map Capability.index = _ ↔
          (IndexKind.parse (token.value.getD "")).map Capability.index = _
        rw [hvalue, map_eq_ok_iff, map_eq_ok_iff]
        simp only [IndexKind.parse_folded_eq_ok_iff]
    | date | id | nameInDb | transient | unique => cases hkind
  · have hvalue : token.folded.value = token.value := if_neg hindex
    rw [hvalue]

/-! ## Whole tags -/

/-- Two tags without a malformed token whose tokens are the same up to their order, the ASCII case
of keys and the ASCII case of index values. -/
structure Respelled (tag other : String) : Prop where
  wellFormed : (tokens tag).2 = none
  otherWellFormed : (tokens other).2 = none
  tokens : ((tokens tag).1.map Token.folded).Perm ((tokens other).1.map Token.folded)

theorem Respelled.symm {tag other : String} (h : Respelled tag other) : Respelled other tag :=
  ⟨h.otherWellFormed, h.wellFormed, h.tokens.symm⟩

namespace Capabilities

/-- A tag in another spelling is read to the same capabilities in some order. -/
theorem exists_parse_of_respelled {tag other : String} {caps : Capabilities}
    (h : Respelled tag other) (hparse : parse tag = .ok caps) :
    ∃ others, parse other = .ok others ∧ others.items.Perm caps.items ∧ caps.keys.Nodup := by
  obtain ⟨toks, htoks, hmeans, hkeys⟩ := parse_eq_ok_iff.mp hparse
  have hperm := h.tokens
  rw [htoks] at hperm
  have hfolded : List.Forall₂ Token.Means (toks.map Token.folded) caps.items := by
    rw [List.forall₂_map_left_iff]
    exact hmeans.imp fun _ _ => Token.means_folded_iff.mpr
  -- the other tokens mean what these do, in their own order
  obtain ⟨items, hitems, hsame⟩ := List.perm_comp_forall₂ hperm.symm hfolded
  rw [List.forall₂_map_left_iff] at hitems
  have hothers : tokens other = ((tokens other).1, none) := Prod.ext rfl h.otherWellFormed
  refine ⟨⟨items⟩, parse_eq_ok_iff.mpr ⟨_, hothers, ?_, ?_⟩, hsame, hkeys⟩
  · exact hitems.imp fun _ _ => Token.means_folded_iff.mp
  · exact (hsame.map Capability.key).nodup_iff.mpr hkeys

/-! ## What is asked of a set -/

/-- Two sets that no question tells apart: they give the same flags, the same answers one by one,
and every type the same column. -/
structure SameAnswers (caps others : Capabilities) : Prop where
  flags : PropertyFlag.ofCapabilities caps = PropertyFlag.ofCapabilities others
  isId : caps.isId = others.isId
  isTransient : caps.isTransient = others.isTransient
  isDate : caps.isDate = others.isDate
  isUnique : caps.isUnique = others.isUnique
  index? : caps.index? = others.index?
  nameInDb? : caps.nameInDb? = others.nameInDb?
  resolveType : ∀ typeName, resolveType typeName caps = resolveType typeName others

/-- Every question is about the capability of some key. -/
theorem sameAnswers_of_get?_eq {caps others : Capabilities}
    (h : ∀ key, caps.get? key = others.get? key) : caps.SameAnswers others := by
  have hcontains : ∀ key, caps.contains key = others.contains key := by
    intro key
    rw [contains, contains, h key]
  have hid : caps.isId = others.isId := hcontains .id
  have hdate : caps.isDate = others.isDate := hcontains .date
  have hunique : caps.isUnique = others.isUnique := hcontains .unique
  have hindex : caps.index? = others.index? := by
    rw [Capabilities.index?, Capabilities.index?, h .index]
  refine ⟨?_, hid, hcontains .transient, hdate, hunique, hindex, ?_, fun typeName => ?_⟩
  · rw [PropertyFlag.ofCapabilities, PropertyFlag.ofCapabilities, hid, hindex, hunique]
  · rw [Capabilities.nameInDb?, Capabilities.nameInDb?, h .nameInDb]
  · rw [RecordSchema.resolveType, RecordSchema.resolveType, hid, hdate]

/-- A tag in another spelling is read to a set that answers the same. -/
theorem exists_sameAnswers_of_respelled {tag other : String} {caps : Capabilities}
    (h : Respelled tag other) (hparse : parse tag = .ok caps) :
    ∃ others, parse other = .ok others ∧ caps.SameAnswers others := by
  obtain ⟨others, hothers, hperm, hkeys⟩ := exists_parse_of_respelled h hparse
  exact ⟨others, hothers, sameAnswers_of_get?_eq fun key => (find?_key_perm hkeys hperm key).symm⟩

end Capabilities

end RecordSchema.Tag
