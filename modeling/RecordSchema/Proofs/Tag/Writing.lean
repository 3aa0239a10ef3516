/-
Sets of capabilities written back as tags.

A set that was read from a tag can be written down again and is then read to the same set. What
makes this true is where the values come from: a value that was read has no quote in it and no blank
at its ends, so it stands between quotes as it is and is not trimmed any further. Nothing else about
it matters. A capability without a value is written as its bare key, and no two capabilities of one
key have the same value, so a set is also determined by the mapping from keys to values alone.
-/
import RecordSchema.Proofs.Pairing
import RecordSchema.Proofs.Tag.Meaning
import RecordSchema.Proofs.Tag.Scanning

set_option autoImplicit false

namespace RecordSchema.Tag

open Text

/-! ## Values that can be quoted -/

/-- A value that is read back from between quotes as it is. -/
structure Quotable (value : String) : Prop where
  body : IsBody value.toList
  trimmed : Trimmed value.toList value.toList

/-- A value without a quote and without blanks at its ends needs no trimming. -/
theorem quotable_of_ends {value : String} (hbody : IsBody value.toList)
    (hfirst : ∀ c, value.toList.head? = some c → isBlank c = false)
    (hlast : ∀ c, value.toList.getLast? = some c → isBlank c = false) : Quotable value where
  body := hbody
  trimmed := by
    refine ⟨⟨[], [], ?_, ?_, (List.append_nil _).symm⟩, hfirst, hlast⟩
    · exact List.forall_mem_nil _
    · exact List.forall_mem_nil _

theorem quotable_empty : Quotable "" :=
  quotable_of_ends (List.forall_mem_nil _) (by simp) (by simp)

theorem IndexKind.quotable_text (kind : IndexKind) : Quotable kind.text := by
  have hplain : kind.text.toList.all (fun c => !isBlank c && c != '"') = true := by
    cases kind <;> decide
  simp only [List.all_eq_true, Bool.and_eq_true, Bool.not_eq_true', bne_iff_ne] at hplain
  refine quotable_of_ends (fun c hc => (hplain c hc).2) (fun c hc => ?_) (fun c hc => ?_)
  · exact (hplain c (List.mem_of_mem_head? hc)).1
  · exact (hplain c (List.mem_of_getLast? hc)).1

/-- The value of a written token can be quoted again. -/
theorem Written.quotable {text : List Char} {token : Token} (h : Written text token)
    {value : String} (hvalue : token.value = some value) : Quotable value := by
  cases h with
  | bare hkey => cases hvalue
  | @quoted key body inner hkey hbody htrimmed =>
      obtain rfl : String.ofList inner = value := Option.some.inj hvalue
      -- what was trimmed is a part of the body, so it has no quote in it either
      obtain ⟨⟨before, after, -, -, rfl⟩, hfirst, hlast⟩ := htrimmed
      rw [← String.toList_ofList (l := inner)] at hfirst hlast
      refine quotable_of_ends (fun c hc => hbody c ?_) hfirst hlast
      rw [String.toList_ofList] at hc
      exact List.mem_append_right _ (List.mem_append_left _ hc)

/-- The tokens of a tag are written in it. -/
theorem WellFormed.exists_written {text : List Char} {toks : List Token} (h : WellFormed text toks)
    {token : Token} (htoken : token ∈ toks) : ∃ part, Written part token := by
  cases h with
  | blank => cases htoken
  | tokens _ h _ =>
      induction h with
      | one h =>
          rw [List.mem_singleton.mp htoken]
          exact ⟨_, h⟩
      | more h _ _ _ ih =>
          rcases List.mem_cons.mp htoken with rfl | hrest
          · exact ⟨_, h⟩
          · exact ih hrest

/-! ## One capability -/

theorem CapabilityKey.isKey_text (key : CapabilityKey) : IsKey key.text.toList := by
  cases key <;> decide

/-- The text of a key is in lower case already. -/
theorem CapabilityKey.lowerCase_text (key : CapabilityKey) :
    String.ofList (lowerCase key.text.toList) = key.text := by
  cases key <;> decide +kernel

namespace Capability

/-- A capability is determined by its key and its value. -/
theorem ofKey_value (c : Capability) : ofKey c.key c.value = .ok c := by
  cases c with
  | index kind => cases kind <;> rfl
  | nameInDb name => rfl
  | date | id | transient | unique => rfl

/-- The token that a capability is written as. -/
def token (c : Capability) : Token := ⟨c.key.text, c.value⟩

theorem means_token (c : Capability) : c.token.Means c :=
  Token.means_iff.mpr ⟨c.key.lowerCase_text.symm, c.ofKey_value⟩

/-- A capability whose value can be quoted is written as its token. -/
theorem written_token {c : Capability} (h : ∀ value, c.value = some value → Quotable value) :
    Written c.written.toList c.token := by
  have hkey := c.key.isKey_text
  unfold written token
  cases hvalue : c.value with
  | none =>
      have hbare := Written.bare hkey
      rwa [String.ofList_toList] at hbare
  | some value =>
      obtain ⟨hbody, htrimmed⟩ := h value hvalue
      have hquoted := Written.quoted hkey hbody htrimmed
      rw [String.ofList_toList, String.ofList_toList] at hquoted
      have htext : (c.key.text ++ ":\"" ++ value ++ "\"").toList =
          c.key.text.toList ++ ':' :: '"' :: (value.toList ++ ['"']) := by
        simp [String.toList_append]
      dsimp only
      rwa [htext]

/-- The value of a capability that a token of a tag means can be quoted: it is the value of the
token, or one of a few texts. -/
theorem quotable_value {token : Token} {c : Capability} (h : token.Means c)
    (hwritten : ∃ part, Written part token) {value : String} (hvalue : c.value = some value) :
    Quotable value := by
  obtain ⟨part, hpart⟩ := hwritten
  obtain ⟨-, hof⟩ := Token.means_iff.mp h
  cases c with
  | index kind =>
      cases kind <;> cases hvalue <;> exact IndexKind.quotable_text _
  | nameInDb name =>
      -- only a storage name comes from the tag as it is; a bare key gives the empty one
      obtain rfl : name = value := Option.some.inj hvalue
      obtain rfl : token.value.getD "" = name := by
        injection Except.ok.inj hof
      cases htoken : token.value with
      | none => exact quotable_empty
      | some inner => exact hpart.quotable htoken
  | date | id | transient | unique => cases hvalue

/-- The field of the mapping from keys to values that a capability is handed on as. -/
def entry (c : Capability) : String × Json := (c.key.text, Json.optional c.value)

/-- No two capabilities have the same key and the same value. -/
theorem entry_injective : Function.Injective entry := by
  intro c d h
  obtain ⟨hkey, hvalue⟩ := Prod.mk.inj h
  have hkeys : c.key = d.key := CapabilityKey.text_injective hkey
  have hvalues : c.value = d.value := by
    cases hc : c.value <;> cases hd : d.value <;> rw [hc, hd] at hvalue <;> cases hvalue
    all_goals rfl
  have hof := c.ofKey_value
  rw [hkeys, hvalues, d.ofKey_value, Except.ok.injEq] at hof
  exact hof.symm

end Capability

/-! ## Sets -/

/-- Texts of tokens with one space between them make a tag. -/
theorem wellFormed_intercalate {α : Type} {items : List α} {text : α → String} {token : α → Token}
    (h : ∀ x ∈ items, Written (text x).toList (token x)) :
    WellFormed (" ".intercalate (items.map text)).toList (items.map token) := by
  rw [String.toList_intercalate, List.map_map]
  cases items with
  | nil => exact .blank (List.forall_mem_nil _)
  | cons x items =>
      have hseparated : Separated ([' '].intercalate ((x :: items).map (String.toList ∘ text)))
          ((x :: items).map token) := by
        -- one token more stands in front, so the first one is left open
        induction items generalizing x with
        | nil =>
            rw [List.map_singleton, List.map_singleton, List.intercalate_singleton]
            exact .one (h x List.mem_cons_self)
        | cons y items ih =>
            have hrest := ih y fun z hz => h z (List.mem_cons_of_mem x hz)
            rw [List.map_cons, List.map_cons, List.map_cons, List.intercalate_cons_cons,
              List.append_assoc]
            exact .more (h x List.mem_cons_self) (by decide) (by decide) hrest
      have htag := WellFormed.tokens (List.forall_mem_nil _) hseparated (List.forall_mem_nil _)
      rwa [List.nil_append, List.append_nil] at htag

namespace Capabilities

/-- The fields of the mapping from keys to values. -/
def entries (caps : Capabilities) : List (String × Json) := caps.items.map Capability.entry

theorem json_eq (caps : Capabilities) : caps.json = .object caps.entries := rfl

/-- A capability is in a set of different keys exactly if the mapping has its value under its
key. -/
theorem field?_eq_some_iff {caps : Capabilities} (h : caps.keys.Nodup) {c : Capability} :
    caps.json.field? c.key.text = some (Json.optional c.value) ↔ c ∈ caps.items := by
  have hkeys : (caps.entries.map (·.1)).Nodup := by
    have hmap : caps.entries.map (·.1) = caps.keys.map CapabilityKey.text := by
      simp [entries, keys, Capability.entry]
    rw [hmap]
    exact h.map CapabilityKey.text_injective
  change caps.entries.lookup c.key.text = _ ↔ _
  rw [lookup_eq_some_iff_mem hkeys, entries]
  exact List.mem_map_of_injective Capability.entry_injective

/-- A set that was read from a tag is read again from the tag that it is written back to. The
mapping from keys to values determines it: the fields in their order determine the set with its
order, and what stands under each key determines what is in the set. -/
theorem parse_written {tag : String} {caps : Capabilities} (h : parse tag = .ok caps) :
    parse caps.written = .ok caps ∧
      (∀ other : Capabilities, other.json = caps.json → other = caps) ∧
      ∀ text other, parse text = .ok other →
        (∀ key, other.json.field? key = caps.json.field? key) → other.items.Perm caps.items := by
  obtain ⟨toks, htokens, hmeans, hkeys⟩ := parse_eq_ok_iff.mp h
  refine ⟨?_, fun other heq => ?_, fun text other hother hsame => ?_⟩
  · have hwritten : ∀ c ∈ caps.items, Written c.written.toList c.token := by
      intro c hc
      obtain ⟨token, htoken, hc⟩ := exists_mem_of_forall₂ hmeans.flip hc
      have hpart := (scan_eq_ok_iff.mp htokens).exists_written htoken
      exact Capability.written_token fun value hvalue => Capability.quotable_value hc hpart hvalue
    refine parse_eq_ok_iff.mpr ⟨caps.items.map Capability.token, ?_, ?_, hkeys⟩
    · exact scan_of_wellFormed (wellFormed_intercalate hwritten)
    · rw [List.forall₂_map_left_iff, List.forall₂_same]
      exact fun c _ => c.means_token
  · -- field by field in order
    rw [json_eq, json_eq, Json.object.injEq] at heq
    exact congrArg Capabilities.mk (List.map_injective_iff.mpr Capability.entry_injective heq)
  · -- two sets of different keys are the same up to order if they have the same members
    obtain ⟨-, -, -, hotherKeys⟩ := parse_eq_ok_iff.mp hother
    rw [List.perm_ext_iff_of_nodup (.of_map _ hotherKeys) (.of_map _ hkeys)]
    intro c
    rw [← field?_eq_some_iff hotherKeys, ← field?_eq_some_iff hkeys, hsame]

/-- Keys in other cases, a value that is trimmed and has a colon and a blank in it, and an index
with an empty value: the written form is another text, and is read to the same set. -/
theorem parse_written_spread :
    ∃ caps, parse "UNIQUE\tNameInDb:\" a: \u3000b \"  index:\"\"" = .ok caps ∧
      caps.written = "unique nameindb:\"a: \u3000b\" index" ∧ parse caps.written = .ok caps := by
  have h : parse "UNIQUE\tNameInDb:\" a: \u3000b \"  index:\"\"" =
      .ok ⟨[.unique, .nameInDb "a: \u3000b", .index .default]⟩ := by
    decide +kernel
  exact ⟨_, h, by decide, (parse_written h).1⟩

end Capabilities

end RecordSchema.Tag
