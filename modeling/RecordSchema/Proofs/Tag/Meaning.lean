/-
What the tokens of a tag mean together.

The tokens are taken into a set one after the other, and each may be refused: for what it says, or
because the set has its key already. Said of all of them at once, every token means a capability and
no two of these share a key (`parse_eq_ok_iff`); neither part depends on the order. Where the tokens
mean something but a key comes twice, the first token whose key is taken is what the tag is refused
for (`addAll_of_means`).
-/
import RecordSchema.Proofs.Keys
import RecordSchema.Proofs.Result
import RecordSchema.Tag.Capability
import Mathlib.Data.List.Forall2

set_option autoImplicit false

namespace RecordSchema.Tag

/-! ## One token -/

/-- The capability that a token stands for. -/
def Token.Means (token : Token) (capability : Capability) : Prop :=
  Capability.ofToken token = .ok capability

theorem CapabilityKey.text_injective : Function.Injective text := by
  intro key other h
  cases key <;> cases other <;> first | rfl | exact absurd h (by decide)

/-- A text in lower case is a key exactly if it is the text of that key. -/
theorem CapabilityKey.ofLowerCase?_eq_some_iff {s : String} {key : CapabilityKey} :
    ofLowerCase? s = some key ↔ key.text = s := by
  have hkeys : (all.map text).Nodup := by decide
  have hmem : key ∈ all := by cases key <;> decide
  rw [ofLowerCase?, find?_key_eq_some_iff hkeys, and_iff_right hmem]

/-- A capability has the key that it was asked for under. -/
theorem Capability.key_of_ofKey {key : CapabilityKey} {value : Option String}
    {capability : Capability} (h : ofKey key value = .ok capability) : capability.key = key := by
  cases key with
  | index =>
      obtain ⟨kind, -, rfl⟩ := map_eq_ok_iff.mp h
      rfl
  | nameInDb =>
      cases h
      rfl
  | date | id | transient | unique =>
      cases value <;> cases h
      rfl

/-- A token stands for a capability if its key in lower case is that of the capability, and the
value goes with it. -/
theorem Token.means_iff {token : Token} {capability : Capability} :
    token.Means capability ↔ capability.key.text = token.lowerKey ∧
      Capability.ofKey capability.key token.value = .ok capability := by
  unfold Means Capability.ofToken
  constructor
  · intro h
    cases hkey : CapabilityKey.ofLowerCase? token.lowerKey with
    | none =>
        rw [hkey] at h
        cases h
    | some key =>
        rw [hkey] at h
        dsimp only at h
        -- the key that was looked up is the one that the capability says it has
        obtain rfl := Capability.key_of_ofKey h
        exact ⟨CapabilityKey.ofLowerCase?_eq_some_iff.mp hkey, h⟩
  · rintro ⟨hkey, hvalue⟩
    rw [CapabilityKey.ofLowerCase?_eq_some_iff.mpr hkey]
    exact hvalue

/-! ## Sets -/

namespace Capabilities

/-- The keys of a set, in its order. -/
def keys (caps : Capabilities) : List CapabilityKey := caps.items.map (·.key)

theorem contains_eq_true_iff {caps : Capabilities} {key : CapabilityKey} :
    caps.contains key = true ↔ key ∈ caps.keys := by
  rw [contains, ← Option.ne_none_iff_isSome, Ne, get?, find?_key_eq_none_iff, Decidable.not_not,
    keys]

/-- A token that means something is refused exactly if its key is taken. -/
theorem add_of_means {token : Token} {capability : Capability} (h : token.Means capability)
    (caps : Capabilities) :
    caps.add token = if caps.contains capability.key then .error (.duplicate capability.key.text)
      else .ok ⟨caps.items ++ [capability]⟩ := by
  rw [(Token.means_iff.mp h).1, add, h]
  rfl

/-- Tokens are taken in up to some token, and then from there. -/
theorem addAll_append (caps : Capabilities) (front back : List Token) :
    caps.addAll (front ++ back) = caps.addAll front >>= fun more => more.addAll back := by
  induction front generalizing caps with
  | nil => rfl
  | cons token front ih =>
      rw [List.cons_append, addAll, addAll]
      cases caps.add token with
      | error error => rfl
      | ok more => exact ih more

section Means

variable {toks : List Token} {items : List Capability}

/-- Tokens that mean capabilities of different keys are taken in unless one of the keys is taken,
and then refused for the first such key. -/
theorem addAll_of_means (h : List.Forall₂ Token.Means toks items)
    (hkeys : (items.map (·.key)).Nodup) (caps : Capabilities) :
    caps.addAll toks =
      match items.find? fun c => caps.contains c.key with
      | some c => .error (.duplicate c.key.text)
      | none => .ok ⟨caps.items ++ items⟩ := by
  induction h generalizing caps with
  | nil =>
      rw [List.append_nil]
      rfl
  | @cons token c toks items hone _ ih =>
      rw [List.map_cons, List.nodup_cons] at hkeys
      rw [addAll, add_of_means hone]
      by_cases htaken : caps.contains c.key = true
      · rw [if_pos htaken,
          List.find?_cons_of_pos (p := fun d : Capability => caps.contains d.key) htaken]
        rfl
      · rw [if_neg htaken,
          List.find?_cons_of_neg (p := fun d : Capability => caps.contains d.key) htaken]
        -- the key that has come in is none of those to come
        have hsame : items.find? (fun d => (⟨caps.items ++ [c]⟩ : Capabilities).contains d.key) =
            items.find? fun d => caps.contains d.key := by
          rw [← List.head?_filter, ← List.head?_filter]
          refine congrArg List.head? (List.filter_congr fun d hd => ?_)
          have hne : d.key ≠ c.key := fun heq => hkeys.1 (heq ▸ List.mem_map_of_mem hd)
          rw [Bool.eq_iff_iff, contains_eq_true_iff, contains_eq_true_iff]
          simp [keys, hne]
        change addAll ⟨caps.items ++ [c]⟩ toks = _
        rw [ih hkeys.2, hsame, List.append_assoc]
        rfl

/-- Tokens are taken in exactly if they mean capabilities of different keys, none of which was taken
before. -/
theorem addAll_eq_ok_iff {caps after : Capabilities} :
    caps.addAll toks = .ok after ↔ ∃ items, List.Forall₂ Token.Means toks items ∧
      NewTo caps.keys (items.map (·.key)) ∧ after = ⟨caps.items ++ items⟩ := by
  constructor
  · intro h
    induction toks generalizing caps with
    | nil =>
        cases h
        exact ⟨[], .nil, newTo_nil _, by rw [List.append_nil]⟩
    | cons token toks ih =>
        rw [addAll] at h
        obtain ⟨more, hone, hrest⟩ := bind_eq_ok_iff.mp h
        cases hmeans : Capability.ofToken token with
        | error e =>
            rw [add, hmeans] at hone
            cases hone
        | ok c =>
            rw [add_of_means hmeans] at hone
            -- a key that is taken would have ended it here
            by_cases htaken : caps.contains c.key = true
            · rw [if_pos htaken] at hone
              cases hone
            · rw [if_neg htaken] at hone
              cases hone
              obtain ⟨items, hitems, hnew, rfl⟩ := ih hrest
              refine ⟨c :: items, .cons hmeans hitems, ?_, ?_⟩
              · rw [contains_eq_true_iff] at htaken
                have hkeys : (⟨caps.items ++ [c]⟩ : Capabilities).keys = caps.keys ++ [c.key] := by
                  simp [keys]
                rw [hkeys] at hnew
                -- what the rest is new to is the old keys and this one, in either order
                rw [List.map_cons, newTo_cons_iff]
                refine ⟨htaken, (NewTo.congr fun k => ?_).mp hnew⟩
                rw [List.mem_append, List.mem_singleton, List.mem_cons, or_comm]
              · rw [List.append_assoc]
                rfl
  · rintro ⟨items, hitems, hnew, rfl⟩
    have hfree : items.find? (fun c => caps.contains c.key) = none := by
      rw [List.find?_eq_none]
      intro c hc
      rw [contains_eq_true_iff]
      exact hnew.2 _ (List.mem_map_of_mem hc)
    rw [addAll_of_means hitems hnew.1, hfree]

end Means

/-! ## The whole tag -/

/-- A tag is taken in if its tokens are and nothing is wrong behind them. -/
theorem parse_eq (tag : String) :
    parse tag = empty.addAll (tokens tag).1 >>= fun caps =>
      match (tokens tag).2 with
      | some e => .error (.token e)
      | none => .ok caps := rfl

/-- A tag is taken in exactly if its tokens mean capabilities of different keys and nothing is wrong
behind them. -/
theorem parse_eq_ok_iff {tag : String} {caps : Capabilities} :
    parse tag = .ok caps ↔ ∃ toks, tokens tag = (toks, none) ∧
      List.Forall₂ Token.Means toks caps.items ∧ caps.keys.Nodup := by
  rw [parse_eq, bind_eq_ok_iff]
  constructor
  · rintro ⟨all, hall, hfault⟩
    obtain ⟨items, hitems, hnew, rfl⟩ := addAll_eq_ok_iff.mp hall
    rcases htokens : tokens tag with ⟨toks, _ | e⟩
    · rw [htokens] at hitems hfault
      cases hfault
      exact ⟨toks, rfl, hitems, hnew.1⟩
    · rw [htokens] at hfault
      cases hfault
  · rintro ⟨toks, htokens, hitems, hkeys⟩
    rw [htokens]
    refine ⟨caps, addAll_eq_ok_iff.mpr ⟨caps.items, hitems, ?_, rfl⟩, rfl⟩
    exact (newTo_empty_iff _).mpr hkeys

end Capabilities

end RecordSchema.Tag
