/-
Keys, and texts that look like them.

A key is found under its full lower-case form, and lower-casing may turn a text that is not ASCII
into one that is. None of these texts is taken for a key all the same: the one letter that they can
hide is a `k`, and no key has a `k` in it. So a key is found under its own spellings in capitals and
small letters of ASCII, and under nothing else (`CapabilityKey.ofLowerCase?_exact`). A key with a
`k` in it could not be added to the set without losing this.
-/
import RecordSchema.Proofs.Tag.Meaning
import RecordSchema.Proofs.Text.LowerCase

set_option autoImplicit false

namespace RecordSchema.Tag

open Text

namespace CapabilityKey

/-- Keys are small letters of ASCII, and there is no `k` among them. -/
theorem plain_text (key : CapabilityKey) :
    (∀ c ∈ key.text.toList, c.toNat < 0x80) ∧ 'k' ∉ key.text.toList ∧
      lowerAscii key.text.toList = key.text.toList := by
  have hplain : key.text.toList.all (fun c => decide (c.toNat < 0x80) && c != 'k') = true := by
    cases key <;> decide
  simp only [List.all_eq_true, Bool.and_eq_true, decide_eq_true_eq, bne_iff_ne] at hplain
  refine ⟨fun c hc => (hplain c hc).1, fun hmem => (hplain 'k' hmem).2 rfl, ?_⟩
  cases key <;> decide

/-- A key is found under the lower-case form of a text exactly if the text is the key up to the case
of ASCII letters. -/
theorem ofLowerCase?_lowerCase_iff {s : String} {key : CapabilityKey} :
    ofLowerCase? (String.ofList (lowerCase s.toList)) = some key ↔
      lowerAscii s.toList = lowerAscii key.text.toList := by
  obtain ⟨hascii, hkelvin, hsmall⟩ := key.plain_text
  rw [ofLowerCase?_eq_some_iff, hsmall, ← lowerCase_eq_iff hascii hkelvin, eq_comm,
    ← String.toList_inj, String.toList_ofList]

theorem length_eq_of_lowerAscii {s t : String} (h : lowerAscii s.toList = lowerAscii t.toList) :
    s.length = t.length := by
  have hlength := congrArg List.length h
  rwa [lowerAscii, lowerAscii, List.length_map, List.length_map, String.length_toList,
    String.length_toList] at hlength

/-- A text that is a key up to the case of ASCII letters has no character beyond ASCII. -/
theorem ascii_of_lowerAscii {s : String} {key : CapabilityKey}
    (h : lowerAscii s.toList = lowerAscii key.text.toList) : ∀ c ∈ s.toList, c.toNat < 0x80 := by
  obtain ⟨hascii, -, hsmall⟩ := key.plain_text
  intro c hc
  have hlower : c.toLower ∈ key.text.toList := by
    rw [← hsmall, ← h]
    exact List.mem_map_of_mem hc
  rcases toLower_cases c with ⟨-, hhigh, -⟩ | hsame
  · omega
  · exact hsame ▸ hascii _ hlower

/-- A key is found under the lower-case form of a text exactly if the text is as long as the key and
equal to it up to the case of ASCII letters. So nothing is found under a text with a character
beyond ASCII in it, although there are such characters whose lower-case form is ASCII. -/
theorem ofLowerCase?_exact :
    (∀ (s : String) (key : CapabilityKey),
      ofLowerCase? (String.ofList (lowerCase s.toList)) = some key ↔
        s.length = key.text.length ∧ lowerAscii s.toList = lowerAscii key.text.toList) ∧
    (∀ s : String, (∃ c ∈ s.toList, 0x80 ≤ c.toNat) →
      ofLowerCase? (String.ofList (lowerCase s.toList)) = none) ∧
    ∃ s : String, (∀ c ∈ s.toList, 0x80 ≤ c.toNat) ∧ lowerCase s.toList ≠ [] ∧
      ∀ d ∈ lowerCase s.toList, d.toNat < 0x80 := by
  refine ⟨fun s key => ?_, fun s hbeyond => ?_, ?_⟩
  · rw [ofLowerCase?_lowerCase_iff]
    constructor
    · intro h
      exact ⟨length_eq_of_lowerAscii h, h⟩
    · intro h
      exact h.2
  · obtain ⟨c, hc, hbeyond⟩ := hbeyond
    rw [Option.eq_none_iff_forall_ne_some]
    intro key hkey
    have hascii := ascii_of_lowerAscii (ofLowerCase?_lowerCase_iff.mp hkey) c hc
    omega
  · -- the Kelvin sign
    have htext : "\u212A".toList = ['\u212A'] := by decide
    have hsmall : lowerCase "\u212A".toList = ['k'] := by decide +kernel
    refine ⟨"\u212A", ?_, ?_, ?_⟩
    · rw [htext]
      intro c hc
      rw [List.mem_singleton.mp hc]
      decide
    · rw [hsmall]
      exact List.cons_ne_nil _ _
    · rw [hsmall]
      intro d hd
      rw [List.mem_singleton.mp hd]
      decide

/-- A key in capitals and small letters, and one with a dotted capital I in the place of its third
letter: the small form of that has an `i` there. -/
theorem ofLowerCase?_exact_dotted :
    ofLowerCase? (String.ofList (lowerCase "NAMEinDB".toList)) = some .nameInDb ∧
      lowerCase "UN\u0130QUE".toList = ['u', 'n', 'i', '\u0307', 'q', 'u', 'e'] ∧
      ofLowerCase? (String.ofList (lowerCase "UN\u0130QUE".toList)) = none := by
  refine ⟨(ofLowerCase?_exact.1 "NAMEinDB" .nameInDb).mpr ?_, by decide +kernel,
    ofLowerCase?_exact.2.1 "UN\u0130QUE" ?_⟩
  · decide
  · exact ⟨'\u0130', by decide, by decide⟩

end CapabilityKey

end RecordSchema.Tag
