/-
Texts that differ in the case of their ASCII letters.

Such texts have one lower-case form. This has to be shown: full lower-casing depends on the context
of a letter, and an ASCII letter is context to others. But a letter is cased in either case and is
never case-ignorable, so whether a sigma ends its word is the same for both spellings.

The other way round, an ASCII text can be the lower-case form of one that is not ASCII, because two
characters beyond ASCII have ASCII characters in their small forms: the Kelvin sign becomes a `k`,
and the dotted capital I an `i` with a dot behind it that is not ASCII. So the `k` is the only
letter that a look-alike can hide in, and a text in ASCII without it is the lower-case form only of
texts that differ from it in the case of ASCII letters (`lowerCase_eq_iff`).
-/
import RecordSchema.Text.LowerCase

set_option autoImplicit false

namespace RecordSchema.Text

/-! ## One character -/

/-- An ASCII capital becomes the small letter 32 places on; any other character stays. -/
theorem toLower_cases (c : Char) :
    (65 ≤ c.toNat ∧ c.toNat ≤ 90 ∧ c.toLower.toNat = c.toNat + 32) ∨ c.toLower = c := by
  unfold Char.toLower
  split
  case isTrue h =>
    have hlow : 65 ≤ c.val.toNat := UInt32.le_iff_toNat_le.mp h.1
    have hhigh : c.val.toNat ≤ 90 := UInt32.le_iff_toNat_le.mp h.2
    refine .inl ⟨hlow, hhigh, ?_⟩
    change (c.val + 32).toNat = c.val.toNat + 32
    rw [UInt32.toNat_add]
    exact Nat.mod_eq_of_lt (by change c.val.toNat + 32 < 2 ^ 32; omega)
  case isFalse => exact .inr rfl

theorem toLower_toLower (c : Char) : c.toLower.toLower = c.toLower := by
  rcases toLower_cases c with ⟨hlow, -, hc⟩ | hc
  · rcases toLower_cases c.toLower with ⟨-, hhigh, -⟩ | h
    · omega
    · exact h
  · rw [hc, hc]

/-- A character beyond ASCII is not a letter of the other case. -/
theorem toLower_eq_iff {c d : Char} (hd : 0x80 ≤ d.toNat) : c.toLower = d ↔ c = d := by
  rcases toLower_cases c with ⟨-, hhigh, hc⟩ | hc
  · constructor
    · rintro rfl
      omega
    · rintro rfl
      omega
  · rw [hc]

theorem lowerChar_toLower (c : Char) : lowerChar c.toLower = lowerChar c := by
  rcases toLower_cases c with ⟨-, hhigh, hc⟩ | hc
  · rw [lowerChar, if_pos (by omega), lowerChar, if_pos (by omega), toLower_toLower]
  · rw [hc]

/-! ## Sets of characters -/

/-- A set that has each ASCII letter in both cases or in neither does not tell them apart. -/
theorem has_toLower {runs : Runs}
    (h : ∀ i < 26, runs.has (Char.ofNat (65 + i)) = runs.has (Char.ofNat (97 + i))) (c : Char) :
    runs.has c.toLower = runs.has c := by
  rcases toLower_cases c with ⟨hlow, hhigh, hc⟩ | hc
  · have hcapital : Char.ofNat (65 + (c.toNat - 65)) = c := by
      rw [Nat.add_sub_cancel' hlow, Char.ofNat_toNat]
    have hsmall : Char.ofNat (97 + (c.toNat - 65)) = c.toLower := by
      rw [← Char.ofNat_toNat c.toLower, hc]
      congr 1
      omega
    rw [← hsmall, ← h (c.toNat - 65) (by omega), hcapital]
  · rw [hc]

theorem has_casedRuns_toLower (c : Char) : casedRuns.has c.toLower = casedRuns.has c :=
  has_toLower (by decide +kernel) c

theorem has_caseIgnorableRuns_toLower (c : Char) :
    caseIgnorableRuns.has c.toLower = caseIgnorableRuns.has c :=
  has_toLower (by decide +kernel) c

/-! ## Whole texts -/

theorem lowerAscii_lowerAscii (cs : List Char) : lowerAscii (lowerAscii cs) = lowerAscii cs := by
  rw [lowerAscii, lowerAscii, List.map_map]
  exact List.map_congr_left fun c _ => toLower_toLower c

theorem meetsCased_lowerAscii (cs : List Char) : meetsCased (lowerAscii cs) = meetsCased cs := by
  have hskip : (lowerAscii cs).dropWhile caseIgnorableRuns.has =
      (cs.dropWhile caseIgnorableRuns.has).map Char.toLower := by
    rw [lowerAscii, List.dropWhile_map]
    exact congrArg (fun p => (cs.dropWhile p).map Char.toLower)
      (funext has_caseIgnorableRuns_toLower)
  unfold meetsCased
  rw [hskip]
  cases cs.dropWhile caseIgnorableRuns.has with
  | nil => rfl
  | cons c rest => exact has_casedRuns_toLower c

/-- A sigma takes the same form between texts that differ in the case of ASCII letters. -/
theorem lowerSigma_lowerAscii (before after : List Char) :
    lowerSigma (lowerAscii before) (lowerAscii after) = lowerSigma before after := by
  rw [lowerSigma, lowerSigma, meetsCased_lowerAscii, meetsCased_lowerAscii]

theorem lowerAfter_lowerAscii (before cs : List Char) :
    lowerAfter (lowerAscii before) (lowerAscii cs) = lowerAfter before cs := by
  induction cs generalizing before with
  | nil => rfl
  | cons c rest ih =>
      have hsigma : c.toLower = '\u03A3' ↔ c = '\u03A3' := toLower_eq_iff (by decide)
      change lowerAfter (lowerAscii before) (c.toLower :: lowerAscii rest) = _
      rw [lowerAfter, lowerAfter, lowerSigma_lowerAscii, lowerChar_toLower]
      simp only [hsigma]
      -- the letter that is passed is in front of the rest in lower case as well
      exact congrArg _ (ih (c :: before))

/-- Texts that differ in the case of ASCII letters have the same lower-case form. -/
theorem lowerCase_lowerAscii (cs : List Char) : lowerCase (lowerAscii cs) = lowerCase cs :=
  lowerAfter_lowerAscii [] cs

/-! ## Characters beyond ASCII -/

/-- Every run of capitals has its small letters at valid code points beyond ASCII, except that of
the Kelvin sign. -/
theorem target_of_mem_caseRuns : ∀ run ∈ caseRuns,
    run = ⟨0x212A, 0x212A, 1, 0x6B⟩ ∨ 0x80 ≤ run.target ∧
      (run.target + (run.last - run.first) < 0xD800 ∨
        0xDFFF < run.target ∧ run.target + (run.last - run.first) < 0x110000) := by
  decide +kernel

/-- A small letter from the table is beyond ASCII unless it is that of the Kelvin sign. -/
theorem lower?_of_mem_caseRuns {run : CaseRun} (hrun : run ∈ caseRuns) {n m : Nat}
    (h : run.lower? n = some m) : n = 0x212A ∧ m = 0x6B ∨ 0x80 ≤ (Char.ofNat m).toNat := by
  obtain ⟨⟨hfirst, hlast, -⟩, hm⟩ := Option.ite_none_right_eq_some.mp h
  have hm : run.target + (n - run.first) = m := Option.some.inj hm
  rcases target_of_mem_caseRuns run hrun with rfl | ⟨hlow, hvalid⟩
  · left
    dsimp only at hfirst hlast hm
    omega
  · right
    have hisValid : m.isValidChar := by
      unfold Nat.isValidChar
      omega
    rw [Char.ofNat, dif_pos hisValid]
    change 0x80 ≤ m
    omega

/-- The small form of a character beyond ASCII has no character of ASCII in it, except those of two
characters. -/
theorem exists_ascii_lowerChar_iff {c : Char} (hc : 0x80 ≤ c.toNat) :
    (∃ d ∈ lowerChar c, d.toNat < 0x80) ↔ c = '\u212A' ∨ c = '\u0130' := by
  constructor
  · rintro ⟨d, hd, hascii⟩
    rw [lowerChar, if_neg (by omega)] at hd
    by_cases hdotted : c = '\u0130'
    · exact .inr hdotted
    · rw [if_neg hdotted] at hd
      cases hfound : caseRuns.findSome? fun run => run.lower? c.toNat with
      | none =>
          rw [hfound] at hd
          rw [List.mem_singleton.mp hd] at hascii
          omega
      | some n =>
          rw [hfound] at hd
          rw [List.mem_singleton.mp hd] at hascii
          obtain ⟨run, hrun, hlower⟩ := List.exists_of_findSome?_eq_some hfound
          rcases lower?_of_mem_caseRuns hrun hlower with ⟨hkelvin, -⟩ | hbeyond
          · left
            rw [← Char.ofNat_toNat c, hkelvin]
          · omega
  · rintro (rfl | rfl)
    · exact ⟨'k', by decide +kernel, by decide⟩
    · exact ⟨'i', by decide, by decide⟩

/-- A character beyond ASCII leaves a mark in its small form: a character beyond ASCII, or a `k`. -/
theorem exists_mark_lowerChar {c : Char} (hc : 0x80 ≤ c.toNat) :
    ∃ d ∈ lowerChar c, 0x80 ≤ d.toNat ∨ d = 'k' := by
  by_cases hspecial : c = '\u212A' ∨ c = '\u0130'
  · rcases hspecial with rfl | rfl
    · exact ⟨'k', by decide +kernel, .inr rfl⟩
    · exact ⟨'\u0307', by decide, .inl (by decide)⟩
  · have hne : lowerChar c ≠ [] := by
      rw [lowerChar, if_neg (by omega), if_neg (fun h => hspecial (.inr h))]
      split <;> simp
    obtain ⟨d, hd⟩ := List.exists_mem_of_ne_nil _ hne
    refine ⟨d, hd, .inl ?_⟩
    rcases Nat.lt_or_ge d.toNat 0x80 with hascii | hbeyond
    · exact absurd ((exists_ascii_lowerChar_iff hc).mp ⟨d, hd, hascii⟩) hspecial
    · exact hbeyond

theorem lowerSigma_beyond (before after : List Char) : 0x80 ≤ (lowerSigma before after).toNat := by
  unfold lowerSigma
  split <;> decide

/-! ## Texts in lower case that are ASCII -/

/-- A text that is not ASCII has a mark of that in its lower-case form. -/
theorem exists_mark_lowerAfter {cs : List Char} {c : Char} (hmem : c ∈ cs) (hc : 0x80 ≤ c.toNat)
    (before : List Char) : ∃ d ∈ lowerAfter before cs, 0x80 ≤ d.toNat ∨ d = 'k' := by
  induction cs generalizing before with
  | nil => cases hmem
  | cons e rest ih =>
      rw [lowerAfter]
      rcases List.mem_cons.mp hmem with rfl | hrest
      · by_cases hsigma : c = '\u03A3'
        · rw [if_pos hsigma]
          exact ⟨_, List.mem_append_left _ List.mem_cons_self, .inl (lowerSigma_beyond before rest)⟩
        · rw [if_neg hsigma]
          obtain ⟨d, hd, hmark⟩ := exists_mark_lowerChar hc
          exact ⟨d, List.mem_append_left _ hd, hmark⟩
      · obtain ⟨d, hd, hmark⟩ := ih hrest (e :: before)
        exact ⟨d, List.mem_append_right _ hd, hmark⟩

/-- In a text of ASCII only the capitals of ASCII are changed. -/
theorem lowerAfter_of_ascii {cs : List Char} (h : ∀ c ∈ cs, c.toNat < 0x80) (before : List Char) :
    lowerAfter before cs = lowerAscii cs := by
  induction cs generalizing before with
  | nil => rfl
  | cons c rest ih =>
      have hc : c.toNat < 0x80 := h c List.mem_cons_self
      have hsigma : c ≠ '\u03A3' := by
        rintro rfl
        exact absurd hc (by decide)
      rw [lowerAfter, if_neg hsigma, lowerChar, if_pos hc,
        ih (fun d hd => h d (List.mem_cons_of_mem c hd))]
      rfl

/-- A text of ASCII without a `k` is the lower-case form exactly of the texts that have it as their
form in ASCII. -/
theorem lowerCase_eq_iff {cs small : List Char} (hascii : ∀ d ∈ small, d.toNat < 0x80)
    (hkelvin : 'k' ∉ small) : lowerCase cs = small ↔ lowerAscii cs = small := by
  by_cases hcs : ∀ c ∈ cs, c.toNat < 0x80
  · rw [lowerCase, lowerAfter_of_ascii hcs]
  · -- neither form is in ASCII without a `k`: one has a mark, the other the character itself
    obtain ⟨c, hmem, hc⟩ : ∃ c ∈ cs, 0x80 ≤ c.toNat := by simpa using hcs
    constructor
    · rintro rfl
      obtain ⟨d, hd, hbeyond | rfl⟩ := exists_mark_lowerAfter hmem hc []
      · exact absurd (hascii d hd) (by omega)
      · exact absurd hd hkelvin
    · rintro rfl
      have hsame : c.toLower = c := by
        rcases toLower_cases c with ⟨-, hhigh, -⟩ | h
        · omega
        · exact h
      have hlower : c ∈ lowerAscii cs := List.mem_map.mpr ⟨c, hmem, hsame⟩
      exact absurd (hascii c hlower) (by omega)

end RecordSchema.Text
