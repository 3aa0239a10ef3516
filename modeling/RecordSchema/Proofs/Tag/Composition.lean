/-
Tags behind tags.

Two tags with blanks between them are read as the first and then as the second: no token reaches
over a blank outside quotes, so nothing that stands behind the blanks bears on what stands in front
of them. The one exception is a quote that is never closed, since the text behind it may close it.
All other faults are reported by the word they start with, and a word ends at the first blank at the
latest.

What remains for the second tag to fail at is a key that the first one has taken (`parse_append`).
-/
import RecordSchema.Proofs.Tag.Meaning
import RecordSchema.Proofs.Tag.Scanning

set_option autoImplicit false

namespace RecordSchema.Tag

open Text

/-! ## Texts behind a place where a token may end -/

section Behind

variable {cs after : List Char}

/-- A word does not go on behind a place where a token may end. -/
theorem word_append (cs : List Char) (hafter : EndsToken after) : word (cs ++ after) = word cs := by
  unfold word
  have hstop : after.takeWhile (fun c => !isBlank c) = [] := by
    cases after with
    | nil => rfl
    | cons c after => simp [endsToken_cons_iff.mp hafter]
  rw [List.takeWhile_append, hstop, List.append_nil]
  split
  · -- there is no blank in the first text, so the word is all of it
    rename_i hall
    exact ((List.takeWhile_prefix _).eq_of_length hall).symm
  · rfl

/-- A fault is the same fault whatever stands behind such a place, unless a quote is left open. -/
theorem Fault.append {error : TokenError} (h : Fault cs error)
    (hclosed : ∀ key, error ≠ .unterminatedValue key) (hafter : EndsToken after) :
    Fault (cs ++ after) error := by
  cases h with
  | @missingKey c rest h =>
      rw [← word_append (c :: rest) hafter]
      exact .missingKey h
  | @unquoted key rest hkey h =>
      have hhead : (rest ++ after).head? ≠ some '"' := by
        cases rest with
        | cons c rest => exact h
        | nil =>
            -- the value would start behind the end, where a blank stands
            intro hquote
            exact absurd (hafter '"' hquote) (by decide)
      rw [← word_append rest hafter, List.append_assoc]
      exact .unquoted hkey hhead
  | unterminated hkey hbody => exact absurd rfl (hclosed _)
  -- the quote that closes the value is in the text already, so the value is the same
  | @glued key body rest c hkey hbody hc =>
      have hfault : Fault (key ++ ':' :: '"' :: (body ++ '"' :: c :: (rest ++ after))) _ :=
        .glued hkey hbody hc
      rw [← word_append ('"' :: (body ++ '"' :: c :: rest)) hafter]
      simpa only [List.append_assoc, List.cons_append] using hfault
  | @noColon key rest hkey =>
      rw [← word_append ('"' :: rest) hafter, List.append_assoc]
      exact .noColon hkey

end Behind

/-! ## Texts behind blanks -/

/-- A tag may be followed by blanks. -/
theorem WellFormed.append_blanks {cs gap : List Char} {toks : List Token} (h : WellFormed cs toks)
    (hgap : Blanks gap) : WellFormed (cs ++ gap) toks := by
  cases h with
  | blank hblanks => exact .blank (hblanks.append hgap)
  | tokens hbefore htokens hafter =>
      rw [List.append_assoc, List.append_assoc]
      exact .tokens hbefore htokens (hafter.append hgap)

/-- A token may start behind blanks. -/
theorem Blanks.startsToken_append {gap : List Char} (hgap : Blanks gap) (hne : gap ≠ [])
    (front : List Char) : StartsToken (front ++ gap) :=
  StartsToken.append (fun c hc => hgap c (List.mem_of_getLast? hc)) hne front

section Gap

variable {cs gap : List Char} {toks : List Token} (hgap : Blanks gap) (hne : gap ≠ [])

include hgap hne

/-- Behind a tag and blanks the scan goes on as if it started there. -/
theorem scan_append_of_ok (h : scan cs = (toks, none)) (rest : List Char) :
    scan (cs ++ (gap ++ rest)) = (toks ++ (scan rest).1, (scan rest).2) := by
  rw [← List.append_assoc]
  exact ((scan_eq_ok_iff.mp h).append_blanks hgap).scan_append rest
    (Blanks.startsToken_append hgap hne cs)

/-- A scan that ends at a fault ends there whatever stands behind the blanks, unless a quote is left
open. -/
theorem scan_append_of_fault {error : TokenError} (h : scan cs = (toks, some error))
    (hclosed : ∀ key, error ≠ .unterminatedValue key) (rest : List Char) :
    scan (cs ++ (gap ++ rest)) = (toks, some error) := by
  obtain ⟨before, tail, rfl, hbefore, hstart, hfault⟩ := scan_eq_error_iff.mp h
  refine scan_eq_error_iff.mpr ⟨before, tail ++ (gap ++ rest), List.append_assoc _ _ _, hbefore,
    hstart, hfault.append hclosed (Blanks.endsToken_append hgap hne)⟩

/-- The tokens of a text are the first ones of every text that goes on behind blanks. -/
theorem exists_scan_append (cs rest : List Char) :
    ∃ more, (scan (cs ++ (gap ++ rest))).1 = (scan cs).1 ++ more := by
  rcases hscan : scan cs with ⟨toks, _ | error⟩
  · rw [scan_append_of_ok hgap hne hscan]
    exact ⟨_, rfl⟩
  · -- the tokens are those of the tag in front of the fault, which may be another fault now
    obtain ⟨before, tail, rfl, hbefore, hstart, -⟩ := scan_eq_error_iff.mp hscan
    rw [List.append_assoc, hbefore.scan_append _ hstart]
    exact ⟨_, rfl⟩

end Gap

/-! ## Capabilities behind capabilities -/

namespace Capabilities

/-- Reading a tag, blanks and any further text comes to reading the tag and then the text. A second
tag is taken in behind the first unless they have a key in common, and is then refused for the first
of its capabilities whose key is taken. Where the first is refused already, and not for a quote that
it leaves open, what stands behind the blanks makes no difference. -/
theorem parse_append {t w u : String} (hblanks : Blanks w.toList) (hne : w ≠ "") :
    (∀ a b, parse t = .ok a → parse u = .ok b →
      ((∀ c ∈ b.items, c.key ∉ a.keys) → parse (t ++ w ++ u) = .ok ⟨a.items ++ b.items⟩) ∧
      ∀ c, b.items.find? (fun c => a.contains c.key) = some c →
        parse (t ++ w ++ u) = .error (.duplicate c.key.text)) ∧
    ∀ e, parse t = .error e → (∀ key, e ≠ .token (.unterminatedValue key)) →
      parse (t ++ w ++ u) = .error e := by
  have hnil : w.toList ≠ [] := by simpa using hne
  have htext : tokens (t ++ w ++ u) = scan (t.toList ++ (w.toList ++ u.toList)) := by
    rw [tokens, String.toList_append, String.toList_append, List.append_assoc]
  refine ⟨fun a b ha hb => ?_, fun e he hclosed => ?_⟩
  · obtain ⟨first, hfirst, ha, hakeys⟩ := parse_eq_ok_iff.mp ha
    obtain ⟨second, hsecond, hb, hbkeys⟩ := parse_eq_ok_iff.mp hb
    have hadd : empty.addAll first = .ok a :=
      addAll_eq_ok_iff.mpr ⟨a.items, ha, (newTo_empty_iff _).mpr hakeys, rfl⟩
    have hboth : parse (t ++ w ++ u) = a.addAll second := by
      rw [parse_eq, htext, scan_append_of_ok hblanks hnil hfirst, ← tokens, hsecond, addAll_append,
        hadd]
      change a.addAll second >>= Except.ok = _
      cases a.addAll second <;> rfl
    rw [hboth, addAll_of_means hb hbkeys]
    constructor
    · intro hfree
      have hnone : b.items.find? (fun c => a.contains c.key) = none := by
        simpa [List.find?_eq_none, contains_eq_true_iff] using hfree
      rw [hnone]
    · intro c hc
      rw [hc]
  · rw [parse_eq] at he
    rw [parse_eq, htext]
    rcases bind_eq_error_iff.mp he with hadd | ⟨caps, hadd, hfault⟩
    · -- a token of the first text is refused, and it is among the tokens of the whole
      obtain ⟨more, hmore⟩ := exists_scan_append hblanks hnil t.toList u.toList
      rw [hmore, ← tokens, addAll_append, hadd]
      rfl
    · rcases hscan : tokens t with ⟨toks, _ | error⟩
      · rw [hscan] at hfault
        cases hfault
      · rw [hscan] at hadd hfault
        cases hfault
        have hopen : ∀ key, error ≠ .unterminatedValue key := by
          rintro key rfl
          exact hclosed key rfl
        rw [scan_append_of_fault hblanks hnil hscan hopen, hadd]
        rfl

/-- Quoted blanks and a quoted colon on both sides of blanks of several kinds; the same tag behind
one whose keys it has; and a fault whose word is cut off by the blank, with an open quote behind it.
-/
theorem parse_append_quoted :
    parse ("id index:\" hash \"" ++ "\t\u3000" ++ "NameInDb:\"a: b\" unique") =
        .ok ⟨[.id, .index .hash, .nameInDb "a: b", .unique]⟩ ∧
      parse ("id index:\" hash \"" ++ "\n" ++ "unique Index date ID") =
        .error (.duplicate "index") ∧
      parse ("id date:\"x\"y z" ++ " " ++ "unique:\"") =
        .error (.token (.invalidValue "date" "\"x\"y")) := by
  have hfirst : parse "id index:\" hash \"" = .ok ⟨[.id, .index .hash]⟩ := by decide +kernel
  refine ⟨?_, ?_, ?_⟩
  · have hsecond : parse "NameInDb:\"a: b\" unique" = .ok ⟨[.nameInDb "a: b", .unique]⟩ := by
      decide +kernel
    exact ((parse_append (by decide) (by decide)).1 _ _ hfirst hsecond).1 (by decide)
  · have hsecond : parse "unique Index date ID" = .ok ⟨[.unique, .index .default, .date, .id]⟩ := by
      decide +kernel
    refine ((parse_append (by decide) (by decide)).1 _ _ hfirst hsecond).2 (.index .default) ?_
    decide
  · refine (parse_append (by decide) (by decide)).2 _ (by decide +kernel) ?_
    rintro key ⟨⟩

end Capabilities

end RecordSchema.Tag
