/-
Sets of characters given as runs of code points.

A character property of the Unicode standard is a set with a few hundred maximal runs. Writing the
runs down and testing membership by two comparisons keeps a property a plain datum: a statement
about all its members is a statement about finitely many bounds.
-/

set_option autoImplicit false

namespace RecordSchema.Text

/-- A set of code points as a list of runs, each by its first and last member. -/
abbrev Runs := List (Nat × Nat)

/-- Whether a character lies in one of the runs. -/
def Runs.has (runs : Runs) (c : Char) : Bool :=
  runs.any fun run => run.1 ≤ c.toNat && c.toNat ≤ run.2

/-- A character is in the set exactly when some run has it between its ends. -/
theorem Runs.has_iff (runs : Runs) (c : Char) :
    runs.has c = true ↔ ∃ run ∈ runs, run.1 ≤ c.toNat ∧ c.toNat ≤ run.2 := by
  simp [Runs.has]

end RecordSchema.Text
