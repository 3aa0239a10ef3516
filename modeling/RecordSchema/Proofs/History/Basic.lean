/-
Histories of runs.

A model file lives through many runs, and each of them may come from another unit and be set
differently. A request is what a run is given besides the snapshot; a history is a list of requests.
A run that is refused leaves the snapshot as it was, so a history goes through whether or not its
runs do.
-/
import RecordSchema.Proofs.Derive

set_option autoImplicit false

namespace RecordSchema

/-! ## Requests -/

/-- What a run is given besides the previous snapshot. -/
structure Request where
  nameSpace : String
  declarations : List Declaration
  options : DeriveOptions
  deriving Repr, DecidableEq

namespace Request

/-- What the run of a request against a snapshot gives. -/
def derive (q : Request) (s : Snapshot) : Except SchemaError (Model × Snapshot) :=
  (deriveModel q.nameSpace q.declarations s q.options).result

/-- No two fields of a declaration have the same name. -/
def FieldsDistinct (q : Request) : Prop := ∀ d ∈ q.declarations, d.FieldsDistinct

instance (q : Request) : Decidable q.FieldsDistinct :=
  inferInstanceAs (Decidable (∀ d ∈ q.declarations, d.FieldsDistinct))

end Request

/-! ## Histories -/

namespace Snapshot

/-- The snapshot after a request: the merged one, or the same if the run was refused. -/
def after (s : Snapshot) (q : Request) : Snapshot :=
  match q.derive s with
  | .ok (_, merged) => merged
  | .error _ => s

/-- The snapshot after some requests. -/
def afterAll (s : Snapshot) (qs : List Request) : Snapshot := qs.foldl after s

/-- The model that a request gives, if its run is not refused. -/
def model? (s : Snapshot) (q : Request) : Option Model := (q.derive s).toOption.map (·.1)

/-- The models that some requests give one after the other. -/
def models (s : Snapshot) : List Request → List Model
  | [] => []
  | q :: qs => (s.model? q).toList ++ (s.after q).models qs

/-- Either a request changes nothing and gives nothing, or its run comes out. -/
theorem after_cases {q : Request} (hq : q.FieldsDistinct) (s : Snapshot) :
    (s.after q = s ∧ s.model? q = none) ∨
      ∃ model, s.model? q = some model ∧
        Derives q.nameSpace q.declarations s q.options model (s.after q) := by
  unfold after model?
  cases h : q.derive s with
  | error e => exact Or.inl ⟨rfl, rfl⟩
  | ok out =>
      obtain ⟨model, merged⟩ := out
      exact Or.inr ⟨model, rfl, deriveModel_of_ok hq h⟩

/-- What every run that comes out keeps holds after a history. -/
theorem afterAll_of_step {P : Snapshot → Prop}
    (hstep : ∀ {nameSpace declarations s options model merged}, P s →
      Derives nameSpace declarations s options model merged → P merged)
    {s : Snapshot} (hs : P s) {qs : List Request} (hqs : ∀ q ∈ qs, q.FieldsDistinct) :
    P (s.afterAll qs) := by
  induction qs generalizing s with
  | nil => exact hs
  | cons q qs ih =>
      refine ih ?_ fun q' hq' => hqs q' (List.mem_cons_of_mem _ hq')
      rcases after_cases (hqs q List.mem_cons_self) s with ⟨hsame, -⟩ | ⟨model, -, hderives⟩
      · rwa [hsame]
      · exact hstep hs hderives

end Snapshot

/-! ## A history with every turn in it -/

/-- An entity is declared and dropped again, a run without an identifying field is refused, and the
entity comes back in another unit with its properties reordered and one replaced. -/
def turningHistory : List Request :=
  [⟨"app", [.ofParts "User" [("id", "i64", "id"), ("name", "String", "")]], ⟨.hashed, some "a"⟩⟩,
    ⟨"app", [.ofParts "Tag" [("id", "i64", "id")]], ⟨.sequential, some "b"⟩⟩,
    ⟨"app", [], ⟨.hashed, some "a"⟩⟩,
    ⟨"app", [.ofParts "Broken" [("name", "String", "")]], ⟨.hashed, some "a"⟩⟩,
    ⟨"other", [.ofParts "User" [("email", "String", ""), ("id", "i64", "id")]],
      ⟨.sequential, some "b"⟩⟩]

end RecordSchema
