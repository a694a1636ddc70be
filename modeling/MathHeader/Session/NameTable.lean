import MathHeader.Error
import MathHeader.Identifier

/-!
# Claimed names

Every name of the header is claimed before it is emitted, together with a description of what
claims it.  A claim fails if the name cannot be declared or if it has an owner already; the first
owner keeps the name.

A `NameTable` records the claims, the latest first.  It is used through `owner?` only, and
`owner?_claim` says what a claim does to it.
-/

namespace MathHeader

/-! ## Owners -/

/-- The claimed names with their owners, the latest claim first. -/
structure NameTable where
  entries : List (String × String)
deriving DecidableEq, Repr

namespace NameTable

def empty : NameTable :=
  ⟨[]⟩

/-- The owner of a name, if it is claimed. -/
def owner? (t : NameTable) (name : String) : Option String :=
  t.entries.lookup name

/-- The count of claimed names. -/
def size (t : NameTable) : Nat :=
  t.entries.length

/-- The claimed names, the latest first. -/
def names (t : NameTable) : List String :=
  t.entries.map (·.1)

@[simp] theorem owner?_empty (name : String) : empty.owner? name = none := rfl

theorem owner?_eq_none_iff {t : NameTable} {name : String} :
    t.owner? name = none ↔ name ∉ t.names := by
  simp only [owner?, names, List.lookup_eq_none_iff, List.mem_map, bne_iff_ne]
  constructor
  · rintro h ⟨p, hp, rfl⟩
    exact h p hp rfl
  · intro h p hp e
    exact h ⟨p, hp, e.symm⟩

/-! ## Claims -/

/-- The table after `owner` has claimed `name`. -/
def claim (t : NameTable) (name owner : String) : Except GenError NameTable :=
  if isIdentifier name then
    match t.owner? name with
    | none => .ok ⟨(name, owner) :: t.entries⟩
    | some first => .error (.nameCollision name first owner)
  else .error (.invalidIdentifier name)

theorem claim_eq_ok_iff {t u : NameTable} {name owner : String} :
    t.claim name owner = .ok u ↔
      isIdentifier name = true ∧ t.owner? name = none ∧ u = ⟨(name, owner) :: t.entries⟩ := by
  unfold claim
  split
  next h =>
    cases ht : t.owner? name <;> simp [h, eq_comm]
  next h => simp [h]

theorem owner?_claim {t u : NameTable} {name owner : String} (h : t.claim name owner = .ok u)
    (other : String) : u.owner? other = if other = name then some owner else t.owner? other := by
  obtain ⟨_, _, rfl⟩ := claim_eq_ok_iff.1 h
  by_cases ho : other = name
  · simp [owner?, ho]
  · simp [owner?, ho, List.lookup_cons, beq_false_of_ne ho]

theorem size_claim {t u : NameTable} {name owner : String} (h : t.claim name owner = .ok u) :
    u.size = t.size + 1 := by
  obtain ⟨_, _, rfl⟩ := claim_eq_ok_iff.1 h
  rfl

end NameTable

end MathHeader
