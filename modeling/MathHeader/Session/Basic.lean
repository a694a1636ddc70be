import MathHeader.Session.NameTable
import MathHeader.Session.Stats

/-!
# Sessions

A session is the state of one generation: the names that have been claimed and the statistics.
Names come into it in three ways.  A *function* counts for its category, a *declaration* is any
other name of the header, and a plain claim counts nowhere.

A step of a session either changes it or fails and leaves it as it was.  `Step` makes the steps
values, so that a whole run, `Session.run`, is a fold over a list of them.
-/

namespace MathHeader

/-! ## The state -/

/-- The state of a generation. -/
structure Session where
  names : NameTable
  stats : Stats
deriving DecidableEq, Repr

namespace Session

/-- The state at the start. -/
def fresh : Session :=
  ⟨.empty, .zero⟩

/-- The session after a name has been claimed. -/
def claim (s : Session) (name owner : String) : Except GenError Session := do
  pure { s with names := ← s.names.claim name owner }

def countDeclaration (s : Stats) : Stats :=
  { s with declarations := s.declarations + 1 }

/-- The session after the name of a macro, structure or type has been claimed. -/
def claimDeclaration (s : Session) (name owner : String) : Except GenError Session := do
  pure ⟨← s.names.claim name owner, countDeclaration s.stats⟩

def countFunction (s : Stats) (category : Category) (v : Variant) : Stats :=
  { s with
    functions := s.functions + 1
    derived := if v = .base then s.derived else s.derived + 1
    byCategory := s.byCategory.increment category }

def claimFunction (s : Session) (category : Category) (key : SymbolKey) (name : String) :
    Except GenError Session := do
  pure ⟨← s.names.claim name key.describe, countFunction s.stats category key.variant⟩

/-- The statistics with one more section of a given size. -/
def countSection (s : Stats) (bytes : Nat) : Stats :=
  { s with sections := s.sections + 1, bytes := s.bytes + bytes }

/-- The session after a section of a given size. -/
def recordSection (s : Session) (bytes : Nat) : Session :=
  { s with stats := countSection s.stats bytes }

end Session

/-! ## Runs -/

/-- A step of a session. -/
inductive Step where
  /-- A text is looked up; nothing is claimed. -/
  | intern (text : String)
  | claim (name owner : String)
  | declare (name owner : String)
  | define (category : Category) (key : SymbolKey) (name : String)
  | finish (title : String) (bytes : Nat)
deriving DecidableEq, Repr

namespace Step

/-- The session after a step that succeeds. -/
def apply (step : Step) (s : Session) : Except GenError Session :=
  match step with
  | intern _ => .ok s
  | claim name owner => s.claim name owner
  | declare name owner => s.claimDeclaration name owner
  | define category key name => s.claimFunction category key name
  | finish _ bytes => .ok (s.recordSection bytes)

/-- The session after a step, which is the same session if the step fails. -/
def next (step : Step) (s : Session) : Session :=
  match step.apply s with
  | .ok s => s
  | .error _ => s

end Step

namespace Session

/-- The session after some steps, those that fail having no effect. -/
def run (s : Session) (steps : List Step) : Session :=
  steps.foldl (fun s step => step.next s) s

theorem run_append (s : Session) (front rest : List Step) :
    s.run (front ++ rest) = (s.run front).run rest := by
  simp [run]

end Session

end MathHeader
