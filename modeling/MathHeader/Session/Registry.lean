import MathHeader.Session.Basic

/-!
# Registries

A registry is a session together with the texts that it keeps.  A text that comes into it is kept
once, and whoever offers it again gets the kept one.

The parts of a registry are changed in place, one after another, and nothing is taken back: an
action that fails leaves behind what it has changed so far.  So it matters in which order an action
does its work.  A claim looks at the name and at its owner before it keeps anything, and the
statistics are changed once the name is claimed.
-/

namespace MathHeader

/-! ## The state -/

/-- A session and the texts that it keeps. -/
structure Registry where
  /-- The texts, the latest first. -/
  texts : List String
  session : Session
deriving DecidableEq, Repr

namespace Registry

/-- The registry at the start. -/
def fresh : Registry :=
  ⟨[], .fresh⟩

/-- A change of a registry with an answer.  If it fails, what it has changed by then stays. -/
abbrev Action := EStateM GenError Registry

def keep (r : Registry) (text : String) : Registry :=
  { r with texts := text :: r.texts }

/-- The registry with one more owned name. -/
def own (r : Registry) (name owner : String) : Registry :=
  { r with session := ⟨⟨(name, owner) :: r.session.names.entries⟩, r.session.stats⟩ }

def count (r : Registry) (change : Stats → Stats) : Registry :=
  { r with session := ⟨r.session.names, change r.session.stats⟩ }

/-! ## Actions -/

/-- Keeps a text, unless it is kept already.  The answer is the kept text. -/
def intern (text : String) : Action String := do
  match (← get).texts.find? (· == text) with
  | some kept => pure kept
  | none =>
    modify (·.keep text)
    pure text

/-- Claims a name for an owner.  The answer is the name. -/
def claim (name owner : String) : Action String := do
  if isIdentifier name then
    match (← get).session.names.owner? name with
    | some first => throw (.nameCollision name first owner)
    | none =>
      let name ← intern name
      let owner ← intern owner
      modify (·.own name owner)
      pure name
  else throw (.invalidIdentifier name)

/-- Claims a name, and changes the statistics once it is claimed. -/
def claimCounted (name owner : String) (change : Stats → Stats) : Action String := do
  let name ← claim name owner
  modify (·.count change)
  pure name

/-- Claims the name of a macro, structure or type. -/
def declare (name owner : String) : Action String :=
  claimCounted name owner Session.countDeclaration

def define (category : Category) (key : SymbolKey) (name : String) : Action String :=
  claimCounted name key.describe (Session.countFunction · category key.variant)

/-- Counts a section of a given size. -/
def finish (bytes : Nat) : Action Unit :=
  modify (·.count (Session.countSection · bytes))

end Registry

/-! ## Steps and runs -/

/-- Performs a step.  The answer is a text, unless the step ends a section. -/
def Step.perform : Step → Registry.Action (Option String)
  | intern text => some <$> Registry.intern text
  | claim name owner => some <$> Registry.claim name owner
  | declare name owner => some <$> Registry.declare name owner
  | define category key name => some <$> Registry.define category key name
  | finish _ bytes => do
    Registry.finish bytes
    pure none

/-- What a step comes to: its answer or its failure. -/
def Step.answer (step : Step) (r : Registry) : Except GenError (Option String) :=
  match step.perform r with
  | .ok text? _ => .ok text?
  | .error e _ => .error e

namespace Registry

/-- The registry after a step, whether the step succeeds or fails. -/
def next (r : Registry) (step : Step) : Registry :=
  match step.perform r with
  | .ok _ r' => r'
  | .error _ r' => r'

/-- The registry after some steps. -/
def run (r : Registry) (steps : List Step) : Registry :=
  steps.foldl next r

def answers (r : Registry) : List Step → List (Step × Except GenError (Option String))
  | [] => []
  | step :: steps => (step, step.answer r) :: (r.next step).answers steps

end Registry

end MathHeader
