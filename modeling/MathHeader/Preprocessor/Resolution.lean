import MathHeader.Preprocessor.Node

/-!
# Resolving a block for a compiler

A compiler predefines some macros.  Resolving a block for it, by `resolve`, means doing what its
preprocessor would do: take the first arm of a chain whose condition holds, define what is defined,
and stop at the first `#error`.  Inside conditions and values a macro that is not defined counts as
zero.

A `MacroTable` records definitions, the latest first, so that the value of a macro is that of its
first entry; `MacroTable.value?_define` is all that is needed to know about it.
-/

namespace MathHeader.Preprocessor

/-! ## Values of macros -/

/-- The definitions of macros, the latest first. -/
structure MacroTable where
  entries : List (String × Int64)
deriving DecidableEq

namespace MacroTable

/-- The table without a definition. -/
def empty : MacroTable :=
  ⟨[]⟩

/-- The value of a macro, if it is defined. -/
def value? (t : MacroTable) (name : String) : Option Int64 :=
  t.entries.lookup name

def isDefined (t : MacroTable) (name : String) : Bool :=
  (t.value? name).isSome

/-- The value of a macro in a condition, where an undefined macro counts as zero. -/
def valueOrZero (t : MacroTable) (name : String) : Int64 :=
  (t.value? name).getD 0

/-- The table after one more definition. -/
def define (t : MacroTable) (name : String) (value : Int64) : MacroTable :=
  ⟨(name, value) :: t.entries⟩

/-- The table after the given definitions, in order. -/
def ofList (definitions : List (String × Int64)) : MacroTable :=
  definitions.foldl (fun t (name, value) => t.define name value) empty

@[simp] theorem value?_empty (name : String) : empty.value? name = none := rfl

theorem value?_define (t : MacroTable) (name other : String) (value : Int64) :
    (t.define name value).value? other = if other = name then some value else t.value? other := by
  by_cases h : other = name
  · simp [value?, define, h]
  · simp [value?, define, h, List.lookup_cons, beq_false_of_ne h]

end MacroTable

/-! ## Evaluation -/

/-- The value of a side of an equation. -/
def Operand.eval (t : MacroTable) : Operand → Int64
  | named name => t.valueOrZero name
  | int value => value

namespace Condition

mutual

def holds (t : MacroTable) : Condition → Bool
  | defined name => t.isDefined name
  | equal left right => left.eval t == right.eval t
  | not c => !c.holds t
  | any terms => anyHolds t terms
  | all terms => allHold t terms

def anyHolds (t : MacroTable) : List Condition → Bool
  | [] => false
  | c :: cs => c.holds t || anyHolds t cs

def allHold (t : MacroTable) : List Condition → Bool
  | [] => true
  | c :: cs => c.holds t && allHold t cs

end

end Condition

namespace Value

mutual

/-- The number that a value stands for. -/
def eval (t : MacroTable) : Value → Int64
  | flag => 1
  | int value => value
  | hex value => value
  | bit position => 1 <<< Int64.ofNat position
  | named name => t.valueOrZero name
  | union parts => unionFrom t 0 parts

/-- The bits of `seen` and of the values. -/
def unionFrom (t : MacroTable) (seen : Int64) : List Value → Int64
  | [] => seen
  | v :: vs => unionFrom t (seen ||| v.eval t) vs

end

end Value

/-! ## What a block comes to -/

/-- The macros and the included headers so far. -/
structure Resolution where
  macros : MacroTable
  includes : List String
deriving DecidableEq

/-- An error that a block stopped at. -/
structure Diagnostic where
  message : String
deriving DecidableEq, Repr

/-- The line that a compiler shows for an error. -/
def Diagnostic.text (d : Diagnostic) : String :=
  errorLine d.message

/-- The resolution after a definition. -/
def Resolution.define (r : Resolution) (name : String) (value : Value) : Resolution :=
  { r with macros := r.macros.define name (value.eval r.macros) }

mutual

/-- The resolution after a node. -/
def Node.walk : Node → Resolution → Except Diagnostic Resolution
  | .chain _ arms, r => arms.walk r
  | .define name value, r => .ok (r.define name value)
  | .default name value, r =>
    .ok (if r.macros.isDefined name then r else r.define name value)
  | .include header, r => .ok { r with includes := r.includes ++ [header] }
  | .error message, _ => .error ⟨message⟩
  | .comment _, r => .ok r
  | .blank, r => .ok r

/-- The resolution after the first alternative whose condition holds. -/
def Arms.walk : Arms → Resolution → Except Diagnostic Resolution
  | .arm condition body rest, r =>
    if condition.holds r.macros then walkBlock body r else rest.walk r
  | .done, r => .ok r
  | .otherwise body, r => walkBlock body r
  | .fail message, _ => .error ⟨message⟩

/-- The resolution after the nodes of a block. -/
def walkBlock : List Node → Resolution → Except Diagnostic Resolution
  | [], r => .ok r
  | n :: ns, r =>
    match n.walk r with
    | .ok r => walkBlock ns r
    | .error d => .error d

end

/-- What a block comes to for a compiler that predefines the given macros; of two definitions of
one macro the later counts. -/
def resolve (nodes : List Node) (predefined : List (String × Int64)) :
    Except Diagnostic Resolution :=
  walkBlock nodes ⟨.ofList predefined, []⟩

end MathHeader.Preprocessor
