import MathHeader.Operation
import MathHeader.Text.Lines

/-!
# Statistics of a generation

What a generation produced: functions by category, the derived ones among them, other names,
sections, and bytes.
-/

namespace MathHeader

/-! ## Counts by category -/

/-- A count for each category. -/
structure CategoryCounts where
  scalar : Nat
  boolean : Nat
  arithmetic : Nat
  matrix : Nat
deriving DecidableEq, Repr

namespace CategoryCounts

/-- The counts before anything was counted. -/
def zero : CategoryCounts :=
  ⟨0, 0, 0, 0⟩

def of (c : CategoryCounts) : Category → Nat
  | .scalar => c.scalar
  | .boolean => c.boolean
  | .arithmetic => c.arithmetic
  | .matrix => c.matrix

def increment (c : CategoryCounts) : Category → CategoryCounts
  | .scalar => { c with scalar := c.scalar + 1 }
  | .boolean => { c with boolean := c.boolean + 1 }
  | .arithmetic => { c with arithmetic := c.arithmetic + 1 }
  | .matrix => { c with matrix := c.matrix + 1 }

/-- The sum of the counts. -/
def total (c : CategoryCounts) : Nat :=
  c.scalar + c.boolean + c.arithmetic + c.matrix

theorem of_increment (c : CategoryCounts) (k l : Category) :
    (c.increment k).of l = if l = k then c.of l + 1 else c.of l := by
  cases k <;> cases l <;> rfl

theorem total_increment (c : CategoryCounts) (k : Category) :
    (c.increment k).total = c.total + 1 := by
  cases k <;> simp only [increment, total] <;> omega

/-- The categories with a count above zero, in alphabetical order, with their counts. -/
def positive (c : CategoryCounts) : List (Category × Nat) :=
  ([.arithmetic, .boolean, .matrix, .scalar].map fun k => (k, c.of k)).filter fun (_, n) => 0 < n

end CategoryCounts

/-! ## Statistics -/

/-- What a generation produced. -/
structure Stats where
  /-- The functions, derived ones included. -/
  functions : Nat
  /-- The derived functions. -/
  derived : Nat
  /-- The claimed names of macros, structures and types. -/
  declarations : Nat
  sections : Nat
  bytes : Nat
  byCategory : CategoryCounts
deriving DecidableEq, Repr

namespace Stats

/-- The statistics before anything was produced. -/
def zero : Stats :=
  ⟨0, 0, 0, 0, 0, .zero⟩

/-- The lines of the counts by category; there are none before the first function. -/
def categoryLines (s : Stats) : List String :=
  match s.byCategory.positive with
  | [] => []
  | counts =>
    "  Per category:" :: counts.map fun (k, n) => "    " ++ k.title ++ ": " ++ toString n

def text (s : Stats) : String :=
  Text.unlines <|
    ["Generation Statistics:",
     "  Functions emitted: " ++ toString s.functions,
     "  Derived broadcast forms: " ++ toString s.derived,
     "  Macros and types: " ++ toString s.declarations,
     "  Sections: " ++ toString s.sections,
     "  Artifact size: " ++ toString s.bytes ++ " bytes"] ++
    s.categoryLines

end Stats

end MathHeader
