import MathHeader.Shape

/-!
# Types of values

An operation is declared once for all the types that it exists for, so its parameters and its
result are described relative to the type of its operands.  A description need not fit: only a
matrix has columns.
-/

namespace MathHeader

/-- The type of a value, relative to the type of the operands. -/
inductive ValueType where
  /-- The type of the operands. -/
  | operand
  /-- The element type. -/
  | element
  /-- A truth value. -/
  | bool
  /-- A vector of truth values, as wide as the operand. -/
  | boolVector
  /-- A row of a matrix. -/
  | row
  /-- A column of a matrix. -/
  | column
  /-- The transposed matrix. -/
  | transposed
deriving DecidableEq, Repr

namespace ValueType

/-- Every description. -/
def all : List ValueType :=
  [operand, element, bool, boolVector, row, column, transposed]

/-- The name of a description in messages. -/
def name : ValueType → String
  | operand => "Operand"
  | element => "Element"
  | bool => "Bool"
  | boolVector => "BoolVector"
  | row => "Row"
  | column => "Column"
  | transposed => "Transposed"

/-- The type that a description gives for operands of type `t`, if there is one. -/
def type? (v : ValueType) (t : ShapedType) : Option ShapedType :=
  match v with
  | operand => some t
  | element => some ⟨t.element, .scalar⟩
  | bool => some ⟨.bool, .scalar⟩
  | boolVector => t.shape.width?.map (.ofWidth .bool)
  | row => t.shape.row?.map (⟨t.element, ·⟩)
  | column => t.shape.column?.map (⟨t.element, ·⟩)
  | transposed => t.shape.transposed?.map (⟨t.element, ·⟩)

def token? (v : ValueType) (t : ShapedType) : Option String :=
  (v.type? t).map ShapedType.token

end ValueType

end MathHeader
