import MathHeader.Shape

/-!
# Classes of types and shapes

An operation does not name the types it exists for one by one.  It names a class of element types
and a class of shapes, and it exists for every type in both.
-/

namespace MathHeader

/-! ## Classes of element types -/

/-- A class of element types. -/
inductive TypeClass where
  | any
  | numeric
  | integer
  | signedOrFloat
  | float
deriving DecidableEq, Repr

namespace TypeClass

def all : List TypeClass :=
  [any, numeric, integer, signedOrFloat, float]

/-- Whether the numbers of a kind belong to a class. -/
def containsKind : TypeClass → ScalarKind → Bool
  | any, _ => true
  | numeric, k => k != .bool
  | integer, k => k == .unsigned || k == .signed
  | signedOrFloat, k => k == .signed || k == .float
  | float, k => k == .float

/-- Whether an element type belongs to a class; only its kind matters. -/
def contains (c : TypeClass) (s : Scalar) : Bool :=
  c.containsKind s.kind

end TypeClass

/-! ## Classes of shapes -/

/-- A class of shapes. -/
inductive ShapeClass where
  | scalar
  | vector
  | matrix
  | squareMatrix
deriving DecidableEq, Repr

namespace ShapeClass

def all : List ShapeClass :=
  [scalar, vector, matrix, squareMatrix]

def contains : ShapeClass → Shape → Bool
  | scalar, s => s.isScalar
  | vector, s => s.isVector
  | matrix, s => s.isMatrix
  | squareMatrix, s => s.isSquare

end ShapeClass

end MathHeader
