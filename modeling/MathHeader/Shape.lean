import MathHeader.Scalar

/-!
# Shapes and shaped types

A type of the header is a scalar type in a *shape*: the scalar itself, a vector of two to four
components, or a matrix of two to four rows and columns.  `ShapedType` is the pair, and its token
is the name that the type has in the header: `f32`, `f32x3`, `f32x2x4`.

A matrix is stored as an array of column vectors.  Its token gives the rows first, so that it
starts with the token of its column type.
-/

namespace MathHeader

/-! ## Widths -/

/-- The count of components of a vector, or one dimension of a matrix. -/
inductive Width where
  | two
  | three
  | four
deriving DecidableEq, Repr

namespace Width

/-- Every width, in ascending order. -/
def all : List Width :=
  [two, three, four]

theorem mem_all (w : Width) : w ∈ all := by
  cases w <;> decide

/-- The count that a width stands for. -/
def toNat : Width → Nat
  | two => 2
  | three => 3
  | four => 4

/-- The width of a given count, if vectors of that many components exist. -/
def ofNat? : Nat → Option Width
  | 2 => some two
  | 3 => some three
  | 4 => some four
  | _ => none

theorem ofNat?_eq_some_iff {n : Nat} {w : Width} : ofNat? n = some w ↔ n = w.toNat := by
  constructor
  · intro h
    unfold ofNat? at h
    split at h <;> simp at h <;> subst h <;> rfl
  · rintro rfl
    cases w <;> rfl

/-- The count in decimal. -/
def digits (w : Width) : String :=
  toString w.toNat

end Width

/-- The names of the components by position. -/
def positional : List String :=
  ["x", "y", "z", "w"]

/-- The names of the components of a vector. -/
def Width.components (w : Width) : List String :=
  positional.take w.toNat

theorem Width.length_components (w : Width) : w.components.length = w.toNat := by
  cases w <;> rfl

/-! ## Shapes -/

/-- The shape of a type. -/
inductive Shape where
  | scalar
  | vector (width : Width)
  | matrix (rows cols : Width)
deriving DecidableEq, Repr

namespace Shape

/-- Every shape: the scalar, the vectors by width, the matrices by rows and then by columns. -/
def all : List Shape :=
  scalar :: Width.all.map vector ++ Width.all.flatMap fun rows => Width.all.map (matrix rows)

theorem mem_all (s : Shape) : s ∈ all := by
  cases s with
  | scalar => decide
  | vector w => cases w <;> decide
  | matrix r c => cases r <;> cases c <;> decide

def isScalar : Shape → Bool
  | scalar => true
  | _ => false

def isVector : Shape → Bool
  | vector _ => true
  | _ => false

def isMatrix : Shape → Bool
  | matrix _ _ => true
  | _ => false

/-- Whether a shape is a matrix with as many rows as columns. -/
def isSquare : Shape → Bool
  | matrix rows cols => rows == cols
  | _ => false

/-- The count of components of a vector. -/
def width? : Shape → Option Width
  | vector w => some w
  | _ => none

/-- The vector that a column of a matrix is: one component for each row. -/
def column? : Shape → Option Shape
  | matrix rows _ => some (vector rows)
  | _ => none

/-- The vector that a row of a matrix is: one component for each column. -/
def row? : Shape → Option Shape
  | matrix _ cols => some (vector cols)
  | _ => none

def transposed? : Shape → Option Shape
  | matrix rows cols => some (matrix cols rows)
  | _ => none

/-- What a shape adds to the token of its elements. -/
def suffix : Shape → String
  | scalar => ""
  | vector w => "x" ++ w.digits
  | matrix rows cols => "x" ++ rows.digits ++ "x" ++ cols.digits

end Shape

/-! ## Shaped types -/

/-- A type of the header: its elements and their arrangement. -/
structure ShapedType where
  element : Scalar
  shape : Shape
deriving DecidableEq, Repr

namespace ShapedType

/-- The name of a type in the header. -/
def token (t : ShapedType) : String :=
  t.element.token ++ t.shape.suffix

abbrev ofWidth (element : Scalar) (w : Width) : ShapedType :=
  ⟨element, .vector w⟩

end ShapedType

end MathHeader
