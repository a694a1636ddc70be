import MathHeader.Template.Render
import MathHeader.TypeClass

/-!
# Operations

An operation is declared once: a name, the types it exists for, its parameters and result relative
to the type of its operands, and one or more body templates, each for a class of element types.
For one type it gives a function of its own, and for a vector type its *broadcast rule* may add
functions in which one operand is a scalar.  These are not declared; they are derived, and call the
function that they are derived from with the scalar spread over a vector.

`Operation.instantiate` is the list of these functions, the declared one first.
-/

namespace MathHeader

/-! ## Declarations -/

/-- The part of the header that an operation is emitted in. -/
inductive Category where
  | scalar
  | boolean
  | arithmetic
  | matrix
deriving DecidableEq, Repr

/-- Every category, in the order of the header. -/
def Category.all : List Category :=
  [scalar, boolean, arithmetic, matrix]

def Category.title : Category → String
  | scalar => "scalar"
  | boolean => "boolean"
  | arithmetic => "arithmetic"
  | matrix => "matrix"

/-- Which derived functions a binary operation on vectors gets. -/
inductive Broadcast where
  | none
  /-- A vector and a scalar; enough if the operation is commutative. -/
  | vectorScalar
  /-- A vector and a scalar, in either order. -/
  | both
deriving DecidableEq, Repr

/-- The declaration of an operation.  Of its bodies the first whose class contains the element type
is used. -/
structure OperationSpec where
  name : String
  category : Category
  shapes : ShapeClass
  types : TypeClass
  params : List (String × ValueType)
  ret : ValueType
  bodies : List (TypeClass × String)
  broadcast : Broadcast
deriving DecidableEq, Repr

/-- An operation: a declaration whose body templates have been read. -/
structure Operation where
  name : String
  category : Category
  shapes : ShapeClass
  types : TypeClass
  params : List (String × ValueType)
  ret : ValueType
  bodies : List (TypeClass × Template)
  broadcast : Broadcast
deriving DecidableEq, Repr

namespace Operation

/-- The operation that a declaration describes. -/
def ofSpec (spec : OperationSpec) : Except GenError Operation := do
  let bodies ← spec.bodies.mapM fun (types, source) => do
    pure (types, ← Template.parse spec.name source)
  pure { spec with bodies := bodies }

def appliesTo (o : Operation) (t : ShapedType) : Bool :=
  o.types.contains t.element && o.shapes.contains t.shape

def bodyFor (o : Operation) (element : Scalar) : Except GenError Template :=
  match o.bodies.find? fun (types, _) => types.contains element with
  | some (_, template) => .ok template
  | none => .error (.missingBody o.name element)

/-- Whether an operation has two operands of one type, as a broadcast needs. -/
def isBinaryElementwise (o : Operation) : Bool :=
  o.params.length == 2 && o.params.all fun (_, v) => v == .operand

def variants (o : Operation) (shape : Shape) : List Variant :=
  if shape.isVector && o.isBinaryElementwise then
    match o.broadcast with
    | .none => []
    | .vectorScalar => [.vectorScalar]
    | .both => [.vectorScalar, .scalarVector]
  else []

/-! ## The functions for one type -/

/-- The token of a parameter or result for a type. -/
def valueToken (o : Operation) (t : ShapedType) (v : ValueType) : Except GenError String :=
  match v.token? t with
  | some token => .ok token
  | none => .error (.unresolved (.value v) o.name t)

def signatureWith (o : Operation) (params : List (String × ValueType)) (t : ShapedType) :
    Except GenError Signature := do
  let params ← params.mapM fun (name, v) => do pure ⟨name, ← o.valueToken t v⟩
  pure ⟨← o.valueToken t o.ret, params⟩

/-- The signature of the declared function for a type. -/
def signature (o : Operation) (t : ShapedType) : Except GenError Signature :=
  o.signatureWith o.params t

/-- The parameters of a derived function whose operands are named `a` and `b`. -/
def derivedParams (v : Variant) (a b : String) : List (String × ValueType) :=
  match v with
  | .base => [(a, .operand), (b, .operand)]
  | .vectorScalar => [(a, .operand), (b, .element)]
  | .scalarVector => [(a, .element), (b, .operand)]

/-- The body of a derived function: a call of `called` in which the scalar operand is spread over
a vector of type `t`. -/
def derivedBody (v : Variant) (called : String) (t : ShapedType) (a b : String) : String :=
  let spread (operand : String) : String := t.splatName ++ "(" ++ operand ++ ")"
  let (a, b) := match v with
    | .base => (a, b)
    | .vectorScalar => (a, spread b)
    | .scalarVector => (spread a, b)
  "return " ++ called ++ "(" ++ a ++ ", " ++ b ++ ");"

/-- A derived function of an operation whose operands are named `a` and `b`. -/
def derived (o : Operation) (t : ShapedType) (a b : String) (v : Variant) :
    Except GenError FunctionSymbol := do
  let key : SymbolKey := ⟨o.name, t, v⟩
  let base : SymbolKey := ⟨o.name, t, .base⟩
  pure ⟨key, key.name, ← o.signatureWith (derivedParams v a b) t, derivedBody v base.name t a b⟩

/-- The functions of an operation for a type: the declared one and then the derived ones. -/
def instantiate (o : Operation) (t : ShapedType) : Except GenError (List FunctionSymbol) := do
  let key : SymbolKey := ⟨o.name, t, .base⟩
  let body ← (← o.bodyFor t.element).render t
  let base : FunctionSymbol := ⟨key, key.name, ← o.signature t, body⟩
  match o.params with
  | [(a, _), (b, _)] => pure (base :: (← (o.variants t.shape).mapM (o.derived t a b)))
  | _ => pure [base]

end Operation

end MathHeader
