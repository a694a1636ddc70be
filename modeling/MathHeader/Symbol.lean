import MathHeader.Shape
import MathHeader.Text.Lines

/-!
# Functions of the header and their names

An operation gives one function for each type that it exists for, and for a vector type it may
give further functions in which one operand is a scalar.  A `SymbolKey` says which of these a
function is, and `SymbolKey.name` is its identifier:

    rm_add_f32x3     add, both operands vectors
    rm_adds_f32x3    the second operand a scalar
    rm_ssub_f32x3    the first operand a scalar

The operation comes first and the type of the operands last, so that the functions of a comparison
are named after what they compare and not after the `bool` vector that they return.
-/

namespace MathHeader

/-! ## Which function -/

/-- The operands of a function of an operation. -/
inductive Variant where
  /-- The operands that the operation declares. -/
  | base
  /-- A vector and a scalar. -/
  | vectorScalar
  /-- A scalar and a vector. -/
  | scalarVector
deriving DecidableEq, Repr

/-- The description of a variant in messages. -/
def Variant.describe : Variant → String
  | .base => "base"
  | .vectorScalar => "vector-scalar"
  | .scalarVector => "scalar-vector"

/-- One function of an operation. -/
structure SymbolKey where
  op : String
  type : ShapedType
  variant : Variant
deriving DecidableEq, Repr

/-- The description of a function in messages. -/
def SymbolKey.describe (k : SymbolKey) : String :=
  k.op ++ "[" ++ k.type.token ++ ", " ++ k.variant.describe ++ "]"

/-! ## Names -/

/-- The name of an operation with the mark of a variant: an `s` on the side of the scalar. -/
def Variant.decorate (v : Variant) (op : String) : String :=
  match v with
  | .base => op
  | .vectorScalar => op ++ "s"
  | .scalarVector => "s" ++ op

/-- The identifier of a function. -/
def SymbolKey.name (k : SymbolKey) : String :=
  "rm_" ++ k.variant.decorate k.op ++ "_" ++ k.type.token

/-- The name of the macro that builds a value of a type from its components. -/
def ShapedType.constructorName (t : ShapedType) : String :=
  "rm_" ++ t.token

/-- The name of the macro that builds a vector with one value in every component. -/
def ShapedType.splatName (t : ShapedType) : String :=
  t.constructorName ++ "s"

/-! ## Declarations and definitions -/

/-- A parameter of a function. -/
structure Param where
  name : String
  type : String
deriving DecidableEq, Repr

/-- The types of a function. -/
structure Signature where
  ret : String
  params : List Param
deriving DecidableEq, Repr

def Param.declaration (p : Param) : String :=
  "const " ++ p.type ++ " " ++ p.name

/-- What stands between the parentheses of a declaration. -/
def Signature.parameters (s : Signature) : String :=
  if s.params.isEmpty then "void" else ", ".intercalate (s.params.map Param.declaration)

/-- The declaration of a function, without what follows it. -/
def Signature.declaration (s : Signature) (specifier name : String) : String :=
  specifier ++ " " ++ s.ret ++ " " ++ name ++ "(" ++ s.parameters ++ ")"

/-- A function of the header with its body. -/
structure FunctionSymbol where
  key : SymbolKey
  name : String
  signature : Signature
  body : String
deriving DecidableEq, Repr

/-- A line of a body inside its function: indented by four spaces unless it is empty. -/
def indent (line : String) : String :=
  if line.isEmpty then "" else "    " ++ line

/-- The lines of a definition: the declaration with an opening brace, the indented body, and a
closing brace. -/
def FunctionSymbol.lines (f : FunctionSymbol) (specifier : String) : List String :=
  (f.signature.declaration specifier f.name ++ " \x7b") ::
    (Text.lines f.body).map indent ++ ["\x7d"]

end MathHeader
