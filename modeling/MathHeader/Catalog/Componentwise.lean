import MathHeader.Operation

/-!
# Arithmetic of vectors

Most rows apply an operator or an elementary function to each component and rebuild the vector.
The combined rows (`fma`, `clamps`, `fmas`, `fmass`) are written with vector functions of earlier
rows, derived ones included, which is why `add` and `mul` come before them.  The reductions
(`hadd`, `minv`, `maxv`, `dot`) give an element.  `componentwiseRows` is the table.
-/

namespace MathHeader.Catalog

def vectorRow (name : String) (types : TypeClass) (params : List (String × ValueType))
    (ret : ValueType) (body : String) (broadcast : Broadcast) : OperationSpec where
  name := name
  category := .arithmetic
  shapes := .vector
  types := types
  params := params
  ret := ret
  bodies := [(types, body)]
  broadcast := broadcast

/-- A row for a function of one vector. -/
def unaryRow (name : String) (types : TypeClass) (body : String) : OperationSpec :=
  vectorRow name types [("v", .operand)] .operand body .none

/-- A row for a function of two vectors. -/
def binaryRow (name : String) (types : TypeClass) (body : String) (broadcast : Broadcast) :
    OperationSpec :=
  vectorRow name types [("a", .operand), ("b", .operand)] .operand body broadcast

/-- The arithmetic of vectors. -/
def componentwiseRows : List OperationSpec :=
  [ unaryRow "neg" .signedOrFloat "return {@vec:-v.{c}};",
    unaryRow "abs" .signedOrFloat "return {@vec:rm_abs_{T}(v.{c})};",
    binaryRow "min" .numeric "return {@vec:rm_min_{T}(a.{c}, b.{c})};" .vectorScalar,
    binaryRow "max" .numeric "return {@vec:rm_max_{T}(a.{c}, b.{c})};" .vectorScalar,
    binaryRow "add" .numeric "return {@vec:a.{c} + b.{c}};" .vectorScalar,
    binaryRow "sub" .numeric "return {@vec:a.{c} - b.{c}};" .both,
    binaryRow "mul" .numeric "return {@vec:a.{c} * b.{c}};" .vectorScalar,
    binaryRow "div" .numeric "return {@vec:a.{c} / b.{c}};" .both,
    binaryRow "mod" .numeric "return {@vec:rm_mod_{T}(a.{c}, b.{c})};" .both,
    vectorRow "clamp" .numeric [("v", .operand), ("lo", .operand), ("hi", .operand)] .operand
      "return {@vec:rm_clamp_{T}(v.{c}, lo.{c}, hi.{c})};" .none,
    unaryRow "sign" .signedOrFloat "return {@vec:rm_sign_{T}(v.{c})};",
    binaryRow "copysign" .signedOrFloat "return {@vec:rm_copysign_{T}(a.{c}, b.{c})};" .both,
    vectorRow "fma" .numeric [("a", .operand), ("b", .operand), ("c", .operand)] .operand
      "return rm_add_{V}(rm_mul_{V}(a, b), c);" .none,
    vectorRow "clamps" .numeric [("v", .operand), ("lo", .element), ("hi", .element)] .operand
      "return rm_clamp_{V}(v, rm_{V}s(lo), rm_{V}s(hi));" .none,
    vectorRow "fmas" .numeric [("a", .operand), ("b", .operand), ("c", .element)] .operand
      "return rm_adds_{V}(rm_mul_{V}(a, b), c);" .none,
    vectorRow "fmass" .numeric [("a", .operand), ("b", .element), ("c", .element)] .operand
      "return rm_adds_{V}(rm_muls_{V}(a, b), c);" .none,
    unaryRow "floor" .float "return {@vec:rm_floor_{T}(v.{c})};",
    unaryRow "ceil" .float "return {@vec:rm_ceil_{T}(v.{c})};",
    unaryRow "round" .float "return {@vec:rm_round_{T}(v.{c})};",
    unaryRow "trunc" .float "return {@vec:rm_trunc_{T}(v.{c})};",
    unaryRow "fract" .float "return {@vec:rm_fract_{T}(v.{c})};",
    vectorRow "hadd" .numeric [("v", .operand)] .element "return {@sum:v.{c}};" .none,
    vectorRow "minv" .numeric [("v", .operand)] .element
      "return {@chain:rm_min_{T}:v.{c}};" .none,
    vectorRow "maxv" .numeric [("v", .operand)] .element
      "return {@chain:rm_max_{T}:v.{c}};" .none,
    vectorRow "dot" .numeric [("a", .operand), ("b", .operand)] .element
      "return {@sum:a.{c} * b.{c}};" .none ]

end MathHeader.Catalog
