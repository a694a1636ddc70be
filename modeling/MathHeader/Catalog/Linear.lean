import MathHeader.Operation

/-!
# Operations on matrices

A matrix is an array of column vectors.  The rows of `linearRows` that work element by element run
over the columns and call the vector function of the same name; `transpose` and `identity` index the
elements themselves.  `mulv` takes a vector with one component for each column and gives a column.
Only a square matrix has an identity.
-/

namespace MathHeader.Catalog

/-! ## Loops -/

/-- A body that runs over the columns of a matrix: it declares the result, does `step` for each
column `k`, and returns the result. -/
def overColumns (result step : String) : String :=
  "\n".intercalate
    [result,
     "for (usize k = 0; k < {C}; ++k) \x7b",
     "    " ++ step,
     "\x7d",
     "return r;"]

/-- A body that runs over the elements of a matrix: it declares the result, does `step` for each
element `j` of each column `k`, and returns the result. -/
def overElements (result step : String) : String :=
  "\n".intercalate
    [result,
     "for (usize k = 0; k < {C}; ++k) \x7b",
     "    for (usize j = 0; j < {R}; ++j) \x7b",
     "        " ++ step,
     "    \x7d",
     "\x7d",
     "return r;"]

/-! ## The table -/

/-- The shapes that a matrix operation exists for. -/
def linearShapes (name : String) : ShapeClass :=
  if name == "identity" then .squareMatrix else .matrix

def matrixRow (name : String) (types : TypeClass) (params : List (String × ValueType))
    (ret : ValueType) (body : String) : OperationSpec where
  name := name
  category := .matrix
  shapes := linearShapes name
  types := types
  params := params
  ret := ret
  bodies := [(types, body)]
  broadcast := .none

/-- The operations on matrices. -/
def linearRows : List OperationSpec :=
  [ matrixRow "add" .numeric [("a", .operand), ("b", .operand)] .operand
      (overColumns "{V} r;" "r.cols[k] = rm_add_{VC}(a.cols[k], b.cols[k]);"),
    matrixRow "sub" .numeric [("a", .operand), ("b", .operand)] .operand
      (overColumns "{V} r;" "r.cols[k] = rm_sub_{VC}(a.cols[k], b.cols[k]);"),
    matrixRow "neg" .signedOrFloat [("m", .operand)] .operand
      (overColumns "{V} r;" "r.cols[k] = rm_neg_{VC}(m.cols[k]);"),
    matrixRow "scale" .numeric [("m", .operand), ("s", .element)] .operand
      (overColumns "{V} r;" "r.cols[k] = rm_muls_{VC}(m.cols[k], s);"),
    matrixRow "transpose" .numeric [("m", .operand)] .transposed
      (overElements "{VT} r;" "r.raw[j][k] = m.raw[k][j];"),
    matrixRow "mulv" .numeric [("m", .operand), ("v", .row)] .column
      (overColumns "{VC} r = rm_{VC}s(0);"
        "r = rm_add_{VC}(r, rm_muls_{VC}(m.cols[k], v.raw[k]));"),
    matrixRow "identity" .numeric [] .operand
      (overElements "{V} r;" "r.raw[k][j] = ({T})(k == j);") ]

end MathHeader.Catalog
