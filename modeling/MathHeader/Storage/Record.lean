import MathHeader.Storage.AliasGroup
import MathHeader.Storage.Overlay
import MathHeader.Taxonomy

/-!
# Structures of vectors and matrices

A vector is a union of its alias groups and of the plain array of its components.  A matrix is a
union of the array of its columns and of the array of arrays of its elements, column by column.
-/

namespace MathHeader.Storage

/-! ## The structure of a type -/

def recordTag (t : ShapedType) : String :=
  t.token ++ "_t"

/-- The lines of a structure that is a union of the given members. -/
def unionRecord (tag : String) (memberLines : List String) : List String :=
  ["struct " ++ tag ++ " \x7b",
   "    union \x7b"] ++
  memberLines ++
  ["    \x7d;",
   "\x7d;"]

def vectorMembers (element : Scalar) (w : Width) : List String :=
  (members w).map (fun group => "        " ++ groupText element group) ++
  ["",
   "        " ++ element.token ++ " raw[" ++ w.digits ++ "];"]

def matrixMembers (element : Scalar) (rows cols : Width) : List String :=
  ["        " ++ (ShapedType.ofWidth element rows).token ++ " cols[" ++ cols.digits ++ "];",
   "        " ++ element.token ++ " raw[" ++ cols.digits ++ "][" ++ rows.digits ++ "];"]

/-- The lines of the structure of a type; a scalar has none. -/
def recordLines (t : ShapedType) : List String :=
  match t.shape with
  | .scalar => []
  | .vector w => unionRecord (recordTag t) (vectorMembers t.element w)
  | .matrix rows cols => unionRecord (recordTag t) (matrixMembers t.element rows cols)

/-! ## The structures of a taxonomy -/

/-- The lines that name the structures as types. -/
def typedefLines (taxonomy : Taxonomy) : List String :=
  taxonomy.declared.map fun t => typedefLine (recordTag t) t.token

/-- The lines of the structures: those of vectors come before those of matrices, which use them. -/
def structLines (taxonomy : Taxonomy) : List String :=
  taxonomy.declared.flatMap recordLines

end MathHeader.Storage
