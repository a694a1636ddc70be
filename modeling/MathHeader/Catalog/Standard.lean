import MathHeader.Catalog.Basic
import MathHeader.Catalog.Comparison
import MathHeader.Catalog.Componentwise
import MathHeader.Catalog.Elementary
import MathHeader.Catalog.Linear

/-!
# The standard catalog

`Catalog.standard` is the catalog of the four tables, one after the other, with their templates
read.
-/

namespace MathHeader.Catalog

/-- The declarations of a category in the standard catalog. -/
def rowsOf : Category → List OperationSpec
  | .scalar => elementaryRows
  | .boolean => comparisonRows
  | .arithmetic => componentwiseRows
  | .matrix => linearRows

/-- The declarations of the standard catalog. -/
def standardRows : List OperationSpec :=
  Category.all.flatMap rowsOf

def standard : Except GenError Catalog :=
  ofSpecs standardRows

end MathHeader.Catalog
