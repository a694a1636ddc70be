import MathHeader.Operation
import MathHeader.Taxonomy

/-!
# Catalogs

A catalog is an ordered list of operations.  For a taxonomy it gives the operations of each type,
and the count of functions that each operation contributes (`Catalog.coverage`).
-/

namespace MathHeader

/-- An ordered list of operations. -/
structure Catalog where
  operations : List Operation
deriving DecidableEq, Repr

namespace Catalog

/-! ## Operations by category and type -/

def operation? (c : Catalog) (category : Category) (name : String) : Option Operation :=
  c.operations.find? fun o => o.category == category && o.name == name

/-- The operations of a category that exist for a type, in the order of the catalog. -/
def operationsFor (c : Catalog) (category : Category) (t : ShapedType) : List Operation :=
  c.operations.filter fun o => o.category == category && o.appliesTo t

/-- The catalog of the given declarations; the first template that cannot be read is the fault. -/
def ofSpecs (specs : List OperationSpec) : Except GenError Catalog :=
  Catalog.mk <$> specs.mapM Operation.ofSpec

/-! ## Counts of functions -/

/-- How many functions an operation gives over the types of a taxonomy: for each type that it
exists for, the declared one and the derived ones. -/
def functionCount (o : Operation) (t : Taxonomy) : Nat :=
  ((t.combinations.filter o.appliesTo).flatMap fun ty => .base :: o.variants ty.shape).length

/-- The operations of a catalog with the count of functions that each gives. -/
def coverage (c : Catalog) (t : Taxonomy) : List (Operation × Nat) :=
  c.operations.map fun o => (o, functionCount o t)

end Catalog

end MathHeader
