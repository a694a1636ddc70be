import MathHeader.Operation

/-!
# Comparisons of vectors

`any` and `all` reduce a vector of any element type to a truth value; `not` and the comparisons
give a vector of truth values.  Equality is commutative, so the form with the scalar second is
enough for it; an order is not, and gets both forms.  `comparisonRows` is the table of all of these.
-/

namespace MathHeader.Catalog

def predicate (name : String) (types : TypeClass) (operands : List String) (ret : ValueType)
    (body : String) (broadcast : Broadcast) : OperationSpec where
  name := name
  category := .boolean
  shapes := .vector
  types := types
  params := operands.map (·, .operand)
  ret := ret
  bodies := [(types, body)]
  broadcast := broadcast

/-- The comparisons of vectors. -/
def comparisonRows : List OperationSpec :=
  [ predicate "any" .any ["v"] .bool "return {@any:v.{c}};" .none,
    predicate "all" .any ["v"] .bool "return {@all:v.{c}};" .none,
    predicate "not" .any ["v"] .boolVector "return {@bvec:!v.{c}};" .none,
    predicate "eq" .any ["a", "b"] .boolVector "return {@bvec:a.{c} == b.{c}};" .vectorScalar,
    predicate "neq" .any ["a", "b"] .boolVector "return {@bvec:a.{c} != b.{c}};" .vectorScalar,
    predicate "lt" .numeric ["a", "b"] .boolVector "return {@bvec:a.{c} < b.{c}};" .both,
    predicate "lteq" .numeric ["a", "b"] .boolVector "return {@bvec:a.{c} <= b.{c}};" .both,
    predicate "gt" .numeric ["a", "b"] .boolVector "return {@bvec:a.{c} > b.{c}};" .both,
    predicate "gteq" .numeric ["a", "b"] .boolVector "return {@bvec:a.{c} >= b.{c}};" .both ]

end MathHeader.Catalog
