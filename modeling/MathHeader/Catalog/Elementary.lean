import MathHeader.Operation

/-!
# Elementary functions

The functions on single numbers.  Rounding does without a mathematics library: `trunc` goes through
the integer type as wide as the float below the magnitude from which on every float is an integer,
and returns its argument above it; `floor` and `ceil` correct `trunc` by one; `round` compares the
fractional part of the magnitude with one half, so that a tie goes away from zero.  The remainder
of floats is `a - trunc(a / b) * b`.

A body may call functions of earlier rows, so the order of the rows of `elementaryRows` is the order
of definition.
-/

namespace MathHeader.Catalog

/-- A row of the table: a function whose operands and result are all of one scalar type. -/
def elementary (name : String) (types : TypeClass) (operands : List String)
    (bodies : List (TypeClass × String)) : OperationSpec where
  name := name
  category := .scalar
  shapes := .scalar
  types := types
  params := operands.map (·, .operand)
  ret := .operand
  bodies := bodies
  broadcast := .none

/-- The elementary functions. -/
def elementaryRows : List OperationSpec :=
  [ elementary "abs" .signedOrFloat ["x"]
      [(.signedOrFloat, "return RM_ABS(x);")],
    elementary "min" .numeric ["a", "b"]
      [(.numeric, "return RM_MIN(a, b);")],
    elementary "max" .numeric ["a", "b"]
      [(.numeric, "return RM_MAX(a, b);")],
    elementary "clamp" .numeric ["v", "lo", "hi"]
      [(.numeric, "return RM_CLAMP(v, lo, hi);")],
    elementary "pow2" .numeric ["x"]
      [(.numeric, "return RM_POW2(x);")],
    elementary "trunc" .float ["x"]
      [(.float, "return (rm_abs_{T}(x) < {EXACT}) ? ({T})({I})x : x;")],
    elementary "mod" .numeric ["a", "b"]
      [(.integer, "return a % b;"),
       (.float, "return a - rm_trunc_{T}(a / b) * b;")],
    elementary "sign" .signedOrFloat ["x"]
      [(.signedOrFloat, "return ({T})RM_SIGN(x);")],
    elementary "copysign" .signedOrFloat ["x", "s"]
      [(.signedOrFloat, "return (s < 0) ? -rm_abs_{T}(x) : rm_abs_{T}(x);")],
    elementary "floor" .float ["x"]
      [(.float, "const {T} t = rm_trunc_{T}(x);\nreturn (t > x) ? t - 1 : t;")],
    elementary "ceil" .float ["x"]
      [(.float, "const {T} t = rm_trunc_{T}(x);\nreturn (t < x) ? t + 1 : t;")],
    elementary "round" .float ["x"]
      [(.float, "\n".intercalate
        ["const {T} m = rm_abs_{T}(x);",
         "const {T} t = rm_floor_{T}(m);",
         "const {T} r = (m - t >= 0.5{L}) ? t + 1 : t;",
         "return (x < 0) ? -r : r;"])],
    elementary "fract" .float ["x"]
      [(.float, "return x - rm_floor_{T}(x);")],
    elementary "wrap" .signedOrFloat ["v", "lo", "hi"]
      [(.signedOrFloat, "\n".intercalate
        ["const {T} span = hi - lo;",
         "return lo + rm_mod_{T}(span + rm_mod_{T}(v - lo, span), span);"])],
    elementary "deg2rad" .float ["x"]
      [(.float, "return x * RM_DEG2RAD_{TU};")],
    elementary "rad2deg" .float ["x"]
      [(.float, "return x * RM_RAD2DEG_{TU};")] ]

end MathHeader.Catalog
