import MathHeader.Macros.Definition

/-!
# Utility macros

The bodies of the scalar operations are written in terms of the macros in `utilities`, which work
for every numeric type.
-/

namespace MathHeader

/-- The macros for magnitude, comparison, square, clamping and sign. -/
def utilities : List MacroDefinition :=
  [ .function "RM_ABS" ["_x"] "(((_x) < 0) ? -(_x) : (_x))",
    .function "RM_MIN" ["_a", "_b"] "(((_a) < (_b)) ? (_a) : (_b))",
    .function "RM_MAX" ["_a", "_b"] "(((_a) > (_b)) ? (_a) : (_b))",
    .function "RM_POW2" ["_x"] "((_x) * (_x))",
    .function "RM_CLAMP" ["_v", "_lo", "_hi"] "(RM_MIN(RM_MAX((_v), (_lo)), (_hi)))",
    .function "RM_SIGN" ["_x"] "(((_x) > 0) - ((_x) < 0))" ]

end MathHeader
